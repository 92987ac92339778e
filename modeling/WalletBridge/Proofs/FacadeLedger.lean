/-
This file proves that every operation of the five facades keeps whatever account is kept: a
constructor that succeeds adds the handle of what it makes, and every other ending of every
operation leaves the holdings as they were. Each proof follows its operation step by step, whatever
the arguments are, whatever is released already and whatever the native side answers.
-/

import WalletBridge.Proofs.Ledger

namespace WalletBridge

variable {State : Type} {around : Surroundings State} {ledger : Ledger around}

namespace Settles

/-- A facade that is built around a wrapped object owns what the handle owns. -/
theorem wrapInto {Facade : Type} (kind : ResourceKind) (library : NativeLibrary)
    (raw : Option Address) (build : Handle kind → Facade) (holdings : Facade → List Holding)
    (holdings_build : ∀ handle, holdings (build handle) = handle.holdings) :
    Settles ledger (Handle.wrap kind library raw >>= fun handle => Run.pure (build handle))
      ((Payload.object kind).holdings library.id raw) holdings := by
  refine bind (wrap kind library raw) fun handle => ?_
  rw [← holdings_build]
  exact pure (build handle) holdings

/-! ### Databases -/

theorem memoryDatabase :
    Settles ledger around.memoryDatabase [] (fun database => database.handle.holdings) := by
  refine bind library fun library => ?_
  refine bind (call library.id .memoryDatabase) fun raw => ?_
  exact wrapInto .databaseConfig library raw DatabaseConfig.mk _ fun _ => rfl

theorem fileDatabase (path : Bytes) :
    Settles ledger (around.fileDatabase path) [] (fun database => database.handle.holdings) := by
  refine bind (lift _) fun text => ?_
  refine bind library fun library => ?_
  refine bind (lift _) fun octets => ?_
  refine query library.id (.openDatabase (some octets)) fun raw => ?_
  exact wrapInto .databaseConfig library raw DatabaseConfig.mk _ fun _ => rfl

/-! ### Wallets -/

theorem newWallet (descriptor : String) (change : Option String) (network : Network)
    (database : DatabaseConfig) :
    Settles ledger (around.newWallet descriptor change network database) []
      (fun wallet => wallet.handle.holdings) := by
  refine bind (lift _) fun descriptorOctets => ?_
  refine bind (lift _) fun changeOctets => ?_
  refine bind (lift _) fun networkOctets => ?_
  refine bind (lift _) fun address => ?_
  refine query database.handle.library.id
    (.newWallet (some descriptorOctets) changeOctets (some networkOctets) (some address))
    fun raw => ?_
  exact wrapInto .wallet database.handle.library raw (Wallet.mk · network) _ fun _ => rfl

theorem peekAddress (wallet : Wallet) (index : UInt32) :
    Settles ledger (around.peekAddress wallet index) [] (fun _ => []) := by
  refine bind (lift _) fun address => ?_
  exact query wallet.handle.library.id (.peekAddress (some address) index) fun raw =>
    takeText wallet.handle.library.id raw "address"

theorem revealNextAddress (wallet : Wallet) :
    Settles ledger (around.revealNextAddress wallet) [] (fun _ => []) := by
  refine bind (lift _) fun address => ?_
  exact query wallet.handle.library.id (.revealNextAddress (some address)) fun raw =>
    takeText wallet.handle.library.id raw "address"

theorem walletBalance (wallet : Wallet) :
    Settles ledger (around.walletBalance wallet) [] (fun _ => []) := by
  refine bind (lift _) fun address => ?_
  exact query wallet.handle.library.id (.balance (some address)) fun raw =>
    pure (Balance.ofRaw raw) fun _ => []

theorem listUnspent (wallet : Wallet) :
    Settles ledger (around.listUnspent wallet) [] (fun _ => []) := by
  refine bind (lift _) fun address => ?_
  refine query wallet.handle.library.id (.listUnspent (some address)) fun block => ?_
  exact sequence wallet.handle.library.id .outputs (Payload.outputs.holdings _)
    (fun _ => rfl) (fun _ _ => rfl) (around.releaseOutputs _) (fun _ _ => rfl) LocalUtxo.ofRaw block

theorem listTransactions (wallet : Wallet) :
    Settles ledger (around.listTransactions wallet) [] (fun _ => []) := by
  refine bind (lift _) fun address => ?_
  refine query wallet.handle.library.id (.listTransactions (some address)) fun block => ?_
  exact sequence wallet.handle.library.id .transactions (Payload.transactions.holdings _)
    (fun _ => rfl) (fun _ _ => rfl) (around.releaseTransactions _) (fun _ _ => rfl)
    TransactionDetails.ofRaw block

theorem sync (wallet : Wallet) (blockchain : Blockchain) :
    Settles ledger (around.sync wallet blockchain) [] (fun _ => []) := by
  refine bind (lift _) fun walletAddress => ?_
  refine bind (lift _) fun chainAddress => ?_
  exact query wallet.handle.library.id (.sync (some walletAddress) (some chainAddress)) fun _ =>
    pure () fun _ => []

theorem sign (wallet : Wallet) (psbt : Psbt) :
    Settles ledger (around.sign wallet psbt) [] (fun _ => []) := by
  refine bind (lift _) fun walletAddress => ?_
  refine bind (lift _) fun psbtAddress => ?_
  exact query wallet.handle.library.id (.sign (some walletAddress) (some psbtAddress)) fun raw =>
    pure raw fun _ => []

/-! ### Chain sources -/

theorem connect (config : ElectrumConfig) :
    Settles ledger (around.connect config) [] (fun blockchain => blockchain.handle.holdings) := by
  refine bind library fun library => ?_
  refine bind (lift _) fun url => ?_
  refine bind (lift _) fun socks5 => ?_
  refine query library.id (.connect (some (config.toRaw url socks5))) fun raw => ?_
  exact wrapInto .blockchain library raw Blockchain.mk _ fun _ => rfl

/-! ### Transaction builders -/

theorem newBuilder :
    Settles ledger around.newBuilder [] (fun builder => builder.handle.holdings) := by
  refine bind library fun library => ?_
  refine bind (call library.id .newBuilder) fun raw => ?_
  exact wrapInto .txBuilder library raw TxBuilder.mk _ fun _ => rfl

theorem addRecipient (builder : TxBuilder) (recipient : String) (amount : UInt64) :
    Settles ledger (around.addRecipient builder recipient amount) [] (fun _ => []) := by
  refine bind (lift _) fun octets => ?_
  refine bind (lift _) fun address => ?_
  exact query builder.handle.library.id (.addRecipient (some address) (some octets) amount)
    fun _ => pure () fun _ => []

theorem feeRate (builder : TxBuilder) (satPerVb : UInt64) :
    Settles ledger (around.feeRate builder satPerVb) [] (fun _ => []) := by
  refine bind (lift _) fun address => ?_
  exact query builder.handle.library.id (.feeRate (some address) satPerVb) fun _ =>
    pure () fun _ => []

theorem finish (builder : TxBuilder) (wallet : Wallet) :
    Settles ledger (around.finish builder wallet) [] (fun psbt => psbt.handle.holdings) := by
  refine bind (lift _) fun builderAddress => ?_
  refine bind (lift _) fun walletAddress => ?_
  refine query builder.handle.library.id (.finish (some builderAddress) (some walletAddress))
    fun raw => ?_
  exact wrapInto .psbt builder.handle.library raw Psbt.mk _ fun _ => rfl

/-! ### Partially signed transactions -/

theorem parsePsbt (base64 : String) :
    Settles ledger (around.parsePsbt base64) [] (fun psbt => psbt.handle.holdings) := by
  refine bind library fun library => ?_
  refine bind (lift _) fun octets => ?_
  refine query library.id (.parsePsbt (some octets)) fun raw => ?_
  exact wrapInto .psbt library raw Psbt.mk _ fun _ => rfl

theorem serialize (psbt : Psbt) :
    Settles ledger (around.serialize psbt) [] (fun _ => []) := by
  refine bind (lift _) fun address => ?_
  refine bind (call psbt.handle.library.id (.serialize (some address))) fun raw => ?_
  exact takeText psbt.handle.library.id raw "bdk_psbt_serialize"

theorem txid (psbt : Psbt) :
    Settles ledger (around.txid psbt) [] (fun _ => []) := by
  refine bind (lift _) fun address => ?_
  refine bind (call psbt.handle.library.id (.txid (some address))) fun raw => ?_
  exact takeText psbt.handle.library.id raw "bdk_psbt_txid"

end Settles

end WalletBridge
