/-
This file holds the five kinds of objects that callers work with and every operation on them. An
operation checks its text arguments first, then that its objects are still there, the receiver
before the argument, and only then crosses the boundary. A constructor wraps what the native side
made. Whatever an answer owns is released when it has been read.
-/

import WalletBridge.Host.Handle
import WalletBridge.Host.Values
import WalletBridge.Host.ElectrumConfig

namespace WalletBridge

/-- Where a wallet keeps its data. -/
structure DatabaseConfig where
  handle : Handle .databaseConfig
  deriving DecidableEq

/-- A wallet and the network it was opened for. -/
structure Wallet where
  handle : Handle .wallet
  network : Network
  deriving DecidableEq

/-- A connection to a chain source. -/
structure Blockchain where
  handle : Handle .blockchain
  deriving DecidableEq

/-- The parameters of a transaction to be built. -/
structure TxBuilder where
  handle : Handle .txBuilder
  deriving DecidableEq

/-- A partially signed transaction. -/
structure Psbt where
  handle : Handle .psbt
  deriving DecidableEq

/-! ### Reading payloads -/

/-- The balance that crossed the boundary. -/
def Balance.ofRaw (raw : RawBalance) : Balance :=
  ⟨raw.immature, raw.trustedPending, raw.untrustedPending, raw.confirmed⟩

/-- The output that crossed the boundary: first its two strings, then its keychain. -/
def LocalUtxo.ofRaw (raw : RawOutput) : Except BridgeError LocalUtxo := do
  let txid ← copyField raw.txid "outpoint.txid"
  let script ← copyField raw.script "txout.script_pubkey"
  let keychain ← Keychain.ofCode raw.keychain
  pure ⟨⟨txid, raw.vout⟩, ⟨raw.value, script⟩, keychain⟩

/-- The fee behind its code on the wire, where a negative number means an unknown fee. -/
def feeOfCode (code : Int64) : Option UInt64 :=
  if 0 ≤ code.toInt then some (UInt64.ofNat code.toInt.toNat) else none

/-- The transaction that crossed the boundary. -/
def TransactionDetails.ofRaw (raw : RawTransaction) : Except BridgeError TransactionDetails := do
  let txid ← copyField raw.txid "txid"
  pure ⟨txid, raw.received, raw.sent, feeOfCode raw.fee,
    if raw.isConfirmed then some ⟨raw.height, raw.timestamp⟩ else none⟩

/-- The connection settings as they cross the boundary. -/
def ElectrumConfig.toRaw (config : ElectrumConfig) (url : Bytes) (socks5 : NativeString) :
    RawConnection :=
  ⟨some url, socks5, config.retry,
    match config.timeout with
    | some seconds => Int16.ofNat seconds.toNat
    | none => -1,
    config.stopGap, config.batchSize⟩

namespace Surroundings

variable {State : Type} (around : Surroundings State)

/-! ### Databases -/

/-- A database that lives in memory. -/
def memoryDatabase : Action State DatabaseConfig := do
  let library ← around.library
  let raw ← around.call library.id .memoryDatabase
  let handle ← Handle.wrap .databaseConfig library raw
  pure ⟨handle⟩

/-- A database in a file. The path is a byte string, because file names are; it must be UTF-8. -/
def fileDatabase (path : Bytes) : Action State DatabaseConfig := do
  let text ← Run.lift <|
    match Utf8.decode path with
    | .ok text => .ok text
    | .error _ => .error (.invalidInput ("path is not UTF-8: " ++ Utf8.decodeLossy path))
  let library ← around.library
  let octets ← Run.lift (argumentOctets text "path")
  around.query library.id (.openDatabase (some octets)) fun raw => do
    let handle ← Handle.wrap .databaseConfig library raw
    pure ⟨handle⟩

/-! ### Wallets -/

/-- A wallet for one or two descriptors in a database. -/
def newWallet (descriptor : String) (change : Option String) (network : Network)
    (database : DatabaseConfig) : Action State Wallet := do
  let descriptorOctets ← Run.lift (argumentOctets descriptor "descriptor")
  let changeOctets ← Run.lift (optionalOctets change "change_descriptor")
  let networkOctets ← Run.lift (argumentOctets network.name "network")
  let address ← Run.lift database.handle.address
  let library := database.handle.library
  around.query library.id
    (.newWallet (some descriptorOctets) changeOctets (some networkOctets) (some address))
    fun raw => do
      let handle ← Handle.wrap .wallet library raw
      pure ⟨handle, network⟩

/-- The address with an index, which stays unrevealed. -/
def peekAddress (wallet : Wallet) (index : UInt32) : Action State String := do
  let address ← Run.lift wallet.handle.address
  let library := wallet.handle.library.id
  around.query library (.peekAddress (some address) index) fun raw =>
    around.takeText library raw "address"

/-- The next address that was never revealed. -/
def revealNextAddress (wallet : Wallet) : Action State String := do
  let address ← Run.lift wallet.handle.address
  let library := wallet.handle.library.id
  around.query library (.revealNextAddress (some address)) fun raw =>
    around.takeText library raw "address"

/-- The amounts of the wallet. -/
def walletBalance (wallet : Wallet) : Action State Balance := do
  let address ← Run.lift wallet.handle.address
  around.query wallet.handle.library.id (.balance (some address)) fun raw =>
    Run.pure (Balance.ofRaw raw)

/-- Gives an output block back. -/
def releaseOutputs (library : LibraryId) (block : Block RawOutput) (process : Host State) :
    Host State :=
  match block with
  | .null _ => process
  | .held elements spare => around.release library (.outputs elements spare) process

/-- Gives a transaction block back. -/
def releaseTransactions (library : LibraryId) (block : Block RawTransaction)
    (process : Host State) : Host State :=
  match block with
  | .null _ => process
  | .held elements spare => around.release library (.transactions elements spare) process

/-- The outputs that the wallet can spend. -/
def listUnspent (wallet : Wallet) : Action State (List LocalUtxo) := do
  let address ← Run.lift wallet.handle.address
  let library := wallet.handle.library.id
  around.query library (.listUnspent (some address)) fun block =>
    toSequence block (around.releaseOutputs library block) fun raw => Run.lift (LocalUtxo.ofRaw raw)

/-- The transactions that concern the wallet. -/
def listTransactions (wallet : Wallet) : Action State (List TransactionDetails) := do
  let address ← Run.lift wallet.handle.address
  let library := wallet.handle.library.id
  around.query library (.listTransactions (some address)) fun block =>
    toSequence block (around.releaseTransactions library block) fun raw =>
      Run.lift (TransactionDetails.ofRaw raw)

/-- Brings the wallet up to date with a chain source. -/
def sync (wallet : Wallet) (blockchain : Blockchain) : Action State Unit := do
  let walletAddress ← Run.lift wallet.handle.address
  let chainAddress ← Run.lift blockchain.handle.address
  around.query wallet.handle.library.id (.sync (some walletAddress) (some chainAddress)) fun _ =>
    Run.pure ()

/-- Signs what the wallet has keys for, and tells whether the transaction is final. -/
def sign (wallet : Wallet) (psbt : Psbt) : Action State Bool := do
  let walletAddress ← Run.lift wallet.handle.address
  let psbtAddress ← Run.lift psbt.handle.address
  around.query wallet.handle.library.id (.sign (some walletAddress) (some psbtAddress)) Run.pure

/-! ### Chain sources -/

/-- A connection with these settings. -/
def connect (config : ElectrumConfig) : Action State Blockchain := do
  let library ← around.library
  let url ← Run.lift (argumentOctets config.url "url")
  let socks5 ← Run.lift (optionalOctets config.socks5 "socks5")
  around.query library.id (.connect (some (config.toRaw url socks5))) fun raw => do
    let handle ← Handle.wrap .blockchain library raw
    pure ⟨handle⟩

/-! ### Transaction builders -/

/-- A builder without parameters. -/
def newBuilder : Action State TxBuilder := do
  let library ← around.library
  let raw ← around.call library.id .newBuilder
  let handle ← Handle.wrap .txBuilder library raw
  pure ⟨handle⟩

/-- Adds a payment. -/
def addRecipient (builder : TxBuilder) (recipient : String) (amount : UInt64) :
    Action State Unit := do
  let octets ← Run.lift (argumentOctets recipient "address")
  let address ← Run.lift builder.handle.address
  around.query builder.handle.library.id (.addRecipient (some address) (some octets) amount)
    fun _ => Run.pure ()

/-- Sets the fee rate. -/
def feeRate (builder : TxBuilder) (satPerVb : UInt64) : Action State Unit := do
  let address ← Run.lift builder.handle.address
  around.query builder.handle.library.id (.feeRate (some address) satPerVb) fun _ => Run.pure ()

/-- Builds the transaction from a wallet's funds. -/
def finish (builder : TxBuilder) (wallet : Wallet) : Action State Psbt := do
  let builderAddress ← Run.lift builder.handle.address
  let walletAddress ← Run.lift wallet.handle.address
  let library := builder.handle.library
  around.query library.id (.finish (some builderAddress) (some walletAddress)) fun raw => do
    let handle ← Handle.wrap .psbt library raw
    pure ⟨handle⟩

/-! ### Partially signed transactions -/

/-- The transaction that a base64 text spells. -/
def parsePsbt (base64 : String) : Action State Psbt := do
  let library ← around.library
  let octets ← Run.lift (argumentOctets base64 "psbt")
  around.query library.id (.parsePsbt (some octets)) fun raw => do
    let handle ← Handle.wrap .psbt library raw
    pure ⟨handle⟩

/-- The base64 text of the transaction. -/
def serialize (psbt : Psbt) : Action State String := do
  let address ← Run.lift psbt.handle.address
  let library := psbt.handle.library.id
  let direct : DirectCall .text := .serialize (some address)
  let raw ← around.call library direct
  around.takeText library raw direct.symbol

/-- The identifier of the transaction. -/
def txid (psbt : Psbt) : Action State String := do
  let address ← Run.lift psbt.handle.address
  let library := psbt.handle.library.id
  let direct : DirectCall .text := .txid (some address)
  let raw ← around.call library direct
  around.takeText library raw direct.symbol

end Surroundings

end WalletBridge
