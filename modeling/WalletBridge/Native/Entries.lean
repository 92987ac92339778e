/-
This file holds the entry points of the native library: what each of them does with its arguments,
with the objects in memory and with the wallet engine behind it. Arguments are checked in order,
before anything else is done. A path must not be blank, in the sense of Unicode.
-/

import WalletBridge.Boundary.Crossing
import WalletBridge.Native.Heap

namespace WalletBridge

/-! ### Blank texts -/

namespace Blank

/-- Whether a character has the property White_Space. -/
def isBlank (character : Char) : Bool :=
  let code := character.toNat
  (9 ≤ code && code ≤ 13) || code == 0x20 || code == 0x85 || code == 0xA0 || code == 0x1680 ||
    (0x2000 ≤ code && code ≤ 0x200A) || code == 0x2028 || code == 0x2029 || code == 0x202F ||
    code == 0x205F || code == 0x3000

/-- Whether a text has no character that is not blank. -/
def isBlankText (text : String) : Bool := text.toList.all isBlank

theorem isBlank_of_isWhitespace {character : Char} (white : character.isWhitespace = true) :
    isBlank character = true := by
  simp only [Char.isWhitespace, Bool.or_eq_true, decide_eq_true_eq] at white
  rcases white with ((rfl | rfl) | rfl) | rfl <;> rfl

end Blank

namespace Body

variable {engine : WalletEngine}

/-! ### Stores and wallets -/

/-- A database object for a file; a blank path names none. -/
def openDatabase (path : NativeString) : Body engine (Option Address) := do
  let path ← text "path" path
  if Blank.isBlankText path then fail .emptyPath else newObject (.database (.file path))

/-- Writes to a wallet's store what changed since the last time. -/
def persist (address : Address) (state : OpenWallet engine) : Body engine Unit := fun heap =>
  let (attempt, wallet, world) := engine.persist state.wallet state.store heap.world
  (attempt.mapCause .store,
    { heap.replace address (.wallet { state with wallet := wallet }) with world := world })

/-- Loads the wallet that a database holds, or creates it there. -/
def openWallet (descriptor change network : NativeString) (database : Option Address) :
    Body engine (OpenWallet engine) := do
  let descriptor ← text "descriptor" descriptor
  let change ← optionalText "change_descriptor" change
  let network ← text "network" network
  let (_, place) ← Body.database database
  match Chain.ofName? network with
  | none => fail (.network network)
  | some chain =>
    let store ← withWorld .store (engine.openStore place)
    let request := WalletRequest.mk descriptor change chain
    let loaded ← withWorld .load (engine.load request store)
    let wallet ← match loaded with
      | some wallet => pure wallet
      | none => withWorld .create (engine.create request store)
    pure ⟨wallet, store, chain⟩

/-- The address with an index. -/
def peekAddress (wallet : Option Address) (index : UInt32) : Body engine NativeString := do
  let (_, state) ← Body.wallet wallet
  if NativeFault.indexLimit < index.toNat then fail (.index index)
  else
    let address ← certain (engine.peek state.wallet index)
    newText address

/-- The address behind the last one that was handed out. What the wallet remembers of it is
written to the store before it is answered. -/
def revealNextAddress (wallet : Option Address) : Body engine NativeString := do
  let (place, state) ← Body.wallet wallet
  let (attempt, revealed) := engine.reveal state.wallet
  let state := { state with wallet := revealed }
  replace place (.wallet state)
  let address ← certain attempt
  persist place state
  newText address

/-! ### What a wallet owns -/

/-- The amounts of a wallet. -/
def balance (wallet : Option Address) : Body engine RawBalance := do
  let (_, state) ← Body.wallet wallet
  certain (engine.balance state.wallet)

/-- An output with its two strings. -/
def newOutput (output : WalletOutput) : Body engine RawOutput := do
  let txid ← newText output.txid
  let script ← newText output.script
  pure ⟨txid, output.vout, output.value, script, output.keychain.code⟩

/-- The outputs that a wallet can spend. -/
def listUnspent (wallet : Option Address) : Body engine (Block RawOutput) := do
  let (_, state) ← Body.wallet wallet
  let outputs ← each newOutput (engine.unspent state.wallet)
  newBlock outputs

/-- The fee on the wire: an unknown one, and one that does not fit, is a negative number. -/
def feeCode : Option UInt64 → Int64
  | some fee => if fee.toNat < values63 then Int64.ofInt fee.toNat else -1
  | none => -1

/-- A transaction with its string. -/
def newTransaction (transaction : WalletTransaction) : Body engine RawTransaction := do
  let txid ← newText transaction.txid
  let (height, time) := transaction.confirmation.getD (0, 0)
  pure ⟨txid, transaction.received, transaction.sent, feeCode transaction.fee,
    transaction.confirmation.isSome, height, time⟩

/-- The transactions that a wallet knows of. -/
def listTransactions (wallet : Option Address) : Body engine (Block RawTransaction) := do
  let (_, state) ← Body.wallet wallet
  let transactions ← each newTransaction (engine.transactions state.wallet)
  newBlock transactions

/-! ### Chain sources -/

/-- The settings of a connection: a negative timeout is none, and so is one that does not fit. -/
def timeoutOf (code : Int16) : Option UInt8 :=
  if 0 ≤ code.toInt ∧ code.toInt < 256 then some (UInt8.ofNat code.toInt.toNat) else none

/-- A connection with these settings. Searches take at least one step at a time. -/
def connect (settings : Option RawConnection) : Body engine (ChainSource engine) :=
  match settings with
  | none => fail (.nullArgument "config")
  | some settings => do
    let url ← text "url" settings.url
    let socks5 ← optionalText "socks5" settings.socks5
    let request := ConnectionRequest.mk url socks5 settings.retry (timeoutOf settings.timeout)
    let client ← withWorld .connection (engine.connect request)
    pure ⟨client, max settings.stopGap 1, max settings.batchSize 1⟩

/-- Brings a wallet up to date with a chain source. -/
def sync (wallet blockchain : Option Address) : Body engine UInt8 := do
  let (place, state) ← Body.wallet wallet
  let (_, source) ← Body.blockchain blockchain
  let news ← withWorld .connection
    (engine.scan source.client source.stopGap source.batchSize state.wallet)
  let (attempt, informed) := engine.learn news state.wallet
  let state := { state with wallet := informed }
  replace place (.wallet state)
  settle .disconnected attempt
  persist place state
  pure 0

/-! ### Transactions -/

/-- Signs what the wallet has keys for, and tells whether the transaction is final. -/
def sign (wallet psbt : Option Address) : Body engine Bool := do
  let (_, state) ← Body.wallet wallet
  let (place, signed) ← Body.psbt psbt
  let (attempt, after) := engine.sign state.wallet signed
  replace place (.psbt after)
  settle .signer attempt

/-- Adds a payment to what a builder has been told. -/
def addRecipient (builder : Option Address) (address : NativeString) (amount : UInt64) :
    Body engine UInt8 := do
  let (place, params) ← Body.builder builder
  let address ← text "address" address
  match BitcoinAddress.parse? address with
  | none => fail (.address address "no address of a known form")
  | some recipient =>
    replace place (.builder { params with recipients := params.recipients ++ [(recipient, amount)] })
    pure 0

/-- Tells a builder the rate: a unit of weight is a quarter of a virtual octet. -/
def feeRate (builder : Option Address) (satPerVb : UInt64) : Body engine UInt8 := do
  let (place, params) ← Body.builder builder
  let rate := satPerVb.toNat * 250
  if rate < values64 then
    replace place (.builder { params with rate := some (UInt64.ofNat rate) })
    pure 0
  else fail (.feeRate satPerVb)

/-- The payments of a builder, when all addresses are of the wallet's chain. -/
def payments (chain : Chain) :
    List (BitcoinAddress × UInt64) → Body engine (List (Bytes × UInt64))
  | [] => pure []
  | (recipient, amount) :: rest =>
    if recipient.fits chain then
      bind (payments chain rest) fun others => pure ((recipient.script, amount) :: others)
    else fail (.foreignAddress (recipient.text ++ " is not an address on " ++ chain.name))

/-- Builds the transaction that a builder has been told, out of a wallet's funds. What the wallet
remembers of it is written to the store before it is answered. -/
def finish (builder wallet : Option Address) : Body engine PartialTransaction := do
  let (_, params) ← Body.builder builder
  let (place, state) ← Body.wallet wallet
  let payments ← payments state.chain params.recipients
  let (attempt, changed) ← fun heap =>
    let (attempt, changed, world) :=
      engine.build ⟨payments, params.rate⟩ state.wallet heap.world
    (.value (attempt, changed), { heap with world := world })
  let state := { state with wallet := changed }
  replace place (.wallet state)
  let built ← settle .build attempt
  persist place state
  pure built

/-- The partially signed transaction of a text. -/
def parsePsbt (base64 : NativeString) : Body engine PartialTransaction := do
  let base64 ← text "base64" base64
  match PartialTransaction.parse? base64 with
  | some signed => pure signed
  | none => fail (.psbtText "not a partially signed transaction")

/-! ### The whole library -/

/-- What an entry point does. -/
def ofEntry {payload : Payload} (entry : Entry payload) : Body engine payload.Raw :=
  match entry with
  | .openDatabase path => openDatabase path
  | .newWallet descriptor change network database => do
    let state ← openWallet descriptor change network database
    newObject (.wallet state)
  | .peekAddress wallet index => peekAddress wallet index
  | .revealNextAddress wallet => revealNextAddress wallet
  | .balance wallet => balance wallet
  | .listUnspent wallet => listUnspent wallet
  | .listTransactions wallet => listTransactions wallet
  | .sync wallet blockchain => sync wallet blockchain
  | .sign wallet psbt => sign wallet psbt
  | .connect settings => do
    let source ← connect settings
    newObject (.blockchain source)
  | .addRecipient builder address amount => addRecipient builder address amount
  | .feeRate builder satPerVb => feeRate builder satPerVb
  | .finish builder wallet => do
    let built ← finish builder wallet
    newObject (.psbt built)
  | .parsePsbt base64 => do
    let signed ← parsePsbt base64
    newObject (.psbt signed)

end Body

namespace NativeHeap

variable {engine : WalletEngine}

/-- The answer of an entry point. -/
def answer {payload : Payload} (entry : Entry payload) (heap : NativeHeap engine) :
    Reply payload × NativeHeap engine :=
  (Body.ofEntry entry).respond heap

/-- Hands out an object that is made without a chance to fail. -/
def handObject (object : NativeObject engine) (heap : NativeHeap engine) :
    Option Address × NativeHeap engine :=
  let address := heap.made + 1
  (some address,
    { heap with objects := (address, object) :: heap.objects, made := address, live := heap.live + 1 })

/-- Hands out a text about a partially signed transaction, and null for null. -/
def handText (view : PartialTransaction → String) (psbt : Option Address)
    (heap : NativeHeap engine) : NativeString × NativeHeap engine :=
  match psbt.bind heap.object? with
  | some (.psbt signed) =>
    (some (Body.ownedOctets (view signed)), { heap with live := heap.live + 1 })
  | _ => (none, heap)

/-- What a direct call hands over. -/
def hand {payload : Payload} (call : DirectCall payload) (heap : NativeHeap engine) :
    payload.Raw × NativeHeap engine :=
  match call with
  | .memoryDatabase => heap.handObject (.database .memory)
  | .newBuilder => heap.handObject (.builder ⟨[], none⟩)
  | .serialize psbt => heap.handText (·.text) psbt
  | .txid psbt => heap.handText (·.transaction.identifier) psbt

/-- The native library over a wallet engine, the same for every way to load it. -/
def side : NativeSide (NativeHeap engine) where
  answer _ _ entry heap := heap.answer entry
  hand _ _ call heap := heap.hand call
  release _ freed heap := heap.release freed

end NativeHeap

end WalletBridge
