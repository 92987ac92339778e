/-
This file proves that the two lists of a wallet cross the boundary without loss. The native side
writes every item down as a struct, with owned strings, with a negative number for an unknown fee
and with a flag beside zeroed numbers for a missing confirmation; the host reads the structs one
after another and gives the block back with one release. What the host returns are the wallet's
items, in their order and field by field, and when it returns the library's memory is what it was:
every string, the block and the transit struct were counted once and taken out once.

Two things do not survive as they are: a zero character, which no text in hexadecimal digits holds,
and a fee beyond the signed numbers, which is read as unknown. What becomes of them is part of what
is proved, so that it is known for every list and not only for the lists without them.
-/

import WalletBridge.Host.Facade
import WalletBridge.Proofs.AnswerRoundTrip
import WalletBridge.Proofs.HeldObjects
import WalletBridge.Proofs.LiveAllocations
import WalletBridge.Text.Hex

namespace WalletBridge

variable {engine : WalletEngine}

/-! ### Texts and numbers -/

theorem Utf8.withoutZeros_of_notMem {text : String} (zeroFree : '\x00' ∉ text.toList) :
    Utf8.withoutZeros text = text := by
  have kept : text.toList.map Utf8.withoutZero = text.toList.map id := by
    refine List.map_congr_left fun character member => if_neg fun zero => zeroFree ?_
    rw [← zero]
    exact member
  rw [Utf8.withoutZeros, kept, List.map_id, String.ofList_toList]

theorem Hex.zero_notMem_encode (octets : Bytes) : '\x00' ∉ (Hex.encode octets).toList := by
  rw [Hex.encode, String.toList_ofList, Hex.encodeChars, List.mem_flatMap]
  rintro ⟨octet, -, member⟩
  have digits : ∀ value < 16, Hex.digit value ≠ '\x00' := by decide
  have small := octet.toNat_lt
  rcases List.mem_cons.mp member with high | member
  · exact digits (octet.toNat / 16) (by omega) high.symm
  · exact digits (octet.toNat % 16) (by omega) (List.mem_singleton.mp member).symm

theorem copyField_ownedOctets (text field : String) :
    copyField (some (Body.ownedOctets text)) field = .ok (Utf8.withoutZeros text) := by
  rw [copyField, Body.ownedOctets_eq, Utf8.untilZero_encode_withoutZeros, Utf8.decode_encode]

/-- A fee comes back unless it lies beyond the signed numbers, where the negative ones mean an
unknown fee. -/
theorem feeOfCode_feeCode (fee : Option UInt64) :
    feeOfCode (Body.feeCode fee) = fee.filter fun known => known.toNat < values63 := by
  cases fee with
  | none => rfl
  | some known =>
    rw [Option.filter_some, Body.feeCode]
    by_cases fits : known.toNat < values63
    · have signed : (Int64.ofInt known.toNat).toInt = known.toNat := by
        unfold values63 at fits
        exact Int64.toInt_ofInt_of_le (by omega) (by omega)
      rw [if_pos fits, if_pos (decide_eq_true fits), feeOfCode, signed,
        if_pos (Int.natCast_nonneg _), Int.toNat_natCast, UInt64.ofNat_toNat]
    · rw [if_neg fits, if_neg (by rwa [decide_eq_true_eq])]
      rfl

theorem Keychain.ofCode_code (keychain : Keychain) :
    Keychain.ofCode keychain.code = .ok keychain := by
  cases keychain <;> rfl

/-! ### Outputs -/

namespace WalletOutput

/-- The struct that an output crosses in. -/
def raw (output : WalletOutput) : RawOutput :=
  ⟨some (Body.ownedOctets output.txid), output.vout, output.value,
    some (Body.ownedOctets output.script), output.keychain.code⟩

/-- The output in the host's words. -/
def utxo (output : WalletOutput) : LocalUtxo :=
  ⟨⟨output.txid, output.vout⟩, ⟨output.value, output.script⟩, output.keychain⟩

/-- What is left of an output behind the boundary. -/
def crossed (output : WalletOutput) : WalletOutput :=
  { output with
    txid := Utf8.withoutZeros output.txid
    script := Utf8.withoutZeros output.script }

/-- An output whose texts hold no zero character. -/
def IsSpelled (output : WalletOutput) : Prop :=
  '\x00' ∉ output.txid.toList ∧ '\x00' ∉ output.script.toList

theorem crossed_eq {output : WalletOutput} (spelled : output.IsSpelled) :
    output.crossed = output := by
  rw [crossed, Utf8.withoutZeros_of_notMem spelled.1, Utf8.withoutZeros_of_notMem spelled.2]

theorem ofRaw_raw (output : WalletOutput) :
    LocalUtxo.ofRaw output.raw = .ok output.crossed.utxo := by
  rw [LocalUtxo.ofRaw, raw, copyField_ownedOctets, copyField_ownedOctets, Keychain.ofCode_code]
  rfl

theorem newOutput_apply (output : WalletOutput) (heap : NativeHeap engine) :
    Body.newOutput output heap = (.value output.raw, heap.counted 2) := by
  rw [show heap.counted 2 = (heap.counted 1).counted 1 from (heap.counted_counted 1 1).symm]
  rfl

end WalletOutput

/-! ### Transactions -/

namespace WalletTransaction

/-- The struct that a transaction crosses in. -/
def raw (transaction : WalletTransaction) : RawTransaction :=
  let (height, time) := transaction.confirmation.getD (0, 0)
  ⟨some (Body.ownedOctets transaction.txid), transaction.received, transaction.sent,
    Body.feeCode transaction.fee, transaction.confirmation.isSome, height, time⟩

/-- The transaction in the host's words. -/
def details (transaction : WalletTransaction) : TransactionDetails :=
  ⟨transaction.txid, transaction.received, transaction.sent, transaction.fee,
    transaction.confirmation.map fun (height, time) => ⟨height, time⟩⟩

/-- What is left of a transaction behind the boundary. -/
def crossed (transaction : WalletTransaction) : WalletTransaction :=
  { transaction with
    txid := Utf8.withoutZeros transaction.txid
    fee := transaction.fee.filter fun known => known.toNat < values63 }

/-- A transaction whose text holds no zero character, and whose fee is none beyond the signed
numbers. -/
def IsSpelled (transaction : WalletTransaction) : Prop :=
  '\x00' ∉ transaction.txid.toList ∧ ∀ known ∈ transaction.fee, known.toNat < values63

theorem crossed_eq {transaction : WalletTransaction} (spelled : transaction.IsSpelled) :
    transaction.crossed = transaction := by
  obtain ⟨zeroFree, fits⟩ := spelled
  have fee : (transaction.fee.filter fun known => known.toNat < values63) = transaction.fee := by
    cases unknown : transaction.fee with
    | none => rfl
    | some known => exact Option.filter_some_pos (decide_eq_true (fits known unknown))
  rw [crossed, Utf8.withoutZeros_of_notMem zeroFree, fee]

/-- The flag tells an unconfirmed transaction from one that was confirmed at height and time
zero. -/
theorem ofRaw_raw (transaction : WalletTransaction) :
    TransactionDetails.ofRaw transaction.raw = .ok transaction.crossed.details := by
  rw [TransactionDetails.ofRaw, raw, copyField_ownedOctets]
  show Except.ok (_ : TransactionDetails) = _
  rw [feeOfCode_feeCode, details, crossed]
  cases transaction.confirmation <;> rfl

theorem newTransaction_apply (transaction : WalletTransaction) (heap : NativeHeap engine) :
    Body.newTransaction transaction heap = (.value transaction.raw, heap.counted 1) := rfl

end WalletTransaction

/-! ### Lists -/

variable {Item Raw Content State : Type}

/-- A list whose items are written down one after another, each with as many allocations. -/
theorem Body.each_apply {body : Item → Body engine Raw} {write : Item → Raw} {size : Nat}
    (writes : ∀ item heap, body item heap = (.value (write item), heap.counted size))
    (items : List Item) (heap : NativeHeap engine) :
    Body.each body (items.map .value) heap =
      (.value (items.map write), heap.counted (size * items.length : Nat)) := by
  induction items generalizing heap with
  | nil => exact congrArg (Prod.mk _) heap.counted_zero.symm
  | cons item rest inductionHypothesis =>
    rw [List.map_cons, Body.each]
    simp only [Body.bind, Body.certain, Body.settle, Attempt.mapCause, writes,
      inductionHypothesis, Body.pure]
    rw [NativeHeap.counted_counted, List.length_cons, Nat.mul_succ, Nat.add_comm]
    rfl

/-- A list whose items are read without a look at the state. -/
theorem Run.each_apply {read : Raw → Except BridgeError Content} {write : Item → Raw}
    {view : Item → Content} (reads : ∀ item, read (write item) = .ok (view item))
    (items : List Item) (state : State) :
    Run.each (fun raw => Run.lift (read raw)) (items.map write) state =
      (.value (items.map view), state) := by
  induction items with
  | nil => rfl
  | cons item rest inductionHypothesis =>
    rw [List.map_cons, Run.each]
    simp only [Run.bind, Run.lift, reads, Outcome.ofExcept, inductionHypothesis, Run.pure]
    rfl

theorem total_map_of_eq {size : Item → Nat} (each : Nat) (same : ∀ item, size item = each)
    (items : List Item) : total (items.map size) = each * items.length := by
  induction items with
  | nil => rfl
  | cons item rest inductionHypothesis =>
    rw [List.map_cons, total, inductionHypothesis, same, List.length_cons, Nat.mul_succ,
      Nat.add_comm]


/-! ### The calls -/

variable {payload : Payload} {wallet : Wallet} {address : Address}
  {process : Host (NativeHeap engine)} {state : OpenWallet engine}

theorem allocations_outputs (outputs : List WalletOutput) :
    (Release.outputs (outputs.map WalletOutput.raw) 0).allocations = 2 * outputs.length + 1 := by
  have strings : ∀ output, (RawOutput.allocations ∘ WalletOutput.raw) output = 2 := fun _ => rfl
  rw [Release.allocations, List.map_map, total_map_of_eq 2 strings, Nat.add_comm]

theorem allocations_transactions (transactions : List WalletTransaction) :
    (Release.transactions (transactions.map WalletTransaction.raw) 0).allocations =
      transactions.length + 1 := by
  have strings : ∀ transaction,
      (RawTransaction.allocations ∘ WalletTransaction.raw) transaction = 1 := fun _ => rfl
  rw [Release.allocations, List.map_map, total_map_of_eq 1 strings, Nat.add_comm, Nat.one_mul]

theorem listUnspent_apply {heap : NativeHeap engine} {outputs : List WalletOutput}
    (held : heap.object? address = some (.wallet state))
    (owned : engine.unspent state.wallet = outputs.map .value) :
    Body.listUnspent (some address) heap =
      (.value (.held (outputs.map WalletOutput.raw) 0),
        heap.counted (Release.outputs (outputs.map WalletOutput.raw) 0).allocations) := by
  rw [Body.listUnspent, Body.bind_apply, Body.wallet_apply held]
  simp only
  rw [owned, Body.bind_apply, Body.each_apply WalletOutput.newOutput_apply, allocations_outputs]
  show (_, (heap.counted _).counted 1) = _
  rw [NativeHeap.counted_counted]
  rfl

theorem listTransactions_apply {heap : NativeHeap engine} {transactions : List WalletTransaction}
    (held : heap.object? address = some (.wallet state))
    (known : engine.transactions state.wallet = transactions.map .value) :
    Body.listTransactions (some address) heap =
      (.value (.held (transactions.map WalletTransaction.raw) 0),
        heap.counted
          (Release.transactions (transactions.map WalletTransaction.raw) 0).allocations) := by
  rw [Body.listTransactions, Body.bind_apply, Body.wallet_apply held]
  simp only
  rw [known, Body.bind_apply, Body.each_apply WalletTransaction.newTransaction_apply,
    allocations_transactions]
  show (_, (heap.counted _).counted 1) = _
  rw [NativeHeap.counted_counted, Nat.one_mul]
  rfl

/-! ### Blocks -/

/-- A release of a block with what its elements own. -/
def Release.IsBlock : Release → Prop
  | .outputs .. | .transactions .. => True
  | _ => False

/-- The block and the transit struct are all that an answered list adds to the count. -/
theorem NativeHeap.release_listed (heap : NativeHeap engine) {block : Release}
    (isBlock : block.IsBlock) :
    (((heap.counted block.allocations).counted 1).release block).release (.transit payload none) =
      heap := by
  have freed : ∀ counted : NativeHeap engine,
      counted.release block = counted.counted (-(block.allocations : Nat)) := by
    intro counted
    rw [NativeHeap.counted, ← Int.sub_eq_add_neg]
    cases block with
    | outputs elements spare => rfl
    | transactions elements spare => rfl
    | transit payload error => exact isBlock.elim
    | text octets => exact isBlock.elim
    | object kind address => exact isBlock.elim
  have balance : (block.allocations : Int) +
      (1 + (-(block.allocations : Nat) + -((1 + errorAllocations none : Nat) : Int))) = 0 := by
    rw [errorAllocations]
    omega
  rw [freed, release_transit, counted_counted, counted_counted, counted_counted, balance,
    counted_zero]

/-! ### The account of a list -/

/-- A stretch of a journal that gives back what it makes due, each release once, with so many
allocations altogether. -/
structure Crossing.Settles (crossings : List Crossing) (allocations : Nat) : Prop where
  paid : (Crossing.allPaid crossings).Perm (Crossing.allDue crossings)
  once : (Crossing.allPaid crossings).Nodup
  amount : total ((Crossing.allPaid crossings).map (·.2.allocations)) = allocations

/-- What crosses the boundary for a list: the question with its answer, the release of the block
and the release of the transit struct, the last first. -/
def listCrossings (library : LibraryId) (entry : Entry payload) (value : payload.Raw)
    (block : Release) : List Crossing :=
  [.released library (.transit payload none), .released library block,
    .asked library payload entry (some ⟨value, none⟩)]

theorem listCrossings_settles (library : LibraryId) (entry : Entry payload) (value : payload.Raw)
    {block : Release} (owed : payloadRelease? payload value = some block)
    (isBlock : block.IsBlock) :
    Crossing.Settles (listCrossings library entry value block) (block.allocations + 1) := by
  have due : Crossing.allDue (listCrossings library entry value block) =
      [(library, .transit payload none), (library, block)] := by
    show _ ++ (List.map _ (_ ++ (payloadRelease? payload value).toList) ++ []) = _
    rw [owed]
    rfl
  refine ⟨?_, ?_, ?_⟩
  · rw [due]
    exact .refl _
  · show List.Nodup [(library, .transit payload none), (library, block)]
    rw [List.nodup_cons, List.mem_singleton]
    refine ⟨fun same => ?_, List.pairwise_singleton _ _⟩
    rw [← (Prod.mk.inj same).2] at isBlock
    exact isBlock
  · show 1 + errorAllocations none + (block.allocations + 0) = block.allocations + 1
    rw [errorAllocations]
    omega

/-- A process with more in its journal. -/
def Host.noting {State : Type} (process : Host State) (crossings : List Crossing) : Host State :=
  { process with journal := crossings ++ process.journal }

/-- A question that is answered with a block, which is read and given back. -/
theorem Surroundings.query_list (loader : Loader) (library : LibraryId) (entry : Entry payload)
    {convert : payload.Raw → Action (NativeHeap engine) Content} {value : payload.Raw}
    {content : Content} {block : Release} (isBlock : block.IsBlock)
    (answered : Body.ofEntry entry process.native =
      (.value value, process.native.counted block.allocations))
    (reads : ∀ process, convert value process =
      (.value content, (nativeSurroundings engine loader).release library block process)) :
    (nativeSurroundings engine loader).query library entry convert process =
      (.value content, process.noting (listCrossings library entry value block)) := by
  have reply : (nativeSurroundings engine loader).side.answer library entry process.native =
      (some ⟨value, none⟩, (process.native.counted block.allocations).counted 1) := by
    show (Body.ofEntry entry).respond process.native = _
    rw [Body.respond, answered]
    rfl
  rw [query, Run.bind_apply, ask, reply]
  show (convert value).guarded _ _ = _
  rw [Run.guarded, reads]
  exact congrArg (fun native => (Outcome.value content, { process with
    native := native, journal := listCrossings library entry value block ++ process.journal }))
    (process.native.release_listed isBlock)

theorem listUnspent_eq (loader : Loader) {outputs : List WalletOutput}
    (live : wallet.handle.slot = some address)
    (held : process.native.object? address = some (.wallet state))
    (owned : engine.unspent state.wallet = outputs.map .value) :
    (nativeSurroundings engine loader).listUnspent wallet process =
      (.value (outputs.map (·.crossed.utxo)),
        process.noting (listCrossings wallet.handle.library.id (.listUnspent (some address))
          (.held (outputs.map WalletOutput.raw) 0)
          (.outputs (outputs.map WalletOutput.raw) 0))) := by
  have place : wallet.handle.address = .ok address := by rw [Handle.address, live]
  rw [Surroundings.listUnspent, Run.bind_apply, place]
  refine Surroundings.query_list loader _ (.listUnspent (some address)) trivial
    (listUnspent_apply held owned) fun process => ?_
  rw [toSequence, Run.guarded, Run.each_apply WalletOutput.ofRaw_raw]
  rfl

theorem listTransactions_eq (loader : Loader) {transactions : List WalletTransaction}
    (live : wallet.handle.slot = some address)
    (held : process.native.object? address = some (.wallet state))
    (known : engine.transactions state.wallet = transactions.map .value) :
    (nativeSurroundings engine loader).listTransactions wallet process =
      (.value (transactions.map (·.crossed.details)),
        process.noting (listCrossings wallet.handle.library.id (.listTransactions (some address))
          (.held (transactions.map WalletTransaction.raw) 0)
          (.transactions (transactions.map WalletTransaction.raw) 0))) := by
  have place : wallet.handle.address = .ok address := by rw [Handle.address, live]
  rw [Surroundings.listTransactions, Run.bind_apply, place]
  refine Surroundings.query_list loader _ (.listTransactions (some address)) trivial
    (listTransactions_apply held known) fun process => ?_
  rw [toSequence, Run.guarded, Run.each_apply WalletTransaction.ofRaw_raw]
  rfl

/-! ### Both lists -/

/-- Asked for the lists of a wallet that is there, the host returns the wallet's items in their
order, each as it crosses the boundary, and nothing in the process has changed but the journal. The
journal tells of one question, and of releases of exactly what it made due: the transit struct and
the block with two strings for each output, or one for each transaction. Items whose texts hold no
zero character, and whose fees are unknown or no larger than a signed number can be, cross as they
are. -/
theorem lists_cross_without_loss (loader : Loader) (wallet : Wallet)
    (process : Host (NativeHeap engine)) (outputs : List WalletOutput)
    (transactions : List WalletTransaction) (live : wallet.handle.slot = some address)
    (held : process.native.object? address = some (.wallet state))
    (owned : engine.unspent state.wallet = outputs.map .value)
    (known : engine.transactions state.wallet = transactions.map .value) :
    let around := nativeSurroundings engine loader
    (∃ crossings, Crossing.Settles crossings (2 * outputs.length + 2) ∧
      around.listUnspent wallet process =
        (.value (outputs.map (·.crossed.utxo)), process.noting crossings)) ∧
    (∃ crossings, Crossing.Settles crossings (transactions.length + 2) ∧
      around.listTransactions wallet process =
        (.value (transactions.map (·.crossed.details)), process.noting crossings)) ∧
    ((∀ output ∈ outputs, output.IsSpelled) →
      (around.listUnspent wallet process).1 = .value (outputs.map (·.utxo))) ∧
    ((∀ transaction ∈ transactions, transaction.IsSpelled) →
      (around.listTransactions wallet process).1 = .value (transactions.map (·.details))) := by
  intro around
  have unspent := listUnspent_eq loader live held owned
  have recorded := listTransactions_eq loader live held known
  refine ⟨⟨_, ?_, unspent⟩, ⟨_, ?_, recorded⟩, fun spelled => ?_, fun spelled => ?_⟩
  · have settled := listCrossings_settles wallet.handle.library.id (.listUnspent (some address))
      (.held (outputs.map WalletOutput.raw) 0) rfl trivial
    rwa [allocations_outputs] at settled
  · have settled := listCrossings_settles wallet.handle.library.id
      (.listTransactions (some address))
      (.held (transactions.map WalletTransaction.raw) 0) rfl trivial
    rwa [allocations_transactions] at settled
  · rw [unspent]
    refine congrArg Outcome.value (List.map_congr_left fun output member => ?_)
    rw [WalletOutput.crossed_eq (spelled output member)]
  · rw [recorded]
    refine congrArg Outcome.value (List.map_congr_left fun transaction member => ?_)
    rw [WalletTransaction.crossed_eq (spelled transaction member)]

/-- An engine without stores and chain sources, whose wallets are what they own and know. -/
def listingEngine : WalletEngine where
  World := Unit
  Store := Unit
  Wallet := List WalletOutput × List WalletTransaction
  Client := Unit
  News := Unit
  openStore _ world := (.value (), world)
  load _ _ world := (.value none, world)
  create _ _ world := (.value ([], []), world)
  persist wallet _ world := (.value (), wallet, world)
  peek _ _ := .panicked none
  reveal wallet := (.panicked none, wallet)
  balance _ := .value ⟨0, 0, 0, 0⟩
  unspent wallet := wallet.1.map .value
  transactions wallet := wallet.2.map .value
  connect _ world := (.refused "no chain source", world)
  scan _ _ _ _ world := (.refused "no chain source", world)
  learn _ wallet := (.value (), wallet)
  sign _ signed := (.value false, signed)
  build _ wallet world := (.refused .noOutputsSelected, wallet, world)

/-- Two outputs of one transaction, one of them with the largest amount. -/
def listedOutputs : List WalletOutput :=
  [⟨Hex.encode [0xAB, 0x10], 0, 18446744073709551615, Hex.encode [0x00, 0x14], .external⟩,
   ⟨Hex.encode [0xAB, 0x10], 4294967295, 0, Hex.encode [], .internal⟩]

/-- A transaction nobody confirmed, one confirmed at height and time zero with the largest fee that
is known, and one with no fee at all. -/
def listedTransactions : List WalletTransaction :=
  [⟨Hex.encode [0xAB, 0x10], 5000, 0, none, none⟩,
   ⟨Hex.encode [0x01], 0, 18446744073709551615, some 9223372036854775807, some (0, 0)⟩,
   ⟨Hex.encode [0x02], 1, 1, some 0, some (4294967295, 18446744073709551615)⟩]

/-- A process that holds one wallet with these lists. -/
def listingProcess : Host (NativeHeap listingEngine) :=
  .fresh none ⟨(), [(1, .wallet ⟨(listedOutputs, listedTransactions), (), .regtest⟩)], 1, 1⟩

theorem listed_items_cross_without_loss :
    let around := nativeSurroundings listingEngine fun _ => .error "absent"
    let wallet : Wallet := ⟨⟨⟨0, "linked", abiVersion⟩, some 1⟩, .regtest⟩
    (around.listUnspent wallet listingProcess).1 = .value (listedOutputs.map (·.utxo)) ∧
      (around.listTransactions wallet listingProcess).1 =
        .value (listedTransactions.map (·.details)) ∧
      (around.listTransactions wallet listingProcess).2.native = listingProcess.native := by
  intro around wallet
  obtain ⟨-, ⟨crossings, -, recorded⟩, unspent, transactions⟩ :=
    lists_cross_without_loss (fun _ => .error "absent") wallet listingProcess listedOutputs
      listedTransactions rfl rfl rfl rfl
  refine ⟨unspent ?_, transactions ?_, ?_⟩
  · intro output member
    simp only [listedOutputs, List.mem_cons, List.not_mem_nil, or_false] at member
    rcases member with rfl | rfl <;>
      exact ⟨Hex.zero_notMem_encode _, Hex.zero_notMem_encode _⟩
  · intro transaction member
    simp only [listedTransactions, List.mem_cons, List.not_mem_nil, or_false] at member
    rcases member with rfl | rfl | rfl <;>
      exact ⟨Hex.zero_notMem_encode _, by rintro known ⟨⟩ <;> decide⟩
  · rw [recorded]
    rfl

end WalletBridge
