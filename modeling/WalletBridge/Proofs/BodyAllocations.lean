/-
This file counts what the entry points of the native library allocate. A body counts its value when
it adds to the memory's count exactly the allocations that its value is, and adds nothing where it
ends without a value. Every entry point counts its payload, as long as the engine lists what a
wallet owns without a panic: a panic in the middle of a list would leave the strings of the elements
before it counted, and nobody would have them. The answer of an entry point, and what a direct call
hands over, then adds exactly what it makes due.
-/

import WalletBridge.Native.Entries
import WalletBridge.Proofs.Ledger

namespace WalletBridge

/-- Every item of the lists that an engine makes comes without a panic. -/
structure WalletEngine.ListsQuietly (engine : WalletEngine) : Prop where
  unspent : ∀ wallet, ∀ item ∈ engine.unspent wallet, item.isValue = true
  transactions : ∀ wallet, ∀ item ∈ engine.transactions wallet, item.isValue = true

/-- Whether an entry point answers with what a wallet lists. -/
def Entry.isListing {payload : Payload} : Entry payload → Bool
  | .listUnspent _ | .listTransactions _ => true
  | _ => false

/-- What an attempt allocated: nothing, unless it ended with a value. -/
def Attempt.allocations {Cause Content : Type} (owned : Content → Nat) :
    Attempt Cause Content → Nat
  | .value content => owned content
  | _ => 0

namespace Body

variable {engine : WalletEngine} {Content Result Cause Item : Type}

/-- A body adds to the count what its value is, and nothing where it ends without a value. -/
def Counts (body : Body engine Content) (owned : Content → Nat) : Prop :=
  ∀ heap, (body heap).2.live = heap.live + (body heap).1.allocations owned

/-- A body that adds nothing to the count. -/
abbrev Quiet (body : Body engine Content) : Prop := Counts body fun _ => 0

/-- A body that counts its value and always has one. -/
def Yields (body : Body engine Content) (owned : Content → Nat) : Prop :=
  ∀ heap, ∃ content after,
    body heap = (.value content, after) ∧ after.live = heap.live + owned content

/-! ### Composing bodies -/

theorem Yields.counts {body : Body engine Content} {owned : Content → Nat}
    (yields : Yields body owned) : Counts body owned := by
  intro heap
  obtain ⟨content, after, ended, counted⟩ := yields heap
  rw [ended]
  exact counted

theorem Counts.of_live_eq {body : Body engine Content}
    (same : ∀ heap, (body heap).2.live = heap.live) : Quiet body := by
  intro heap
  rw [same heap]
  cases (body heap).1 <;> exact (Int.add_zero heap.live).symm

theorem Counts.pure (content : Content) : Quiet (Pure.pure content : Body engine Content) :=
  .of_live_eq fun _ => rfl

theorem Counts.fail (fault : NativeFault) (owned : Content → Nat) :
    Counts (fail fault : Body engine Content) owned :=
  fun heap => (Int.add_zero heap.live).symm

/-- What is counted must be in the value that a body ends with, so nothing may be counted before
something that can fail. -/
theorem Counts.bind {first : Body engine Content} {next : Content → Body engine Result}
    {owned : Result → Nat} (quiet : Quiet first) (counts : ∀ content, Counts (next content) owned) :
    Counts (first >>= next) owned := by
  intro heap
  have before := quiet heap
  rw [bind_apply]
  generalize first heap = ended at before ⊢
  obtain ⟨attempt, after⟩ := ended
  cases attempt with
  | value content =>
    have unchanged : after.live = heap.live := before.trans (Int.add_zero _)
    rw [← unchanged]
    exact counts content after
  | refused fault => exact before
  | panicked text => exact before

theorem Counts.settle (fault : Cause → NativeFault) (attempt : Attempt Cause Content) :
    Quiet (settle fault attempt : Body engine Content) :=
  .of_live_eq fun _ => rfl

theorem Counts.certain (attempt : Attempt Empty Content) :
    Quiet (certain attempt : Body engine Content) :=
  .of_live_eq fun _ => rfl

theorem Counts.withWorld (fault : Cause → NativeFault)
    (action : engine.World → Attempt Cause Content × engine.World) :
    Quiet (withWorld fault action) :=
  .of_live_eq fun _ => rfl

theorem Counts.replace (address : Address) (object : NativeObject engine) :
    Quiet (replace address object) :=
  .of_live_eq fun _ => rfl

theorem Counts.persist (address : Address) (state : OpenWallet engine) :
    Quiet (persist address state) :=
  .of_live_eq fun _ => rfl

/-! ### Arguments -/

theorem Counts.text (name : String) (raw : NativeString) :
    Quiet (text name raw : Body engine String) := by
  unfold Body.text
  split
  · exact .fail _ _
  · split
    · exact .pure _
    · exact .fail _ _

theorem Counts.optionalText (name : String) (raw : NativeString) :
    Quiet (optionalText name raw : Body engine (Option String)) := by
  unfold Body.optionalText
  split
  · exact .pure _
  · exact Counts.bind (.text name _) fun text => .pure (some text)

theorem Counts.object (name : String) (view : NativeObject engine → Option Content)
    (raw : Option Address) : Quiet (object name view raw) := by
  refine .of_live_eq fun heap => ?_
  unfold Body.object
  split <;> rfl

theorem Counts.payments (chain : Chain) (recipients : List (BitcoinAddress × UInt64)) :
    Quiet (payments chain recipients : Body engine (List (Bytes × UInt64))) := by
  induction recipients with
  | nil => exact .pure []
  | cons head rest inductionHypothesis =>
    unfold Body.payments
    split
    · exact Counts.bind inductionHypothesis fun others => .pure (_ :: others)
    · exact .fail _ _

/-! ### Allocations -/

theorem Yields.newObject (kind : ResourceKind) (object : NativeObject engine) :
    Yields (newObject object) (Payload.object kind).allocations :=
  fun _ => ⟨_, _, rfl, rfl⟩

theorem Yields.newText (text : String) :
    Yields (newText text : Body engine NativeString) NativeString.allocations :=
  fun _ => ⟨_, _, rfl, rfl⟩

theorem Yields.newOutput (output : WalletOutput) :
    Yields (newOutput output : Body engine RawOutput) RawOutput.allocations :=
  fun heap => ⟨_, _, rfl, Int.add_assoc heap.live 1 1⟩

theorem Yields.newTransaction (transaction : WalletTransaction) :
    Yields (newTransaction transaction : Body engine RawTransaction) RawTransaction.allocations :=
  fun _ => ⟨_, _, rfl, rfl⟩

/-- A list without panics yields what its elements own, one after another. -/
theorem Yields.each {body : Item → Body engine Content} {owned : Content → Nat}
    (yields : ∀ item, Yields (body item) owned) (items : List (Attempt Empty Item))
    (quiet : ∀ item ∈ items, item.isValue = true) :
    Yields (each body items) fun contents => total (contents.map owned) := by
  induction items with
  | nil => exact fun heap => ⟨[], heap, rfl, (Int.add_zero heap.live).symm⟩
  | cons item rest inductionHypothesis =>
    intro heap
    have present := quiet item List.mem_cons_self
    cases item with
    | refused cause => cases present
    | panicked text => cases present
    | value item =>
      obtain ⟨content, between, ended, counted⟩ := yields item heap
      have quietRest := fun other member => quiet other (List.mem_cons_of_mem _ member)
      obtain ⟨contents, after, endedRest, countedRest⟩ := inductionHypothesis quietRest between
      refine ⟨content :: contents, after, ?_, ?_⟩
      · simp only [Body.each, Body.bind, Body.certain, Body.settle, Attempt.mapCause, ended,
          endedRest, Body.pure]
      · show after.live = heap.live + ((owned content + total (contents.map owned) : Nat) : Int)
        rw [countedRest, counted, Int.natCast_add, Int.add_assoc]

/-- A block is one allocation beside those of its elements. -/
theorem Yields.newBlock {listing : Body engine (List Content)} {owned : Content → Nat}
    (yields : Yields listing fun contents => total (contents.map owned)) :
    Yields (listing >>= newBlock) (Block.allocations owned) := by
  intro heap
  obtain ⟨contents, between, ended, counted⟩ := yields heap
  refine ⟨.held contents 0, { between with live := between.live + 1 }, ?_, ?_⟩
  · rw [bind_apply, ended]
    rfl
  · show between.live + 1 = heap.live + ((1 + total (contents.map owned) : Nat) : Int)
    rw [counted, Int.natCast_add, Int.add_assoc, Int.add_comm ((1 : Nat) : Int)]
    rfl

/-! ### Entry points -/

theorem Counts.openWallet (descriptor change network : NativeString) (database : Option Address) :
    Quiet (openWallet descriptor change network database : Body engine (OpenWallet engine)) := by
  refine Counts.bind (.text _ _) fun descriptor => ?_
  refine Counts.bind (.optionalText _ _) fun change => ?_
  refine Counts.bind (.text _ _) fun network => ?_
  refine Counts.bind (.object _ _ _) fun ⟨_, place⟩ => ?_
  simp only
  split
  · exact .fail _ _
  · refine Counts.bind (.withWorld _ _) fun store => ?_
    refine Counts.bind (.withWorld _ _) fun loaded => ?_
    split
    · exact Counts.bind (.pure _) fun wallet => .pure _
    · exact Counts.bind (.withWorld _ _) fun wallet => .pure _

theorem Counts.connect (settings : Option RawConnection) :
    Quiet (connect settings : Body engine (ChainSource engine)) := by
  unfold Body.connect
  split
  · exact .fail _ _
  · refine Counts.bind (.text _ _) fun url => ?_
    refine Counts.bind (.optionalText _ _) fun socks5 => ?_
    exact Counts.bind (.withWorld _ _) fun client => .pure _

theorem Counts.sync (wallet blockchain : Option Address) :
    Quiet (sync wallet blockchain : Body engine UInt8) := by
  refine Counts.bind (.object _ _ _) fun found => ?_
  refine Counts.bind (.object _ _ _) fun source => ?_
  refine Counts.bind (.withWorld _ _) fun news => ?_
  refine Counts.bind (.replace _ _) fun _ => ?_
  refine Counts.bind (.settle _ _) fun _ => ?_
  exact Counts.bind (.persist _ _) fun _ => .pure 0

theorem Counts.sign (wallet psbt : Option Address) :
    Quiet (sign wallet psbt : Body engine Bool) := by
  refine Counts.bind (.object _ _ _) fun found => ?_
  refine Counts.bind (.object _ _ _) fun signed => ?_
  exact Counts.bind (.replace _ _) fun _ => .settle _ _

theorem Counts.addRecipient (builder : Option Address) (address : NativeString) (amount : UInt64) :
    Quiet (addRecipient builder address amount : Body engine UInt8) := by
  refine Counts.bind (.object _ _ _) fun found => ?_
  refine Counts.bind (.text _ _) fun address => ?_
  split
  · exact .fail _ _
  · exact Counts.bind (.replace _ _) fun _ => .pure 0

theorem Counts.feeRate (builder : Option Address) (satPerVb : UInt64) :
    Quiet (feeRate builder satPerVb : Body engine UInt8) := by
  refine Counts.bind (.object _ _ _) fun found => ?_
  simp only
  split
  · exact Counts.bind (.replace _ _) fun _ => .pure 0
  · exact .fail _ _

theorem Counts.finish (builder wallet : Option Address) :
    Quiet (finish builder wallet : Body engine PartialTransaction) := by
  refine Counts.bind (.object _ _ _) fun params => ?_
  refine Counts.bind (.object _ _ _) fun found => ?_
  refine Counts.bind (.payments _ _) fun payments => ?_
  refine Counts.bind (.of_live_eq fun _ => rfl) fun built => ?_
  refine Counts.bind (.replace _ _) fun _ => ?_
  refine Counts.bind (.settle _ _) fun transaction => ?_
  exact Counts.bind (.persist _ _) fun _ => .pure transaction

theorem Counts.parsePsbt (base64 : NativeString) :
    Quiet (parsePsbt base64 : Body engine PartialTransaction) := by
  refine Counts.bind (.text _ _) fun base64 => ?_
  split
  · exact .pure _
  · exact .fail _ _

theorem Counts.openDatabase (path : NativeString) :
    Counts (openDatabase path : Body engine (Option Address))
      (Payload.object .databaseConfig).allocations := by
  refine Counts.bind (.text _ _) fun path => ?_
  split
  · exact .fail _ _
  · exact (Yields.newObject .databaseConfig _).counts

theorem Counts.peekAddress (wallet : Option Address) (index : UInt32) :
    Counts (peekAddress wallet index : Body engine NativeString) NativeString.allocations := by
  refine Counts.bind (.object _ _ _) fun ⟨_, state⟩ => ?_
  simp only
  split
  · exact .fail _ _
  · exact Counts.bind (.certain _) fun address => (Yields.newText address).counts

theorem Counts.revealNextAddress (wallet : Option Address) :
    Counts (revealNextAddress wallet : Body engine NativeString) NativeString.allocations := by
  refine Counts.bind (.object _ _ _) fun found => ?_
  refine Counts.bind (.replace _ _) fun _ => ?_
  refine Counts.bind (.certain _) fun address => ?_
  exact Counts.bind (.persist _ _) fun _ => (Yields.newText address).counts

theorem Counts.listUnspent (lists : engine.ListsQuietly) (wallet : Option Address) :
    Counts (listUnspent wallet : Body engine (Block RawOutput))
      (Block.allocations RawOutput.allocations) := by
  refine Counts.bind (.object _ _ _) fun found => ?_
  exact (Yields.newBlock (.each .newOutput _ (lists.unspent _))).counts

theorem Counts.listTransactions (lists : engine.ListsQuietly) (wallet : Option Address) :
    Counts (listTransactions wallet : Body engine (Block RawTransaction))
      (Block.allocations RawTransaction.allocations) := by
  refine Counts.bind (.object _ _ _) fun found => ?_
  exact (Yields.newBlock (.each .newTransaction _ (lists.transactions _))).counts

/-- Whatever the engine does, every entry point but the lists counts its payload. -/
theorem Counts.ofEntry_of_not_listing {payload : Payload} (entry : Entry payload)
    (single : entry.isListing = false) :
    Counts (ofEntry entry : Body engine payload.Raw) payload.allocations := by
  cases entry with
  | openDatabase path => exact .openDatabase path
  | newWallet descriptor change network database =>
    exact Counts.bind (.openWallet _ _ _ _) fun state => (Yields.newObject .wallet _).counts
  | peekAddress wallet index => exact .peekAddress wallet index
  | revealNextAddress wallet => exact .revealNextAddress wallet
  | balance wallet => exact Counts.bind (.object _ _ _) fun found => .certain _
  | listUnspent wallet => cases single
  | listTransactions wallet => cases single
  | sync wallet blockchain => exact .sync wallet blockchain
  | sign wallet psbt => exact .sign wallet psbt
  | connect settings =>
    exact Counts.bind (.connect settings) fun source => (Yields.newObject .blockchain _).counts
  | addRecipient builder address amount => exact .addRecipient builder address amount
  | feeRate builder satPerVb => exact .feeRate builder satPerVb
  | finish builder wallet =>
    exact Counts.bind (.finish _ _) fun built => (Yields.newObject .psbt _).counts
  | parsePsbt base64 =>
    exact Counts.bind (.parsePsbt base64) fun signed => (Yields.newObject .psbt _).counts

/-- Every entry point counts its payload. -/
theorem Counts.ofEntry (lists : engine.ListsQuietly) {payload : Payload} (entry : Entry payload) :
    Counts (ofEntry entry : Body engine payload.Raw) payload.allocations := by
  cases entry with
  | listUnspent wallet => exact .listUnspent lists wallet
  | listTransactions wallet => exact .listTransactions lists wallet
  | _ => exact .ofEntry_of_not_listing _ rfl

end Body

/-! ### Crossings -/

/-- How many allocations the releases give back that settle some holdings. -/
def outlay (holdings : List Holding) : Nat :=
  total (holdings.map fun holding => holding.debt.2.allocations)

theorem outlay_cons (holding : Holding) (holdings : List Holding) :
    outlay (holding :: holdings) = holding.debt.2.allocations + outlay holdings := rfl

theorem outlay_append (left right : List Holding) :
    outlay (left ++ right) = outlay left + outlay right := by
  unfold outlay
  rw [List.map_append, total_append]

theorem outlay_perm {first second : List Holding} (same : first.Perm second) :
    outlay first = outlay second := by
  induction same with
  | nil => rfl
  | cons holding _ inductionHypothesis => rw [outlay_cons, outlay_cons, inductionHypothesis]
  | swap first second rest => rw [outlay_cons, outlay_cons, outlay_cons, outlay_cons]; omega
  | trans _ _ firstHypothesis secondHypothesis => exact firstHypothesis.trans secondHypothesis

/-- Releasing a payload gives back all that the payload is. -/
theorem outlay_payload (library : LibraryId) (payload : Payload) (value : payload.Raw) :
    outlay (payload.holdings library value) = payload.allocations value := by
  cases payload with
  | object kind => cases value <;> rfl
  | text => cases value <;> rfl
  | outputs => cases value <;> rfl
  | transactions => cases value <;> rfl
  | unit => rfl
  | flag => rfl
  | balance => rfl

namespace NativeHeap

variable {engine : WalletEngine}

/-- An answer adds to the count what it makes due. -/
theorem answer_live (lists : engine.ListsQuietly) (library : LibraryId) {payload : Payload}
    (entry : Entry payload) (heap : NativeHeap engine) :
    (heap.answer entry).2.live =
      heap.live +
        outlay (Crossing.asked library payload entry (heap.answer entry).1).holdings := by
  have counted := Body.Counts.ofEntry lists entry heap
  unfold answer Body.respond
  generalize Body.ofEntry entry heap = ended at counted ⊢
  obtain ⟨attempt, after⟩ := ended
  cases attempt with
  | value value =>
    rw [Crossing.holdings_asked_value, outlay_cons, outlay_payload]
    simp only [Attempt.allocations] at counted
    simp only [Holding.debt, Release.allocations, errorAllocations]
    omega
  | refused fault =>
    have unchanged : after.live = heap.live := counted.trans (Int.add_zero _)
    exact congrArg (· + 4) unchanged
  | panicked text =>
    have unchanged : after.live = heap.live := counted.trans (Int.add_zero _)
    exact congrArg (· + 4) unchanged

/-- What a direct call hands over is added to the count. -/
theorem hand_live (library : LibraryId) {payload : Payload} (call : DirectCall payload)
    (heap : NativeHeap engine) :
    (heap.hand call).2.live =
      heap.live + outlay (payload.holdings library (heap.hand call).1) := by
  rw [outlay_payload]
  cases call with
  | memoryDatabase => rfl
  | newBuilder => rfl
  | serialize psbt =>
    simp only [hand, handText]
    split
    · rfl
    · exact (Int.add_zero heap.live).symm
  | txid psbt =>
    simp only [hand, handText]
    split
    · rfl
    · exact (Int.add_zero heap.live).symm

/-- A release gives back what the count has for it. -/
theorem release_live (freed : Release) (heap : NativeHeap engine) :
    (heap.release freed).live = heap.live - freed.allocations := by
  cases freed <;> rfl

end NativeHeap

end WalletBridge
