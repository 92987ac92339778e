/-
This file says what a call that is answered with an error leaves in the memory's count, wherever in
its body the engine failed or panicked. The answer itself is four allocations, and they are gone
when it is given back. Whatever the body had counted before it failed is still counted, and nobody
was told where it is. Only the lists count anything before something that can still fail: they take
one element after another from the engine, and every element owns strings. So a list that breaks off
behind some elements leaves their strings behind, two for an output and one for a transaction, and
every other call leaves nothing.
-/

import WalletBridge.Proofs.ListTransfer
import WalletBridge.Proofs.WalletChanges

namespace WalletBridge

variable {engine : WalletEngine} {payload : Payload} {Item Raw : Type}

/-! ### Lists that break off -/

/-- How many items of a list come before the first one that does not come. A list that comes whole
does not break off. -/
def brokenBehind (items : List (Attempt Empty Item)) : Nat :=
  (items.findIdx? fun item => !item.isValue).getD 0

/-- A list comes whole, or it breaks off behind some of its items. -/
theorem whole_or_broken (items : List (Attempt Empty Item)) :
    (∃ contents : List Item, items = contents.map .value) ∨
      ∃ (contents : List Item) (text : Option String) (rest : List (Attempt Empty Item)),
        items = contents.map .value ++ .panicked text :: rest := by
  induction items with
  | nil => exact .inl ⟨[], rfl⟩
  | cons item rest inductionHypothesis =>
    cases item with
    | refused cause => exact cause.elim
    | panicked text => exact .inr ⟨[], text, rest, rfl⟩
    | value content =>
      rcases inductionHypothesis with ⟨contents, rfl⟩ | ⟨contents, text, others, rfl⟩
      · exact .inl ⟨content :: contents, rfl⟩
      · exact .inr ⟨content :: contents, text, others, rfl⟩

theorem brokenBehind_broken (contents : List Item) (text : Option String)
    (rest : List (Attempt Empty Item)) :
    brokenBehind (contents.map .value ++ .panicked text :: rest) = contents.length := by
  have come : ∀ item ∈ contents.map (Attempt.value : Item → Attempt Empty Item),
      (!item.isValue) = false := by
    intro item member
    obtain ⟨content, -, rfl⟩ := List.mem_map.mp member
    rfl
  rw [brokenBehind, List.findIdx?_append, List.findIdx?_eq_none_iff.mpr come, List.findIdx?_cons]
  simp [Attempt.isValue]

/-- The elements before the panic are written down, and stay counted. -/
theorem Body.each_broken {body : Item → Body engine Raw} {write : Item → Raw} {size : Nat}
    (writes : ∀ item heap, body item heap = (.value (write item), heap.counted size))
    (contents : List Item) (text : Option String) (rest : List (Attempt Empty Item))
    (heap : NativeHeap engine) :
    Body.each body (contents.map .value ++ .panicked text :: rest) heap =
      (.panicked text, heap.counted (size * contents.length : Nat)) := by
  induction contents generalizing heap with
  | nil => exact congrArg (Prod.mk _) heap.counted_zero.symm
  | cons content others inductionHypothesis =>
    rw [List.map_cons, List.cons_append, Body.each]
    simp only [Body.bind, Body.certain, Body.settle, Attempt.mapCause, writes,
      inductionHypothesis]
    rw [NativeHeap.counted_counted, List.length_cons, Nat.mul_succ, Nat.add_comm]
    rfl

/-! ### Strings that nobody has -/

namespace NativeHeap

/-- What the wallet at an argument lists. -/
def listed (heap : NativeHeap engine) (list : engine.Wallet → List (Attempt Empty Item))
    (wallet : Option Address) : List (Attempt Empty Item) :=
  match (Body.wallet wallet heap).1 with
  | .value (_, state) => list state.wallet
  | _ => []

/-- How many strings a call leaves behind: those of the elements that a list breaks off behind. -/
def stranded (heap : NativeHeap engine) : Entry payload → Nat
  | .listUnspent wallet => 2 * brokenBehind (heap.listed engine.unspent wallet)
  | .listTransactions wallet => brokenBehind (heap.listed engine.transactions wallet)
  | _ => 0

theorem stranded_of_not_listing (heap : NativeHeap engine) (entry : Entry payload)
    (single : entry.isListing = false) : heap.stranded entry = 0 := by
  cases entry <;> first | rfl | cases single

end NativeHeap

namespace Body

/-- How a body leaves the memory when it ends without a value: something is left behind only by a
panic. -/
def LeavesBehind (body : Body engine Raw) (heap : NativeHeap engine) (stranded : Nat) : Prop :=
  (body heap).1.isValue = false →
    (body heap).2.live = heap.live + stranded ∧
      (0 < stranded → (body heap).1.faultCode? = some "Panic")

/-- A body that counts its value leaves nothing behind. -/
theorem Counts.leavesBehind {body : Body engine Raw} {owned : Raw → Nat}
    (counts : Counts body owned) (heap : NativeHeap engine) : LeavesBehind body heap 0 := by
  intro failed
  have counted := counts heap
  refine ⟨?_, fun positive => absurd positive (Nat.lt_irrefl 0)⟩
  generalize body heap = ended at failed counted ⊢
  obtain ⟨attempt, after⟩ := ended
  cases attempt with
  | value value => cases failed
  | refused fault => exact counted
  | panicked text => exact counted

/-- What the lists have in common: the wallet is looked up, its items are written down one after
another, and the block is made last. -/
theorem listing_leavesBehind {body : Item → Body engine Raw} {write : Item → Raw} {size : Nat}
    (writes : ∀ item heap, body item heap = (.value (write item), heap.counted size))
    (list : engine.Wallet → List (Attempt Empty Item)) (wallet : Option Address)
    (heap : NativeHeap engine) :
    LeavesBehind
      (Body.wallet wallet >>= fun found => each body (list found.2.wallet) >>= newBlock) heap
      (size * brokenBehind (heap.listed list wallet)) := by
  intro failed
  rcases wallet_cases wallet heap with ⟨address, state, rfl, -, found⟩ | absent
  · have lists : heap.listed list (some address) = list state.wallet := by
      rw [NativeHeap.listed, found]
    rw [lists]
    simp only [bind_apply, found] at failed ⊢
    rcases whole_or_broken (list state.wallet) with
      ⟨contents, whole⟩ | ⟨contents, text, rest, broken⟩
    · rw [whole, each_apply writes] at failed
      cases failed
    · rw [broken, each_broken writes, brokenBehind_broken]
      exact ⟨rfl, fun _ => rfl⟩
  · have nothing : heap.listed list wallet = [] := by rw [NativeHeap.listed, absent]
    rw [nothing, bind_apply, absent]
    exact ⟨(Int.add_zero heap.live).symm, fun positive => absurd positive (Nat.lt_irrefl 0)⟩

theorem ofEntry_leavesBehind (entry : Entry payload) (heap : NativeHeap engine) :
    LeavesBehind (ofEntry entry) heap (heap.stranded entry) := by
  cases single : entry.isListing with
  | false =>
    rw [heap.stranded_of_not_listing entry single]
    exact (Counts.ofEntry_of_not_listing entry single).leavesBehind heap
  | true =>
    cases entry with
    | listUnspent wallet =>
      exact listing_leavesBehind WalletOutput.newOutput_apply engine.unspent wallet heap
    | listTransactions wallet =>
      have left := listing_leavesBehind WalletTransaction.newTransaction_apply engine.transactions
        wallet heap
      rwa [Nat.one_mul] at left
    | _ => cases single

end Body

/-! ### Answers with an error -/

namespace NativeHeap

/-- An answer with an error is what a body without a value is answered with: four allocations beside
what the body left behind, and giving it back leaves the memory as the body did. -/
theorem answer_failed {entry : Entry payload} {heap : NativeHeap engine}
    {transit : Transit payload} {error : RawError}
    (answered : (heap.answer entry).1 = some transit) (failed : transit.error = some error) :
    (Body.ofEntry entry heap).1.isValue = false ∧
      (heap.answer entry).2 = (Body.ofEntry entry heap).2.counted 4 ∧
      (heap.answer entry).2.release (.transit payload transit.error) =
        (Body.ofEntry entry heap).2 := by
  rw [answer, Body.respond] at answered ⊢
  generalize Body.ofEntry entry heap = ended at answered ⊢
  obtain ⟨attempt, after⟩ := ended
  cases attempt with
  | value value =>
    cases answered
    cases failed
  | refused fault =>
    cases answered
    exact ⟨rfl, rfl, after.release_refused payload fault⟩
  | panicked text =>
    cases answered
    exact ⟨rfl, rfl, after.release_refused payload (.panicked text)⟩

/-- A call that is answered with an error adds four allocations to the count, and giving the answer
back takes these four away again, whichever part of the engine failed and whatever the memory was.
Only the strings of a list that broke off behind some elements stay, and then the error is a
panic. -/
theorem failed_answer_is_four_beside_stranded {entry : Entry payload} {heap : NativeHeap engine}
    {transit : Transit payload} {error : RawError}
    (answered : (heap.answer entry).1 = some transit) (failed : transit.error = some error) :
    let after := (heap.answer entry).2
    let freed := after.release (.transit payload transit.error)
    after.live = heap.live + 4 + heap.stranded entry ∧
      freed.live = heap.live + heap.stranded entry ∧
      (0 ≤ heap.live →
        after.reported = heap.reported + 4 + heap.stranded entry ∧
          freed.reported = heap.reported + heap.stranded entry) ∧
      (0 < heap.stranded entry → (heap.answer entry).1.errorCode? = some "Panic") := by
  intro after freed
  obtain ⟨ended, carried, givenBack⟩ := answer_failed answered failed
  obtain ⟨left, panics⟩ := Body.ofEntry_leavesBehind entry heap ended
  have grown : after.live = heap.live + 4 + heap.stranded entry := by
    show (heap.answer entry).2.live = _
    rw [carried]
    show (Body.ofEntry entry heap).2.live + 4 = _
    rw [left]
    omega
  have back : freed.live = heap.live + heap.stranded entry := by
    show ((heap.answer entry).2.release _).live = _
    rw [givenBack, left]
  refine ⟨grown, back, fun nonnegative => ?_, fun behind => ?_⟩
  · unfold reported
    omega
  · rw [errorCode?_answer]
    exact panics behind

end NativeHeap

/-! ### A history that cannot be added up -/

/-- The engine of wallets that are nothing but what they list. -/
def listedEngine : WalletEngine where
  World := Unit
  Store := Unit
  Wallet := List (Attempt Empty WalletTransaction)
  Client := Empty
  News := Empty
  openStore _ world := (.value (), world)
  load _ _ world := (.value none, world)
  create _ _ world := (.value [], world)
  persist wallet _ world := (.value (), wallet, world)
  peek _ _ := .panicked none
  reveal wallet := (.panicked none, wallet)
  balance _ := .value ⟨0, 0, 0, 0⟩
  unspent _ := []
  transactions wallet := wallet
  connect _ world := (.refused "no chain source can be reached", world)
  scan client _ _ _ _ := client.elim
  learn news _ := news.elim
  sign _ signed := finishSigning signed
  build _ wallet world := (.refused .noRecipients, wallet, world)

/-- A transaction that pays some amounts to a wallet, as it is listed: the amounts are added up, and
a sum beyond 64 bits is a panic. -/
def receiving (txid : String) (amounts : List UInt64) : Attempt Empty WalletTransaction :=
  match Word.sum 0 amounts with
  | .ok received => .value ⟨txid, received, 0, none, none⟩
  | .error _ => .panicked (some "Amount addition error")

/-- A memory with one wallet. -/
def listedHeap (history : List (Attempt Empty WalletTransaction)) : NativeHeap listedEngine :=
  ⟨(), [(1, .wallet ⟨history, (), .regtest⟩)], 1, 1⟩

/-- Two transactions, and a third one whose amounts leave the 64 bits. -/
def overpaidHistory : List (Attempt Empty WalletTransaction) :=
  [receiving "aa" [100000], receiving "bb" [9], receiving "cc" [0x8000000000000000,
    0x8000000000000000]]

theorem NativeHeap.failed_answer_is_four_beside_stranded_overpaid :
    let heap := listedHeap overpaidHistory
    let entry := Entry.listTransactions (some 1)
    ∃ transit error, (heap.answer entry).1 = some transit ∧ transit.error = some error ∧
      heap.stranded entry = 2 ∧ (heap.answer entry).2.live = heap.live + 4 + 2 ∧
      (heap.answer entry).1.errorCode? = some "Panic" := by
  intro heap entry
  have answered : (heap.answer entry).1 =
      some ⟨.null 0, some (Body.rawError (.panicked (some "Amount addition error")))⟩ := rfl
  have behind : heap.stranded entry = 2 := rfl
  obtain ⟨grown, -, -, panics⟩ := failed_answer_is_four_beside_stranded answered rfl
  rw [behind] at grown
  exact ⟨_, _, answered, rfl, behind, grown, panics (by rw [behind]; exact Nat.two_pos)⟩

/-- The second transaction of a wallet cannot be added up. Listing them is answered with an error
and adds five allocations; when the answer is given back, one is left. -/
theorem broken_list_leaves_strings :
    let heap := listedHeap [receiving "aa" [100000],
      receiving "bb" [0x8000000000000000, 0x8000000000000000]]
    let (reply, after) := heap.answer (.listTransactions (some 1))
    reply.errorCode? = some "Panic" ∧ after.reported = heap.reported + 5 ∧
      ∀ transit ∈ reply, (after.release (.transit .transactions transit.error)).reported =
        heap.reported + 1 := by
  intro heap
  refine ⟨by decide +kernel, by decide +kernel, fun transit answered => ?_⟩
  cases answered
  decide +kernel

end WalletBridge
