/-
This file proves that threads that share objects never wait for one another in a circle. Operations
take their locks in the order of their ranks, so whatever a thread has ranks below whatever it still
has to take. Whoever waits therefore waits for a thread whose own next lock, if it wants one, ranks
higher. Ranks do not go on for ever, so one of the threads with something left to do can do it.
-/

import Mathlib.Logic.Relation
import Mathlib.Order.Basic
import WalletBridge.Host.LockPlan

namespace WalletBridge

theorem Lock.rank_le (lock : Lock) : lock.rank ≤ 5 := by
  cases lock with
  | slot kind object => cases kind <;> simp [Lock.rank]
  | _ => simp [Lock.rank]

/-! ### One thread -/

namespace LockingThread

/-- The locks that a thread still has to take come in the order of their ranks, above those that it
has. -/
structure InOrder (thread : LockingThread) : Prop where
  rising : thread.wanted.Pairwise fun first second => first.rank < second.rank
  above : ∀ own ∈ thread.held, ∀ next ∈ thread.wanted, own.rank < next.rank

/-- A thread that wants no further locks is in order, whatever it has. -/
theorem InOrder.of_wanted_nil {thread : LockingThread} (none : thread.wanted = []) :
    thread.InOrder := by
  refine ⟨?_, fun own _ next wanted => ?_⟩
  · rw [none]
    exact List.Pairwise.nil
  · rw [none] at wanted
    cases wanted

theorem InOrder.stepThread {state : LockState} {thread after : LockingThread} {step : LockStep}
    (inOrder : thread.InOrder) (taken : state.stepThread thread step = some after) :
    after.InOrder := by
  obtain ⟨operations, wanted, held⟩ := thread
  cases step with
  | begin _ =>
    simp only [LockState.stepThread] at taken
    split at taken
    · rename_i operation rest
      cases taken
      exact ⟨operation.pairwise_rank_locks, fun own had => absurd had List.not_mem_nil⟩
    · cases taken
  | take _ =>
    cases wanted with
    | nil => cases taken
    | cons lock rest =>
      simp only [LockState.stepThread] at taken
      split at taken
      · cases taken
      · cases taken
        obtain ⟨rising, above⟩ := inOrder
        obtain ⟨lowest, risingRest⟩ := List.pairwise_cons.mp rising
        refine ⟨risingRest, fun own had next wanted => ?_⟩
        rcases List.mem_cons.mp had with rfl | before
        · exact lowest next wanted
        · exact above own before next (List.mem_cons_of_mem lock wanted)
  | turnBack _ =>
    cases wanted with
    | nil => cases taken
    | cons lock rest =>
      cases taken
      exact .of_wanted_nil rfl
  | give _ =>
    simp only [LockState.stepThread] at taken
    split at taken
    · cases taken
      exact .of_wanted_nil rfl
    · cases taken

/-- Whoever has a lock is not finished. -/
theorem isFinished_of_held {thread : LockingThread} {lock : Lock} (has : lock ∈ thread.held) :
    thread.isFinished = false := by
  cases held : thread.held with
  | nil => rw [held] at has; cases has
  | cons first rest => simp [isFinished, held]

end LockingThread

/-! ### All threads -/

namespace LockState

/-- Every thread takes its locks in order. -/
def InOrder (state : LockState) : Prop :=
  ∀ (id : Nat) (thread : LockingThread), state.threads[id]? = some thread → thread.InOrder

theorem InOrder.step? {before after : LockState} {step : LockStep} (inOrder : before.InOrder)
    (taken : before.step? step = some after) : after.InOrder := by
  obtain ⟨id, thread, next, found, stepped, rfl⟩ : ∃ (id : Nat) (thread next : LockingThread),
      before.threads[id]? = some thread ∧ before.stepThread thread step = some next ∧
        after = ⟨before.threads.set id next⟩ := by
    cases step with
    | begin id | take id | turnBack id | give id =>
      simp only [LockState.step?] at taken
      split at taken
      · rename_i thread found
        obtain ⟨next, stepped, rfl⟩ := Option.map_eq_some_iff.mp taken
        exact ⟨id, thread, next, found, stepped, rfl⟩
      · cases taken
  intro other thread' present
  rw [List.getElem?_set] at present
  split at present
  · split at present
    · cases present
      exact (inOrder id thread found).stepThread stepped
    · cases present
  · exact inOrder other thread' present

theorem Reachable.inOrder {operations : List (List SharedOperation)} {state : LockState}
    (reached : Reachable operations state) : state.InOrder := by
  induction reached with
  | new =>
    intro id thread present
    simp only [LockState.new, List.getElem?_map, Option.map_eq_some_iff] at present
    obtain ⟨own, _, rfl⟩ := present
    exact .of_wanted_nil rfl
  | step reached taken inductionHypothesis => exact inductionHypothesis.step? taken

/-! ### Waiting -/

/-- One thread waits for another one: the lock that it wants next is one that the other one has. -/
def WaitsFor (state : LockState) (waiter holder : Nat) : Prop :=
  ∃ waiting holding lock, state.threads[waiter]? = some waiting ∧
    waiting.wanted.head? = some lock ∧ state.threads[holder]? = some holding ∧
    lock ∈ holding.held

/-- The rank of the lock that a thread wants next. -/
def nextRank (state : LockState) (id : Nat) : Nat :=
  ((state.threads[id]?).bind fun thread => thread.wanted.head?).elim 0 Lock.rank

/-- A thread that waits for one that waits itself wants a lock of a lower rank. -/
theorem InOrder.nextRank_lt {state : LockState} (inOrder : state.InOrder) {first second third : Nat}
    (waits : state.WaitsFor first second) (waitsToo : state.WaitsFor second third) :
    state.nextRank first < state.nextRank second := by
  obtain ⟨waiting, holding, lock, found, wants, foundHolder, has⟩ := waits
  obtain ⟨_, _, next, foundAgain, wantsNext, _, _⟩ := waitsToo
  rw [foundHolder] at foundAgain
  cases foundAgain
  have wanted : next ∈ holding.wanted := List.mem_of_mem_head? wantsNext
  have rises : lock.rank < next.rank := (inOrder second holding foundHolder).above lock has next wanted
  simpa [nextRank, found, wants, foundHolder, wantsNext] using rises

/-- Nobody waits for itself, not even through others. -/
theorem InOrder.no_circle {state : LockState} (inOrder : state.InOrder) (id : Nat) :
    ¬Relation.TransGen state.WaitsFor id id := by
  -- Along a chain of waits ranks rise up to whoever waits last.
  have rises {first last : Nat} (chain : Relation.TransGen state.WaitsFor first last) :
      ∀ beyond, state.WaitsFor last beyond → state.nextRank first < state.nextRank last := by
    induction chain with
    | single waits => exact fun _ waitsToo => inOrder.nextRank_lt waits waitsToo
    | tail _ waits inductionHypothesis =>
      intro _ waitsToo
      exact Nat.lt_trans (inductionHypothesis _ waits) (inOrder.nextRank_lt waits waitsToo)
  intro circle
  obtain ⟨second, waits, _⟩ := Relation.TransGen.head'_iff.mp circle
  exact Nat.lt_irrefl _ (rises circle second waits)

/-- Whoever waits, waits for somebody. -/
theorem exists_waitsFor {state : LockState} {id : Nat} {thread : LockingThread}
    (found : state.threads[id]? = some thread) (waits : state.isWaiting thread = true) :
    ∃ holder, state.WaitsFor id holder := by
  cases wanted : thread.wanted with
  | nil => simp [isWaiting, wanted] at waits
  | cons lock rest =>
    simp only [isWaiting, wanted, isTaken, List.any_eq_true] at waits
    obtain ⟨holding, member, contains⟩ := waits
    obtain ⟨holder, foundHolder⟩ := List.getElem?_of_mem member
    exact ⟨holder, thread, holding, lock, found, by rw [wanted]; rfl, foundHolder,
      List.contains_iff_mem.mp contains⟩

theorem nextRank_le (state : LockState) (id : Nat) : state.nextRank id ≤ 5 := by
  unfold nextRank
  cases (state.threads[id]?).bind fun thread => thread.wanted.head? with
  | none => exact Nat.zero_le 5
  | some lock => exact lock.rank_le

/-- From a thread that waits, and the thread that it waits for, and so on, one comes to a thread
that does not wait. -/
theorem InOrder.exists_unblocked {state : LockState} (inOrder : state.InOrder) {id : Nat}
    {thread : LockingThread} (found : state.threads[id]? = some thread)
    (unfinished : thread.isFinished = false) :
    ∃ (other : Nat) (own : LockingThread), state.threads[other]? = some own ∧
      own.isFinished = false ∧ state.isWaiting own = false := by
  -- The induction is on how far the rank of the lock that is waited for is from the highest one.
  induction distance : 5 - state.nextRank id using Nat.strongRecOn generalizing id thread with
  | ind distance inductionHypothesis =>
    cases waits : state.isWaiting thread with
    | false => exact ⟨id, thread, found, unfinished, waits⟩
    | true =>
      obtain ⟨holder, waitsFor⟩ := exists_waitsFor found waits
      have ⟨_, holding, lock, _, _, foundHolder, has⟩ := waitsFor
      have busy : holding.isFinished = false := LockingThread.isFinished_of_held has
      cases waitsToo : state.isWaiting holding with
      | false => exact ⟨holder, holding, foundHolder, busy, waitsToo⟩
      | true =>
        obtain ⟨beyond, waitsBeyond⟩ := exists_waitsFor foundHolder waitsToo
        have rises : state.nextRank id < state.nextRank holder :=
          inOrder.nextRank_lt waitsFor waitsBeyond
        have bounded : state.nextRank holder ≤ 5 := state.nextRank_le holder
        exact inductionHypothesis (5 - state.nextRank holder) (by omega) foundHolder busy rfl

/-- Whoever is not finished and does not wait can take a step of its own. -/
theorem exists_step {state : LockState} {id : Nat} {thread : LockingThread}
    (found : state.threads[id]? = some thread) (unfinished : thread.isFinished = false)
    (free : state.isWaiting thread = false) :
    ∃ step ∈ [LockStep.begin id, .take id, .give id], (state.step? step).isSome = true := by
  obtain ⟨operations, wanted, held⟩ := thread
  cases wanted with
  | cons lock rest =>
    refine ⟨.take id, by simp, ?_⟩
    have untaken : state.isTaken lock = false := free
    simp [step?, found, stepThread, untaken]
  | nil =>
    cases held with
    | cons lock rest =>
      refine ⟨.give id, by simp, ?_⟩
      simp [step?, found, stepThread]
    | nil =>
      cases operations with
      | nil => cases unfinished
      | cons operation rest =>
        refine ⟨.begin id, by simp, ?_⟩
        simp [step?, found, stepThread]

/-- Whatever operations threads do on whatever objects, and in whichever order they take their
turns: as long as a thread is not finished, one that is not finished does not wait and can go on, and
nobody waits for itself, not even through others. -/
theorem reachable_free_of_deadlock {operations : List (List SharedOperation)} {state : LockState}
    (reached : Reachable operations state) :
    ((∃ thread ∈ state.threads, thread.isFinished = false) →
      ∃ (id : Nat) (thread : LockingThread), state.threads[id]? = some thread ∧
        thread.isFinished = false ∧ state.isWaiting thread = false ∧
        ∃ step ∈ [LockStep.begin id, .take id, .give id], (state.step? step).isSome = true) ∧
      ∀ id, ¬Relation.TransGen state.WaitsFor id id := by
  refine ⟨fun ⟨thread, member, unfinished⟩ => ?_, reached.inOrder.no_circle⟩
  obtain ⟨id, found⟩ := List.getElem?_of_mem member
  obtain ⟨other, own, present, busy, free⟩ := reached.inOrder.exists_unblocked found unfinished
  exact ⟨other, own, present, busy, free, exists_step present busy free⟩

/-- What steps lead to is reachable. -/
theorem Reachable.foldlM {operations : List (List SharedOperation)} {state after : LockState}
    {steps : List LockStep} (reached : Reachable operations state)
    (ran : steps.foldlM LockState.step? state = some after) : Reachable operations after := by
  induction steps generalizing state with
  | nil => exact Option.some.inj ran ▸ reached
  | cons step rest inductionHypothesis =>
    obtain ⟨between, taken, ranRest⟩ := Option.bind_eq_some_iff.mp ran
    exact inductionHypothesis (reached.step taken) ranRest

/-- A payment is finished and the wallet disposed of while a transaction is signed. -/
def contestedWallet : List (List SharedOperation) :=
  [[.finish 0 0, .dispose .txBuilder 0], [.sign 0 0], [.dispose .wallet 0]]

/-- The signer has the wallet, and the others wait for it. -/
def contestedSteps : List LockStep := [.begin 0, .begin 1, .begin 2, .take 1, .take 0]

theorem reachable_free_of_deadlock_contested :
    ∃ state, contestedSteps.foldlM LockState.step? (new contestedWallet) = some state ∧
      state.threads.map (fun thread => (thread.isFinished, state.isWaiting thread)) =
        [(false, true), (false, false), (false, true)] ∧
      (∃ (id : Nat) (thread : LockingThread), state.threads[id]? = some thread ∧
        thread.isFinished = false ∧ state.isWaiting thread = false ∧
        ∃ step ∈ [LockStep.begin id, .take id, .give id], (state.step? step).isSome = true) ∧
      ∀ id, ¬Relation.TransGen state.WaitsFor id id := by
  obtain ⟨state, ran⟩ : ∃ state,
      contestedSteps.foldlM LockState.step? (new contestedWallet) = some state := ⟨_, rfl⟩
  have waiting : state.threads.map (fun thread => (thread.isFinished, state.isWaiting thread)) =
      [(false, true), (false, false), (false, true)] := by
    cases ran
    rfl
  have unfinished : ∃ thread ∈ state.threads, thread.isFinished = false := by
    cases ran
    exact ⟨_, List.mem_cons_self, rfl⟩
  obtain ⟨goesOn, noCircle⟩ := reachable_free_of_deadlock (Reachable.new.foldlM ran)
  exact ⟨state, ran, waiting, goesOn unfinished, noCircle⟩

end LockState

end WalletBridge
