/-
This file proves that a host leaks nothing of the native library's memory. Between two operations
the count of live allocations is what it was at the start and one for every live handle, whatever
was done with the facades and however it ended; the counters of the handles agree with it. When the
last object is gone the count is back where it was.
-/

import WalletBridge.Engine.Offline
import WalletBridge.Proofs.BodyAllocations
import WalletBridge.Proofs.SessionLedger

namespace WalletBridge

/-- The count as the library reports it, which is never below zero. -/
def NativeHeap.reported {engine : WalletEngine} (heap : NativeHeap engine) : Nat := heap.live.toNat

/-- A host over the native library with an engine. -/
def nativeSurroundings (engine : WalletEngine) (loader : Loader) :
    Surroundings (NativeHeap engine) :=
  ⟨NativeHeap.side, loader⟩

variable {engine : WalletEngine}

/-- The account of a process since a start: the holdings are all that is live beyond the start, and
the handles among them are those that were wrapped and not released. -/
structure Balanced (start process : Host (NativeHeap engine)) (holdings : List Holding) : Prop where
  live : process.native.live = start.native.live + outlay holdings
  handles :
    process.lifecycle.wrapped + start.lifecycle.explicit + start.lifecycle.byDrop =
      start.lifecycle.wrapped + holdings.countP Holding.isHandle + process.lifecycle.explicit +
        process.lifecycle.byDrop

/-- What a crossing adds to the holdings is in no handle. -/
theorem Crossing.countP_isHandle (crossing : Crossing) :
    crossing.holdings.countP Holding.isHandle = 0 := by
  rw [List.countP_eq_zero]
  intro holding member
  obtain ⟨debt, _, rfl⟩ := List.mem_map.mp member
  exact Bool.false_ne_true

namespace Balanced

variable {start process : Host (NativeHeap engine)} {holdings added : List Holding}

/-- The account of a process that has just started. -/
theorem refl (start : Host (NativeHeap engine)) : Balanced start start [] :=
  ⟨(Int.add_zero _).symm, by rw [List.countP_nil]; omega⟩

/-- Something new that is in no handle, and that the count has. -/
theorem add {after : Host (NativeHeap engine)} (balanced : Balanced start process holdings)
    (counters : after.lifecycle = process.lifecycle)
    (counted : after.native.live = process.native.live + outlay added)
    (loose : added.countP Holding.isHandle = 0) : Balanced start after (added ++ holdings) := by
  refine ⟨?_, ?_⟩
  · rw [counted, balanced.live, outlay_append]
    omega
  · rw [counters, List.countP_append, loose, Nat.zero_add]
    exact balanced.handles

/-- An answer is counted. -/
theorem answered (lists : engine.ListsQuietly) (balanced : Balanced start process holdings)
    {payload : Payload} (library : LibraryId) (entry : Entry payload) (reply : Reply payload)
    (native : NativeHeap engine) (answer : process.native.answer entry = (reply, native)) :
    Balanced start
      { process with
        native := native
        journal := .asked library payload entry reply :: process.journal }
      ((Crossing.asked library payload entry reply).holdings ++ holdings) := by
  have counted := NativeHeap.answer_live lists library entry process.native
  rw [answer] at counted
  exact balanced.add rfl counted (Crossing.countP_isHandle _)

/-- So is what a direct call hands over. -/
theorem handed (balanced : Balanced start process holdings) {payload : Payload}
    (library : LibraryId) (direct : DirectCall payload) (value : payload.Raw)
    (native : NativeHeap engine) (handed : process.native.hand direct = (value, native)) :
    Balanced start
      { process with
        native := native
        journal := .handed library payload direct value :: process.journal }
      ((Crossing.handed library payload direct value).holdings ++ holdings) := by
  have counted := NativeHeap.hand_live library direct process.native
  rw [handed, ← Crossing.holdings_handed library payload direct] at counted
  exact balanced.add rfl counted (Crossing.countP_isHandle _)

/-- A release of the first holding takes it out of the count. -/
theorem settle_live {holding : Holding} (balanced : Balanced start process (holding :: holdings)) :
    (process.native.release holding.debt.2).live = start.native.live + outlay holdings := by
  rw [NativeHeap.release_live, balanced.live, outlay_cons]
  omega

end Balanced

/-- The account of a process as a ledger. -/
def balanceLedger (lists : engine.ListsQuietly) (loader : Loader)
    (start : Host (NativeHeap engine)) : Ledger (nativeSurroundings engine loader) where
  Holds := Balanced start
  perm same balanced :=
    ⟨outlay_perm same ▸ balanced.live, same.countP_eq Holding.isHandle ▸ balanced.handles⟩
  rebind _ balanced := ⟨balanced.live, balanced.handles⟩
  ask library entry reply native answer balanced :=
    balanced.answered lists library entry reply native answer
  call library direct value native handed balanced :=
    balanced.handed library direct value native handed
  release library freed balanced := ⟨balanced.settle_live, balanced.handles⟩
  wrap library kind address balanced := by
    refine ⟨balanced.live, ?_⟩
    have handles := balanced.handles
    rw [List.countP_cons_of_neg Bool.false_ne_true] at handles
    rw [List.countP_cons_of_pos rfl]
    simp only [Lifecycle.recordWrapped]
    omega
  unwrap library kind address cause balanced := by
    refine ⟨balanced.settle_live, ?_⟩
    have handles := balanced.handles
    rw [List.countP_cons_of_pos rfl] at handles
    cases cause <;> simp only [Lifecycle.recordRelease] <;> omega

namespace Session

/-- An object in a handle is one allocation. -/
theorem outlay_of_handles {holdings : List Holding}
    (handles : ∀ holding ∈ holdings, holding.isHandle = true) :
    outlay holdings = holdings.length := by
  induction holdings with
  | nil => rfl
  | cons holding rest inductionHypothesis =>
    have first := handles holding List.mem_cons_self
    rw [outlay_cons, inductionHypothesis fun other member =>
      handles other (List.mem_cons_of_mem _ member), List.length_cons, Nat.add_comm]
    cases holding with
    | due library release => cases first
    | handle library kind address => rfl

/-- What the account says about a session that it keeps. -/
theorem Kept.balance {lists : engine.ListsQuietly} {loader : Loader}
    {start : Host (NativeHeap engine)} {session : Session (NativeHeap engine)}
    (kept : Kept (balanceLedger lists loader start) session) :
    session.process.native.live = start.native.live + session.liveCount ∧
      session.process.lifecycle.wrapped + start.lifecycle.explicit + start.lifecycle.byDrop =
        start.lifecycle.wrapped + session.liveCount + session.process.lifecycle.explicit +
          session.process.lifecycle.byDrop := by
  have handles : ∀ holding ∈ session.holdings, holding.isHandle = true :=
    fun holding => isHandle_of_mem_holdings
  have balanced : Balanced start session.process session.holdings := kept.holds
  rw [← holdings_length, ← outlay_of_handles handles]
  refine ⟨balanced.live, ?_⟩
  rw [outlay_of_handles handles, ← List.countP_eq_length.mpr handles]
  exact balanced.handles

/-- In every state between two operations the count of live allocations is its value at the start
and the number of live handles, and the handles that were wrapped since the start are those that are
live and those that were released. When the objects that are left go away, the count is back at its
value at the start. -/
theorem live_eq_start_add_liveCount (lists : engine.ListsQuietly) (loader : Loader)
    (start : Host (NativeHeap engine)) (occurrences : List Occurrence)
    (facade : ∀ occurrence ∈ occurrences, occurrence.isFacade) :
    let around := nativeSurroundings engine loader
    let after := (occurAll around occurrences ⟨start, []⟩).2
    let closed := after.close around
    after.process.native.live = start.native.live + after.liveCount ∧
      (0 ≤ start.native.live →
        after.process.native.reported = start.native.reported + after.liveCount) ∧
      ((after.process.lifecycle.wrapped : Int) - start.lifecycle.wrapped =
        after.liveCount + (after.process.lifecycle.explicit - start.lifecycle.explicit) +
          (after.process.lifecycle.byDrop - start.lifecycle.byDrop)) ∧
      closed.liveCount = 0 ∧ closed.process.native.live = start.native.live := by
  intro around after closed
  have started : Kept (balanceLedger lists loader start) ⟨start, []⟩ :=
    ⟨List.Pairwise.nil, Balanced.refl start⟩
  have kept : Kept (balanceLedger lists loader start) after := started.occurAll facade
  obtain ⟨live, handles⟩ := kept.balance
  obtain ⟨keptClosed, noObjects⟩ := kept.close
  have none : closed.liveCount = 0 := by
    show closed.objects.countP (·.2.isLive) = 0
    rw [show closed.objects = [] from noObjects, List.countP_nil]
  refine ⟨live, fun nonnegative => ?_, by omega, none, ?_⟩
  · unfold NativeHeap.reported
    omega
  · rw [keptClosed.balance.1, show (close around after).liveCount = 0 from none]
    exact Int.add_zero _

/-- The engine of a machine without a network has nothing to list. -/
theorem offlineEngine_listsQuietly : offlineEngine.ListsQuietly :=
  ⟨fun _ _ member => absurd member List.not_mem_nil,
    fun _ _ member => absurd member List.not_mem_nil⟩

/-- A history that leaves one of two objects live, and in which a text is refused. -/
def halfReleasedHistory : List Occurrence :=
  [.install (.complete "linked"),
   .operation (.openMemory "ledger"),
   .operation (.newBuilder "plan"),
   .operation (.parsePsbt "draft" "no transaction"),
   .operation (.dispose "plan")]

theorem live_eq_start_add_liveCount_offline :
    let around := nativeSurroundings offlineEngine fun _ => .error "absent"
    let start : Host (NativeHeap offlineEngine) := .fresh none (.fresh (.empty ["/tmp"]))
    let after := (occurAll around halfReleasedHistory ⟨start, []⟩).2
    after.liveCount = 1 ∧ after.process.native.live = start.native.live + after.liveCount ∧
      (after.close around).process.native.live = start.native.live := by
  have account := live_eq_start_add_liveCount offlineEngine_listsQuietly
    (fun _ => .error "absent") (.fresh none (.fresh (.empty ["/tmp"]))) halfReleasedHistory
    (by decide)
  exact ⟨by decide +kernel, account.1, account.2.2.2.2⟩

end Session

end WalletBridge
