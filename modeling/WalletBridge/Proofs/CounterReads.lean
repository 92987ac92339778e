/-
This file says how wrong a number can be that is read from counters while others go on. The reader
takes the number of what has begun first and the number of what has ended later, and subtracts.
Whatever begins and ends in between is only in the second number, so it hides something that was
there all the time. A job can also begin before it is counted at all, because it is counted after it
entered the queue. The number read falls short by these overtakers at most, and where there are none
it is large enough. It can fall short by as many as there are.
-/

import Mathlib.Data.List.Nodup
import Mathlib.Data.List.Perm.Subperm
import WalletBridge.Host.LifecycleReading
import WalletBridge.Executor.Reading
import WalletBridge.Proofs.AmountSums
import WalletBridge.Proofs.TimedCalls

namespace WalletBridge

/-! ### Places in a list -/

/-- Different places with items that pass a test are no more than the items that pass it. -/
theorem length_le_countP {Item : Type} {items : List Item} {places : List Nat} {test : Item → Bool}
    (distinct : places.Nodup)
    (pass : ∀ place ∈ places, ∃ item, items[place]? = some item ∧ test item = true) :
    places.length ≤ items.countP test := by
  have within : places ⊆ (items.zipIdx.filter fun entry => test entry.1).map Prod.snd := by
    intro place member
    obtain ⟨item, found, passes⟩ := pass place member
    exact List.mem_map.mpr ⟨(item, place),
      List.mem_filter.mpr ⟨List.mem_zipIdx_iff_getElem?.mpr found, passes⟩, rfl⟩
  calc places.length ≤ ((items.zipIdx.filter fun entry => test entry.1).map Prod.snd).length :=
        (List.subperm_of_subset distinct within).length_le
    _ = (items.zipIdx.map Prod.fst).countP test := by
        rw [List.length_map, List.countP_map, List.countP_eq_length_filter]
        rfl
    _ = items.countP test := by rw [List.zipIdx_map_fst]

/-! ### Handles -/

namespace LifecycleReading

/-- How many handles are counted as released that were not yet wrapped when a number of wrapped ones
was read. -/
def overtaken (reading : LifecycleReading) (wrapped : UInt64) : Nat :=
  (reading.handles.drop wrapped.toNat).count .released

/-- The handles that have been live since the reader started are in a number of wrapped ones. -/
def Covers (reading : LifecycleReading) (wrapped : UInt64) : Prop :=
  ∀ handle ∈ reading.steady, handle < wrapped.toNat

/-- How what a reader has read is related to what the counters say later. -/
def ReadsBehind (reading : LifecycleReading) : LifecycleReader → Prop
  | .idle | .started => True
  | .readWrapped wrapped => reading.Covers wrapped
  | .readExplicit wrapped explicit =>
    reading.Covers wrapped ∧ explicit.toNat ≤ reading.counters.explicit
  | .finished snapshot =>
    reading.Covers snapshot.wrapped ∧ snapshot.explicit.toNat ≤ reading.counters.explicit ∧
      snapshot.byDrop.toNat ≤ reading.counters.byDrop

/-- How the counters, the handles and the reader belong together. -/
structure Counted (reading : LifecycleReading) : Prop where
  wrapped : reading.counters.wrapped = reading.handles.length
  released : reading.counters.explicit + reading.counters.byDrop = reading.handles.count .released
  live : ∀ handle ∈ reading.steady, reading.handles[handle]? = some .live
  distinct : reading.steady.Nodup
  behind : reading.ReadsBehind reading.reader

/-- What was read stays behind while counters grow and handles are released. -/
theorem ReadsBehind.later {before after : LifecycleReading} {reader : LifecycleReader}
    (behind : before.ReadsBehind reader) (steady : after.steady ⊆ before.steady)
    (explicit : before.counters.explicit ≤ after.counters.explicit)
    (byDrop : before.counters.byDrop ≤ after.counters.byDrop) : after.ReadsBehind reader := by
  have covers {wrapped : UInt64} (covered : before.Covers wrapped) : after.Covers wrapped :=
    fun handle member => covered handle (steady member)
  cases reader with
  | idle => trivial
  | started => trivial
  | readWrapped wrapped => exact covers behind
  | readExplicit wrapped read => exact ⟨covers behind.1, Nat.le_trans behind.2 explicit⟩
  | finished snapshot =>
    obtain ⟨covered, readExplicit, readByDrop⟩ := behind
    exact ⟨covers covered, Nat.le_trans readExplicit explicit, Nat.le_trans readByDrop byDrop⟩

theorem ofNat_toNat_le (count : Nat) : (UInt64.ofNat count).toNat ≤ count := by
  rw [UInt64.toNat_ofNat']
  exact Nat.mod_le count _

theorem mem_liveHandles {reading : LifecycleReading} {handle : Nat}
    (member : handle ∈ reading.liveHandles) : reading.handles[handle]? = some .live :=
  beq_iff_eq.mp (List.mem_filter.mp member).2

/-- A handle that is put into another state, and is not counted by that. -/
theorem count_released_set {handles : List CountedHandle} {handle : Nat} {old new : CountedHandle}
    (found : handles[handle]? = some old) :
    (handles.set handle new).count .released + (if old == .released then 1 else 0) =
      handles.count .released + (if new == .released then 1 else 0) :=
  countP_set_add new found (· == .released)

theorem Counted.wrap {before : LifecycleReading} (counted : Counted before) :
    Counted { before with
      counters := before.counters.recordWrapped
      handles := before.handles ++ [.live] } := by
  obtain ⟨wrapped, released, live, distinct, behind⟩ := counted
  refine ⟨?_, ?_, fun handle member => ?_, distinct, ?_⟩
  · simp only [Lifecycle.recordWrapped, wrapped, List.length_append, List.length_singleton]
  · simpa [Lifecycle.recordWrapped, List.count_append] using released
  · have found := live handle member
    obtain ⟨bound, -⟩ := List.getElem?_eq_some_iff.mp found
    show (before.handles ++ [.live])[handle]? = _
    rw [List.getElem?_append_left bound, found]
  · exact behind.later (List.Subset.refl _) (Nat.le_refl _) (Nat.le_refl _)

theorem Counted.empty {before : LifecycleReading} {handle : Nat} (cause : ReleaseCause)
    (counted : Counted before) (found : before.handles[handle]? = some .live) :
    Counted { before with
      handles := before.handles.set handle (.emptied cause)
      steady := before.steady.filter (· != handle) } := by
  obtain ⟨wrapped, released, live, distinct, behind⟩ := counted
  refine ⟨?_, ?_, fun other member => ?_, distinct.filter _, ?_⟩
  · rw [wrapped, List.length_set]
  · have uncounted := @count_released_set before.handles handle .live (.emptied cause) found
    simp only [reduceCtorEq, beq_iff_eq, if_false, Nat.add_zero] at uncounted
    rw [uncounted, released]
  · obtain ⟨steady, different⟩ := List.mem_filter.mp member
    show (before.handles.set handle (.emptied cause))[other]? = _
    rw [List.getElem?_set_ne (Ne.symm (bne_iff_ne.mp different)), live other steady]
  · exact behind.later List.filter_sublist.subset (Nat.le_refl _) (Nat.le_refl _)

theorem Counted.count {before : LifecycleReading} {handle : Nat} {cause : ReleaseCause}
    (counted : Counted before) (found : before.handles[handle]? = some (.emptied cause)) :
    Counted { before with
      counters := before.counters.recordRelease cause
      handles := before.handles.set handle .released } := by
  obtain ⟨wrapped, released, live, distinct, behind⟩ := counted
  have oneMore := @count_released_set before.handles handle (.emptied cause) .released found
  simp only [reduceCtorEq, beq_iff_eq, if_false, Nat.add_zero, if_true] at oneMore
  refine ⟨?_, ?_, fun other member => ?_, distinct, ?_⟩
  · rw [List.length_set, ← wrapped]
    cases cause <;> rfl
  · rw [oneMore, ← released]
    cases cause
    · exact Nat.add_right_comm _ _ _
    · exact (Nat.add_assoc _ _ _).symm
  · have stays := live other member
    have different : handle ≠ other := by
      rintro rfl
      rw [found] at stays
      cases stays
    show (before.handles.set handle .released)[other]? = _
    rw [List.getElem?_set_ne different, stays]
  · cases cause with
    | explicit => exact behind.later (List.Subset.refl _) (Nat.le_succ _) (Nat.le_refl _)
    | drop => exact behind.later (List.Subset.refl _) (Nat.le_refl _) (Nat.le_succ _)

/-- What the reader reads next is behind the counters from then on. The number of wrapped handles
is read whole as long as it is a word. -/
theorem Counted.readNext {before : LifecycleReading} {reader : LifecycleReader}
    (counted : Counted before) (few : before.counters.wrapped < values64)
    (next : before.readNext = some reader) : before.ReadsBehind reader := by
  obtain ⟨wrapped, released, live, distinct, behind⟩ := counted
  unfold LifecycleReading.readNext at next
  split at next
  · cases next
  · cases next
    intro handle member
    obtain ⟨bound, -⟩ := List.getElem?_eq_some_iff.mp (live handle member)
    rw [UInt64.toNat_ofNat_of_lt' few, wrapped]
    exact bound
  · rename_i read
    cases next
    rw [read] at behind
    exact ⟨behind, ofNat_toNat_le _⟩
  · rename_i read
    cases next
    rw [read] at behind
    exact ⟨behind.1, behind.2, ofNat_toNat_le _⟩
  · cases next

theorem Counted.step {before after : LifecycleReading} {step : LifecycleStep}
    (counted : Counted before) (few : before.counters.wrapped < values64)
    (taken : before.step? step = some after) : Counted after := by
  cases step with
  | wrap =>
    cases taken
    exact counted.wrap
  | empty handle cause =>
    simp only [step?] at taken
    split at taken
    · rename_i found
      cases taken
      exact counted.empty cause found
    · cases taken
  | count handle =>
    simp only [step?] at taken
    split at taken
    · rename_i found
      cases taken
      exact counted.count found
    · cases taken
  | start =>
    simp only [step?] at taken
    split at taken
    · cases taken
      obtain ⟨wrapped, released, -, -, -⟩ := counted
      exact ⟨wrapped, released, fun handle member => mem_liveHandles member,
        List.nodup_range.filter _, trivial⟩
    · cases taken
  | read =>
    obtain ⟨reader, next, rfl⟩ := Option.map_eq_some_iff.mp taken
    have behind := counted.readNext few next
    obtain ⟨wrapped, released, live, distinct, -⟩ := counted
    exact ⟨wrapped, released, live, distinct, behind.later (List.Subset.refl _) (Nat.le_refl _)
      (Nat.le_refl _)⟩

/-- No step takes back the count of a handle that was wrapped. -/
theorem wrapped_le_of_step? {before after : LifecycleReading} {step : LifecycleStep}
    (taken : before.step? step = some after) :
    before.counters.wrapped ≤ after.counters.wrapped := by
  cases step with
  | wrap =>
    cases taken
    exact Nat.le_succ _
  | read =>
    obtain ⟨reader, -, rfl⟩ := Option.map_eq_some_iff.mp taken
    exact Nat.le_refl _
  | empty handle cause | start =>
    simp only [step?] at taken
    split at taken <;> cases taken
    exact Nat.le_refl _
  | count handle =>
    simp only [step?] at taken
    split at taken
    · rename_i cause found
      cases taken
      cases cause <;> exact Nat.le_refl _
    · cases taken

theorem Reachable.counted {reading : LifecycleReading} (reached : reading.Reachable)
    (few : reading.counters.wrapped < values64) : Counted reading := by
  induction reached with
  | new => exact ⟨rfl, rfl, nofun, .nil, trivial⟩
  | step reached taken inductionHypothesis =>
    have fewBefore := Nat.lt_of_le_of_lt (wrapped_le_of_step? taken) few
    exact (inductionHypothesis fewBefore).step fewBefore taken

theorem Reachable.run {reading after : LifecycleReading} {steps : List LifecycleStep}
    (reached : reading.Reachable) (ran : reading.run? steps = some after) : after.Reachable := by
  induction steps generalizing reading with
  | nil => exact Option.some.inj ran ▸ reached
  | cons step rest inductionHypothesis =>
    obtain ⟨between, taken, ranRest⟩ := Option.bind_eq_some_iff.mp ran
    exact inductionHypothesis (reached.step taken) ranRest

/-- Handles that stayed live and those among the first ones that were released are no more than the
first ones. -/
theorem Counted.steady_add_released_le {reading : LifecycleReading} (counted : Counted reading)
    {wrapped : UInt64} (covers : reading.Covers wrapped) :
    reading.steady.length + (reading.handles.take wrapped.toNat).count .released ≤
      wrapped.toNat := by
  have steady : reading.steady.length ≤ (reading.handles.take wrapped.toNat).count .live := by
    refine length_le_countP counted.distinct fun handle member => ⟨.live, ?_, rfl⟩
    rw [List.getElem?_take_of_lt (covers handle member), counted.live handle member]
  have apart : (reading.handles.take wrapped.toNat).count .released ≤
      (reading.handles.take wrapped.toNat).countP fun handle => ¬(handle == .live) = true :=
    List.countP_mono_left fun handle _ released => by simp [beq_iff_eq.mp released]
  have whole := List.length_eq_countP_add_countP (· == CountedHandle.live)
    (l := reading.handles.take wrapped.toNat)
  have short := List.length_take_le wrapped.toNat reading.handles
  unfold List.count at steady
  omega

end LifecycleReading

/-- Reading words whose sum of releases is a word does not stop, and gives the difference. -/
theorem LifecycleSnapshot.live_of_lt {snapshot : LifecycleSnapshot}
    (fits : snapshot.explicit.toNat + snapshot.byDrop.toNat < values64) :
    ∃ live, snapshot.live = .ok live ∧
      live.toNat =
        snapshot.wrapped.toNat - (snapshot.explicit.toNat + snapshot.byDrop.toNat) := by
  have sum := Word.add_isSum snapshot.explicit snapshot.byDrop
  rw [live]
  rcases added : Word.add snapshot.explicit snapshot.byDrop with halt | released
  · rw [added] at sum
    exact absurd fits (Nat.not_lt.mpr sum.2)
  · rw [added] at sum
    rw [← show released.toNat = _ from sum]
    exact ⟨_, rfl, Word.toNat_saturatingSubtract _ _⟩

/-- A reader that is done gets a number of live handles, and it falls short of the handles that were
live all the time by those at most that were wrapped after it began to read and released before it
was done. -/
theorem LifecycleReading.Counted.steady_le_live {reading : LifecycleReading}
    {snapshot : LifecycleSnapshot} (counted : Counted reading)
    (few : reading.counters.wrapped < values64) (finished : reading.reader = .finished snapshot) :
    ∃ live, snapshot.live = .ok live ∧
      reading.steady.length ≤ live.toNat + reading.overtaken snapshot.wrapped := by
  have behind := counted.behind
  rw [finished] at behind
  obtain ⟨covers, explicit, byDrop⟩ := behind
  have room := counted.steady_add_released_le covers
  have parts : reading.handles.count .released =
      (reading.handles.take snapshot.wrapped.toNat).count .released +
        reading.overtaken snapshot.wrapped := by
    rw [overtaken, ← List.count_append, List.take_append_drop]
  have within : reading.handles.count .released ≤ reading.handles.length := List.count_le_length
  have released := counted.released
  have wrapped := counted.wrapped
  have fits : snapshot.explicit.toNat + snapshot.byDrop.toNat < values64 := by omega
  obtain ⟨live, read, difference⟩ := LifecycleSnapshot.live_of_lt fits
  exact ⟨live, read, by omega⟩

/-! ### Hidden handles -/

namespace LifecycleReading

theorem reachable_wrapped (count : Nat) :
    Reachable ⟨⟨count, 0, 0⟩, List.replicate count .live, .idle, []⟩ := by
  induction count with
  | zero => exact .new
  | succ count inductionHypothesis =>
    rw [List.replicate_succ']
    exact @Reachable.step _ _ .wrap inductionHypothesis rfl

theorem liveHandles_replicate (counters : Lifecycle) (count : Nat) (reader : LifecycleReader)
    (steady : List Nat) :
    liveHandles ⟨counters, List.replicate count .live, reader, steady⟩ = List.range count := by
  rw [liveHandles, List.length_replicate]
  refine List.filter_eq_self.mpr fun handle member => ?_
  rw [List.getElem?_replicate, if_pos (List.mem_range.mp member)]
  rfl

/-- A handle that is wrapped and released at once leaves the others and the reader as they were. -/
theorem run?_overtake (reading : LifecycleReading) (cause : ReleaseCause)
    (steady : ∀ handle ∈ reading.steady, handle < reading.handles.length) :
    reading.run? [.wrap, .empty reading.handles.length cause, .count reading.handles.length] =
      some { reading with
        counters := reading.counters.recordWrapped.recordRelease cause
        handles := reading.handles ++ [.released] } := by
  have others : reading.steady.filter (· != reading.handles.length) = reading.steady :=
    List.filter_eq_self.mpr fun handle member =>
      bne_iff_ne.mpr (Nat.ne_of_lt (steady handle member))
  simp [run?, step?, others]

/-- Handles may overtake a reader that has read how many were wrapped and nothing else. -/
theorem reachable_overtaken (count overtaken : Nat) :
    Reachable ⟨⟨count + overtaken, overtaken, 0⟩,
      List.replicate count .live ++ List.replicate overtaken .released,
      .readWrapped (UInt64.ofNat count), List.range count⟩ := by
  induction overtaken with
  | zero =>
    have started := @Reachable.step _ _ .start (reachable_wrapped count) rfl
    rw [liveHandles_replicate] at started
    simpa using @Reachable.step _ _ .read started rfl
  | succ overtaken inductionHypothesis =>
    have next := inductionHypothesis.run (run?_overtake _ .explicit fun handle member => by
      simpa using Nat.lt_add_right overtaken (List.mem_range.mp member))
    rw [List.replicate_succ', ← List.append_assoc]
    exact next

/-- Any number of live handles can be hidden, so the bound cannot be improved: each handle that
overtakes the reader takes one away from the number read. -/
theorem overtakers_hide (count overtaken : Nat) (few : count + overtaken < values64) :
    ∃ (reading : LifecycleReading) (snapshot : LifecycleSnapshot) (live : UInt64),
      reading.Reachable ∧ reading.reader = .finished snapshot ∧ reading.steady.length = count ∧
        reading.overtaken snapshot.wrapped = overtaken ∧ snapshot.live = .ok live ∧
        live.toNat = count - overtaken := by
  have wrapped : (UInt64.ofNat count).toNat = count :=
    UInt64.toNat_ofNat_of_lt' (Nat.lt_of_le_of_lt (Nat.le_add_right count overtaken) few)
  have explicit : (UInt64.ofNat overtaken).toNat = overtaken :=
    UInt64.toNat_ofNat_of_lt' (Nat.lt_of_le_of_lt (Nat.le_add_left overtaken count) few)
  have fits : (UInt64.ofNat overtaken).toNat + 0 < values64 := by omega
  obtain ⟨live, read, difference⟩ := @LifecycleSnapshot.live_of_lt
    ⟨UInt64.ofNat count, UInt64.ofNat overtaken, UInt64.ofNat 0⟩ fits
  have readExplicit := @Reachable.step _ _ .read (reachable_overtaken count overtaken) rfl
  have finished := @Reachable.step _ _ .read readExplicit rfl
  refine ⟨_, _, live, finished, rfl, List.length_range, ?_, read, ?_⟩
  · rw [LifecycleReading.overtaken, wrapped, List.drop_left' List.length_replicate,
      List.count_replicate_self]
  · rw [difference, wrapped, explicit]
    rfl

end LifecycleReading

/-! ### Jobs -/

variable {Content : Type}

namespace JobEvent

/-- The jobs that something happened to, the last first. -/
def jobs (phase : JobPhase) (journal : List (JobEvent Content)) : List CallId :=
  (journal.filter fun event => decide (event.phase = phase)).map job

theorem length_jobs (phase : JobPhase) (journal : List (JobEvent Content)) :
    (jobs phase journal).length = occurrences phase journal := by
  rw [jobs, List.length_map, occurrences, List.countP_eq_length_filter]

theorem count_jobs (phase : JobPhase) (id : CallId) (journal : List (JobEvent Content)) :
    (jobs phase journal).count id = times phase id journal := by
  rw [jobs, List.count, List.countP_map, List.countP_filter, times]
  refine List.countP_congr fun event _ => ?_
  simp [and_comm]

theorem jobs_append (phase : JobPhase) (events journal : List (JobEvent Content)) :
    jobs phase (events ++ journal) = jobs phase events ++ jobs phase journal := by
  rw [jobs, List.filter_append, List.map_append]
  rfl

end JobEvent

namespace Executor

open JobEvent (jobs)

theorem count_queuedJobs (id : CallId) (queue : List Message) :
    (queue.filterMap queuedJob?).count id = queue.count (.run id) := by
  rw [List.count, List.countP_filterMap, List.count]
  refine List.countP_congr fun message _ => ?_
  cases message <;> simp [queuedJob?]

theorem count_runningJobs (id : CallId) (workers : List (Worker Content)) :
    (workers.filterMap runningJob?).count id =
      workers.countP (Worker.runs id) + workers.countP (Worker.settles id) := by
  induction workers with
  | nil => rfl
  | cons worker rest inductionHypothesis =>
    rw [List.countP_cons, List.countP_cons]
    cases worker with
    | running job | ended job outcome | judged job outcome =>
      by_cases same : job = id
      · simp [runningJob?, Worker.runs, Worker.settles, inductionHypothesis, same]
        omega
      · simp [runningJob?, Worker.runs, Worker.settles, inductionHypothesis, same]
    | _ => exact inductionHypothesis

/-- The counters that the reader reads are the numbers of jobs that were counted. -/
theorem Reachable.stats_eq_length {poolSize capacity : Nat} {executor : Executor Content}
    (reached : Reachable poolSize capacity executor) :
    executor.stats.submitted = (jobs .submitted executor.journal).length ∧
      executor.stats.completed = (jobs .completed executor.journal).length := by
  rw [reached.stats_eq_tally, JobEvent.length_jobs, JobEvent.length_jobs]
  exact ⟨rfl, rfl⟩

/-- A job is in one place, or it is counted as completed. -/
theorem Reachable.busy_le {poolSize capacity : Nat} {executor : Executor Content}
    (reached : Reachable poolSize capacity executor) (id : CallId) :
    executor.busyJobs.count id + (jobs .completed executor.journal).count id ≤ 1 := by
  obtain ⟨queued, started, ended⟩ := reached.accounted id
  have once := (reached.entersOnce id).once
  rw [busyJobs, List.count_append, count_queuedJobs, count_runningJobs, JobEvent.count_jobs]
  omega

/-- A busy job that is not counted as submitted is one that its call counts next. -/
theorem Reachable.isUncounted_of_busy {poolSize capacity : Nat} {executor : Executor Content}
    (reached : Reachable poolSize capacity executor) {job : CallId}
    (busy : job ∈ executor.busyJobs) (unsubmitted : job ∉ jobs .submitted executor.journal) :
    executor.isUncounted job = true := by
  have submitted : Submitted job executor := reached.submitted job
  have never := List.count_eq_zero.mpr unsubmitted
  have present := List.count_pos_iff.mpr busy
  obtain ⟨queued, started, ended⟩ := reached.accounted job
  rw [busyJobs, List.count_append, count_queuedJobs, count_runningJobs] at present
  rw [JobEvent.count_jobs] at never
  rw [Submitted, never] at submitted
  by_contra counted
  rw [if_neg counted] at submitted
  omega

/-- So there are no more busy jobs that are not counted as submitted than calls that count theirs
next. -/
theorem Reachable.countP_unsubmitted_le {poolSize capacity : Nat} {executor : Executor Content}
    (reached : Reachable poolSize capacity executor) {group : List CallId}
    (distinct : group.Nodup) (busy : group ⊆ executor.busyJobs) :
    (group.countP fun job => !(jobs .submitted executor.journal).contains job) ≤
      executor.uncounted := by
  rw [List.countP_eq_length_filter]
  refine length_le_countP (distinct.filter _) fun job member => ?_
  obtain ⟨inGroup, unsubmitted⟩ := List.mem_filter.mp member
  have uncounted : executor.isUncounted job = true := by
    refine reached.isUncounted_of_busy (busy inGroup) fun submitted => ?_
    rw [List.contains_iff_mem.mpr submitted] at unsubmitted
    cases unsubmitted
  cases known : executor.calls[job]? with
  | none =>
    rw [isUncounted, Call.stage?, known] at uncounted
    cases uncounted
  | some call => exact ⟨call, rfl, (isUncounted_found known).symm.trans uncounted⟩

/-- The journal is only added to. -/
theorem Move.journal {before after : Executor Content} (move : Move before after) :
    ∃ events, after.journal = events ++ before.journal := by
  cases move with
  | accepted id => exact ⟨[.queued id], rfl⟩
  | submitted id => exact ⟨[.submitted id], rfl⟩
  | received index job => exact ⟨[.started job], rfl⟩
  | finished index job outcome => exact ⟨[.ended job outcome], rfl⟩
  | judged index job => exact ⟨[.failed job], rfl⟩
  | completed index job => exact ⟨[.completed job], rfl⟩
  | regretted index job => exact ⟨[.cancelled job], rfl⟩
  | leftLast index => exact ⟨_, (before.setWorker index .stopped).discard_discards.journal⟩
  | _ => exact ⟨[], rfl⟩

/-- No step takes back the count of a job that was submitted. -/
theorem Move.submitted_le {before after : Executor Content} (move : Move before after) :
    before.stats.submitted ≤ after.stats.submitted := by
  cases move with
  | submitted => exact Nat.le_succ _
  | leftLast =>
    rw [discard_stats]
    exact Nat.le_refl _
  | _ => exact Nat.le_refl _

end Executor

namespace InFlightReading

open JobEvent (jobs)

/-- Whether a job was counted as submitted when the reader took that number. -/
def isSeen (reading : InFlightReading Content) (job : CallId) : Bool :=
  (jobs .submitted reading.past.journal).contains job

/-- How many of some jobs were not counted as submitted when the reader took that number. -/
def unseen (reading : InFlightReading Content) (group : List CallId) : Nat :=
  group.countP fun job => !reading.isSeen job

theorem countP_isSeen_add_unseen (reading : InFlightReading Content) (group : List CallId) :
    group.countP reading.isSeen + reading.unseen group = group.length := by
  rw [List.length_eq_countP_add_countP reading.isSeen, unseen]
  simp

/-- How many jobs are counted as completed that were not counted as submitted when the reader took
that number. -/
def overtaken (reading : InFlightReading Content) : Nat :=
  reading.unseen (jobs .completed reading.executor.journal)

/-- How what a reader has read is related to the jobs that it saw. -/
def ReadsBehind (reading : InFlightReading Content) : InFlightReader → Prop
  | .idle | .started => True
  | .readSubmitted submitted =>
    submitted.toNat = (jobs .submitted reading.past.journal).length ∧
      reading.unseen reading.steady ≤ reading.past.uncounted
  | .finished inFlight =>
    reading.steady.countP reading.isSeen ≤ inFlight.toNat + reading.overtaken ∧
      reading.unseen reading.steady ≤ reading.past.uncounted

/-- How the executor and the reader belong together. -/
structure Tracked (poolSize capacity : Nat) (reading : InFlightReading Content) : Prop where
  reached : Executor.Reachable poolSize capacity reading.executor
  busy : reading.steady ⊆ reading.executor.busyJobs
  distinct : reading.steady.Nodup
  behind : reading.ReadsBehind reading.reader

variable {poolSize capacity : Nat}

/-- The jobs that are busy and those that are completed are different jobs, so those among them that
the reader has seen are no more than it has seen. -/
theorem Tracked.seen_le {reading : InFlightReading Content}
    (tracked : Tracked poolSize capacity reading) :
    reading.steady.countP reading.isSeen +
        (jobs .completed reading.executor.journal).countP reading.isSeen ≤
      (jobs .submitted reading.past.journal).length := by
  have distinct : (reading.steady ++ jobs .completed reading.executor.journal).Nodup := by
    refine List.nodup_iff_count_le_one.mpr fun job => ?_
    have once := tracked.reached.busy_le job
    have steady := (List.subperm_of_subset tracked.distinct tracked.busy).count_le job
    rw [List.count_append]
    omega
  have seen : (reading.steady ++ jobs .completed reading.executor.journal).filter reading.isSeen ⊆
      jobs .submitted reading.past.journal := fun job member =>
    List.contains_iff_mem.mp (List.mem_filter.mp member).2
  have bound := (List.subperm_of_subset (distinct.filter _) seen).length_le
  rwa [← List.countP_eq_length_filter, List.countP_append] at bound

theorem Tracked.act {before after : InFlightReading Content} {step : ExecutorStep Content}
    (tracked : Tracked poolSize capacity before) (taken : before.act? step = some after) :
    Tracked poolSize capacity after := by
  obtain ⟨reached, busy, distinct, behind⟩ := tracked
  obtain ⟨executor, stepped, rfl⟩ := Option.map_eq_some_iff.mp taken
  refine ⟨reached.step stepped, fun job member => ?_, distinct.filter _, ?_⟩
  · exact List.contains_iff_mem.mp (List.mem_filter.mp member).2
  · obtain ⟨events, journal⟩ := (Executor.step?_move stepped).journal
    -- Of the jobs that stayed fewer are left, and of those that overtook the reader there are more.
    have fewer (test : CallId → Bool) :
        (before.steady.filter executor.busyJobs.contains).countP test ≤
          before.steady.countP test := List.filter_sublist.countP_le
    generalize before.reader = reader at behind ⊢
    cases reader with
    | idle => trivial
    | started => trivial
    | readSubmitted submitted => exact ⟨behind.1, Nat.le_trans (fewer _) behind.2⟩
    | finished inFlight =>
      have more : before.overtaken ≤ before.unseen (jobs .completed executor.journal) := by
        rw [journal, JobEvent.jobs_append, unseen, List.countP_append]
        exact Nat.le_add_left _ _
      exact ⟨Nat.le_trans (Nat.le_trans (fewer _) behind.1) (Nat.add_le_add_left more _),
        Nat.le_trans (fewer _) behind.2⟩

theorem Tracked.read {before after : InFlightReading Content}
    (tracked : Tracked poolSize capacity before)
    (few : before.executor.stats.submitted < values64) (taken : before.read? = some after) :
    Tracked poolSize capacity after := by
  obtain ⟨submittedCount, completedCount⟩ := tracked.reached.stats_eq_length
  have seen := tracked.seen_le
  obtain ⟨reached, busy, distinct, behind⟩ := tracked
  unfold InFlightReading.read? at taken
  split at taken
  · cases taken
    refine ⟨reached, List.Subset.refl _, List.nodup_iff_count_le_one.mpr fun job => ?_, trivial⟩
    exact Nat.le_trans (Nat.le_add_right _ _) (reached.busy_le job)
  · cases taken
    have exact : before.executor.stats.snapshot.submitted.toNat =
        before.executor.stats.submitted := UInt64.toNat_ofNat_of_lt' few
    exact ⟨reached, busy, distinct, exact.trans submittedCount,
      reached.countP_unsubmitted_le distinct busy⟩
  · rename_i submitted read
    cases taken
    rw [read] at behind
    obtain ⟨known, unseen⟩ := behind
    refine ⟨reached, busy, distinct, ?_, unseen⟩
    -- The completed jobs are taken off all at once, those with them that were never added. A number
    -- of them that does not fit in a word is read as a smaller one.
    have word : before.executor.stats.snapshot.completed.toNat ≤ before.executor.stats.completed :=
      LifecycleReading.ofNat_toNat_le _
    show before.steady.countP before.isSeen ≤
      (Word.saturatingSubtract submitted before.executor.stats.snapshot.completed).toNat +
        before.overtaken
    rw [Word.toNat_saturatingSubtract]
    have parts := before.countP_isSeen_add_unseen (jobs .completed before.executor.journal)
    unfold overtaken
    omega
  · cases taken

theorem submitted_le_of_step? {before after : InFlightReading Content}
    {step : InFlightStep Content} (taken : before.step? step = some after) :
    before.executor.stats.submitted ≤ after.executor.stats.submitted := by
  cases step with
  | act step =>
    obtain ⟨executor, stepped, rfl⟩ := Option.map_eq_some_iff.mp taken
    exact (Executor.step?_move stepped).submitted_le
  | read =>
    simp only [step?, read?] at taken
    split at taken <;> cases taken <;> exact Nat.le_refl _

theorem Reachable.tracked {reading : InFlightReading Content}
    (reached : reading.Reachable poolSize capacity)
    (few : reading.executor.stats.submitted < values64) : Tracked poolSize capacity reading := by
  induction reached with
  | new => exact ⟨.new, nofun, .nil, trivial⟩
  | step reached taken inductionHypothesis =>
    rename_i step
    have fewBefore := Nat.lt_of_le_of_lt (submitted_le_of_step? taken) few
    cases step with
    | act step => exact (inductionHypothesis fewBefore).act taken
    | read => exact (inductionHypothesis fewBefore).read fewBefore taken

theorem Reachable.run {reading after : InFlightReading Content}
    {steps : List (InFlightStep Content)} (reached : reading.Reachable poolSize capacity)
    (ran : reading.run? steps = some after) : after.Reachable poolSize capacity := by
  induction steps generalizing reading with
  | nil => exact Option.some.inj ran ▸ reached
  | cons step rest inductionHypothesis =>
    obtain ⟨between, taken, ranRest⟩ := Option.bind_eq_some_iff.mp ran
    exact inductionHypothesis (reached.step taken) ranRest

/-- A reader that is done has a number that falls short of the jobs that were queued or running all
the time by those at most that were not counted as submitted when it took that number, and by
those that were not and are counted as completed. The former ones were about to be counted. -/
theorem Tracked.steady_le_inFlight {reading : InFlightReading Content} {inFlight : UInt64}
    (tracked : Tracked poolSize capacity reading) (finished : reading.reader = .finished inFlight) :
    reading.steady.length ≤ inFlight.toNat + reading.unseen reading.steady + reading.overtaken ∧
      reading.unseen reading.steady ≤ reading.past.uncounted := by
  have behind := tracked.behind
  rw [finished] at behind
  obtain ⟨seen, unseen⟩ := behind
  have parts := reading.countP_isSeen_add_unseen reading.steady
  exact ⟨by omega, unseen⟩

end InFlightReading

/-! ### Hidden jobs -/

namespace Executor

/-- A call that finds the executor open and room in the queue puts its job there, and has yet to
count it. -/
theorem run?_enqueue {executor : Executor Content} (running : executor.isRunning = true)
    (inhabited : executor.isDeserted = false) (room : executor.hasRoom = true) :
    executor.run? [.begin .immediate, .check executor.calls.length, .offer executor.calls.length] =
      some { executor with
        calls := executor.calls ++ [⟨.immediate, .queued, .empty⟩]
        queue := executor.queue ++ [.run executor.calls.length]
        journal := .queued executor.calls.length :: executor.journal } := by
  have last (call : Call Content) :
      (executor.calls ++ [call])[executor.calls.length]? = some call := List.getElem?_concat_length
  have put (call : Call Content) (stage : CallStage Content) :
      ((executor.calls ++ [call]).modify executor.calls.length fun former =>
        { former with stage := stage }) = executor.calls ++ [{ call with stage := stage }] := by
    rw [List.modify_eq_take_cons_drop (by simp)]
    simp
  unfold isRunning at running
  unfold isDeserted at inhabited
  unfold hasRoom at room
  simp only [run?, step?, Option.bind_some, last, put, stepCall, isRunning, running, if_true,
    setStage, offer, isDeserted, inhabited, hasRoom, room, Bool.false_eq_true, if_false, push,
    record]

/-- An executor whose queue holds jobs that nobody has counted yet. -/
def holding (poolSize capacity count : Nat) : Executor Content :=
  { Executor.new poolSize capacity with
    calls := List.replicate count ⟨.immediate, .queued, .empty⟩
    queue := (List.range count).map .run
    journal := ((List.range count).map .queued).reverse }

theorem reachable_holding (poolSize capacity count : Nat) (room : count ≤ capacity) :
    Reachable poolSize capacity (holding poolSize capacity count : Executor Content) := by
  induction count with
  | zero => exact .new
  | succ count inductionHypothesis =>
    have inhabited : (holding poolSize capacity count : Executor Content).isDeserted = false := by
      show (List.replicate (max poolSize 1) (.idle : Worker Content)).all Worker.isStopped = false
      rw [List.all_replicate, if_neg (by omega)]
      rfl
    have hasRoom : (holding poolSize capacity count : Executor Content).hasRoom = true := by
      show decide (((List.range count).map Message.run).length < max capacity 1) = true
      simp only [List.length_map, List.length_range, decide_eq_true_eq]
      omega
    have next := (inductionHypothesis (Nat.le_of_succ_le room)).run
      (run?_enqueue rfl inhabited hasRoom)
    simpa [holding, List.replicate_succ', List.range_succ] using next

theorem busyJobs_holding (poolSize capacity count : Nat) :
    (holding poolSize capacity count : Executor Content).busyJobs = List.range count := by
  have queued : ((List.range count).map Message.run).filterMap queuedJob? = List.range count := by
    rw [List.filterMap_map]
    exact List.filterMap_some
  have running : (List.replicate (max poolSize 1) (.idle : Worker Content)).filterMap runningJob? =
      [] := List.filterMap_replicate_of_none rfl
  show ((List.range count).map Message.run).filterMap queuedJob? ++
    (List.replicate (max poolSize 1) (.idle : Worker Content)).filterMap runningJob? = _
  rw [queued, running, List.append_nil]

theorem jobs_submitted_holding (poolSize capacity count : Nat) :
    JobEvent.jobs .submitted (holding poolSize capacity count : Executor Content).journal = [] := by
  simp [holding, JobEvent.jobs, JobEvent.phase]

end Executor

namespace InFlightReading

/-- Before anybody reads, the executor goes its way. -/
theorem reachable_idle {poolSize capacity : Nat} {executor : Executor Content}
    (reached : Executor.Reachable poolSize capacity executor) :
    ∃ past, Reachable poolSize capacity ⟨executor, .idle, [], past⟩ := by
  induction reached with
  | new => exact ⟨_, .new⟩
  | step reached taken inductionHypothesis =>
    obtain ⟨past, idle⟩ := inductionHypothesis
    exact ⟨past, @Reachable.step _ _ _ _ _ (.act _) idle
      (Option.map_eq_some_iff.mpr ⟨_, taken, rfl⟩)⟩

/-- Any number of queued jobs can be hidden, too: the reader finds none in flight, because none is
counted yet. -/
theorem uncounted_hide (poolSize capacity count : Nat) (room : count ≤ capacity) :
    ∃ reading : InFlightReading Content, reading.Reachable poolSize capacity ∧
      reading.reader = .finished 0 ∧ reading.steady.length = count ∧
      reading.unseen reading.steady = count := by
  obtain ⟨past, idle⟩ := reachable_idle (Executor.reachable_holding poolSize capacity count room)
  have started := @Reachable.step _ _ _ _ _ .read idle rfl
  have readSubmitted := @Reachable.step _ _ _ _ _ .read started rfl
  have finished := @Reachable.step _ _ _ _ _ .read readSubmitted rfl
  have stays :
      (Executor.holding poolSize capacity count : Executor Content).busyJobs.length = count := by
    rw [Executor.busyJobs_holding, List.length_range]
  have none : ExecutorStats.zero.snapshot.inFlight = 0 := by decide
  refine ⟨_, finished, congrArg InFlightReader.finished none, stays, ?_⟩
  rw [unseen, List.countP_eq_length.mpr fun job _ => ?_]
  · exact stays
  · show (!(JobEvent.jobs .submitted
      (Executor.holding poolSize capacity count : Executor Content).journal).contains job) = true
    rw [Executor.jobs_submitted_holding]
    rfl

end InFlightReading

/-! ### Both readers -/

/-- What readers of the counters get, whatever happens meanwhile, as long as the wrapped handles and
the submitted jobs can be counted in a word. The number of live handles is read without a halt. It
falls short of the
handles that were live all the time by those at most that were wrapped after the reader took the
number of wrapped ones, and whose release is counted. The number of jobs in flight falls short of
the jobs that were queued or running all the time by those at most that were not counted as
submitted when the reader took that number: those among the jobs themselves, and those that are
counted as completed. The jobs themselves were in the queue or running already, and their calls were
about to count them. -/
theorem counter_reads_short_by_overtakers {Content : Type} {poolSize capacity : Nat}
    {handles : LifecycleReading} {snapshot : LifecycleSnapshot} {jobs : InFlightReading Content}
    {inFlight : UInt64} (handlesReached : handles.Reachable)
    (fewHandles : handles.counters.wrapped < values64)
    (handlesRead : handles.reader = .finished snapshot)
    (jobsReached : jobs.Reachable poolSize capacity)
    (fewJobs : jobs.executor.stats.submitted < values64)
    (jobsRead : jobs.reader = .finished inFlight) :
    (∃ live, snapshot.live = .ok live ∧
        handles.steady.length ≤ live.toNat + handles.overtaken snapshot.wrapped) ∧
      jobs.steady.length ≤ inFlight.toNat + jobs.unseen jobs.steady + jobs.overtaken ∧
      jobs.unseen jobs.steady ≤ jobs.past.uncounted :=
  ⟨(handlesReached.counted fewHandles).steady_le_live fewHandles handlesRead,
    (jobsReached.tracked fewJobs).steady_le_inFlight jobsRead⟩

/-- A handle stays live while a second one is wrapped and released behind the reader's back. -/
def overtakingHandle : List LifecycleStep :=
  [.wrap, .start, .read, .wrap, .empty 1 .explicit, .count 1, .read, .read]

/-- What brings a call's job from its beginning to a worker. -/
def sendJob (job : CallId) (worker : Nat) : List (InFlightStep Nat) :=
  [.act (.begin .immediate), .act (.check job), .act (.offer job), .act (.count job),
   .act (.receive worker)]

/-- A job runs on while a second one is submitted and completed behind the reader's back. -/
def overtakingJob : List (InFlightStep Nat) :=
  sendJob 0 0 ++ [.read, .read] ++ sendJob 1 1 ++
    [.act (.finish 1 (.value 7)), .act (.complete 1), .read]

/-- A job runs that is not counted as submitted yet. -/
def uncountedJob : List (InFlightStep Nat) :=
  [.act (.begin .immediate), .act (.check 0), .act (.offer 0), .act (.receive 0),
   .read, .read, .read]

theorem counter_reads_short_by_overtakers_overtaken :
    ∃ (handles : LifecycleReading) (jobs : InFlightReading Nat),
      LifecycleReading.new.run? overtakingHandle = some handles ∧
      (InFlightReading.new (Executor.new 2 1)).run? overtakingJob = some jobs ∧
      handles.reader = .finished ⟨1, 1, 0⟩ ∧ jobs.reader = .finished 0 ∧
      (∃ live, LifecycleSnapshot.live ⟨1, 1, 0⟩ = .ok live ∧
        handles.steady.length ≤ live.toNat + handles.overtaken 1) ∧
      jobs.steady.length ≤ 0 + jobs.unseen jobs.steady + jobs.overtaken ∧
      jobs.unseen jobs.steady ≤ jobs.past.uncounted := by
  obtain ⟨handles, handlesRan, handlesRead, fewHandles⟩ : ∃ handles : LifecycleReading,
      LifecycleReading.new.run? overtakingHandle = some handles ∧
        handles.reader = .finished ⟨1, 1, 0⟩ ∧ handles.counters.wrapped < values64 :=
    ⟨_, rfl, rfl, by decide⟩
  obtain ⟨jobs, jobsRan, jobsRead, fewJobs⟩ : ∃ jobs : InFlightReading Nat,
      (InFlightReading.new (Executor.new 2 1)).run? overtakingJob = some jobs ∧
        jobs.reader = .finished 0 ∧ jobs.executor.stats.submitted < values64 :=
    ⟨_, rfl, rfl, by decide⟩
  have both := counter_reads_short_by_overtakers (LifecycleReading.Reachable.new.run handlesRan)
    fewHandles handlesRead (InFlightReading.Reachable.new.run jobsRan) fewJobs jobsRead
  exact ⟨handles, jobs, handlesRan, jobsRan, handlesRead, jobsRead, both.1, both.2⟩

/-- One handle is live all the time, and the reader gets none. One job is running all the time, and
the reader finds none in flight, because another one was submitted and completed meanwhile, or
because the job itself is not counted yet. -/
theorem counters_hide_what_stays :
    (∃ handles, LifecycleReading.new.run? overtakingHandle = some handles ∧
        handles.steady = [0] ∧ handles.reader = .finished ⟨1, 1, 0⟩ ∧
        LifecycleSnapshot.live ⟨1, 1, 0⟩ = .ok 0) ∧
      ∀ steps ∈ [overtakingJob, uncountedJob],
        ∃ jobs, (InFlightReading.new (Executor.new 2 1)).run? steps = some jobs ∧
          jobs.steady = [0] ∧ jobs.reader = .finished 0 := by
  refine ⟨⟨_, rfl, rfl, rfl, rfl⟩, fun steps member => ?_⟩
  simp only [List.mem_cons, List.not_mem_nil, or_false] at member
  rcases member with rfl | rfl
  · exact ⟨_, rfl, rfl, rfl⟩
  · exact ⟨_, rfl, rfl, rfl⟩

end WalletBridge
