/-
This file says when nothing goes on any more. A worker stands still only when it has nothing to do,
when its job sleeps or has come to a gate that is shut, or when the worker has left. A call stands
still only when it is over or dropped, or as long as it waits for a reply.

The job of a call that waits for its reply is in the queue, or at a worker that owes the reply. So
where nobody can move and no alarm is set, while a call is not answered, a job stands at a gate that
is shut. A call with a deadline is answered even then, because the deadline is an alarm.
-/

import WalletBridge.Proofs.AwaitedJobs
import WalletBridge.Proofs.TimelineJobs

namespace WalletBridge

variable {World Content : Type}

namespace Timeline

variable {timeline : Timeline World Content} {poolSize capacity : Nat}

/-! ### Workers that stand still -/

/-- A worker has come to a gate that is shut. -/
def Barred (timeline : Timeline World Content) (index : Nat) : Prop :=
  ∃ name rest wake, timeline.workers[index]? = some ⟨some (.gate name rest), wake⟩ ∧
    timeline.gates.find? (·.name == name) = some ⟨name, true, false⟩

/-- Why a worker stands still. -/
inductive Rests (timeline : Timeline World Content) (index : Nat) : Prop where
  | unoccupied (idle : timeline.executor.workers[index]? = some .idle)
      (empty : timeline.executor.queue = [])
  | asleep {rest : Job World Content} {wake : Nat}
      (left : timeline.workers[index]? = some ⟨some rest, wake⟩) (early : timeline.clock < wake)
  | barred (shut : timeline.Barred index)
  | gone (stopped : timeline.executor.workers[index]? = some .stopped)

/-- A worker can go on with its job unless it has come to a gate that is shut. -/
theorem work_eq_none {index : Nat} {id : CallId} {job : Job World Content}
    (running : timeline.executor.workers[index]? = some (.running id))
    (there : job.gates ⊆ timeline.gates.map (·.name)) (stays : timeline.work index job = none) :
    ∃ name rest, job = .gate name rest ∧
      timeline.gates.find? (·.name == name) = some ⟨name, true, false⟩ := by
  cases job with
  | act action =>
    have stepped := Option.map_eq_none_iff.mp stays
    rw [Executor.step?_finish running] at stepped
    cases stepped
  | sleep milliseconds rest => cases stays
  | gate name rest =>
    refine ⟨name, rest, rfl, ?_⟩
    obtain ⟨gate, isGate, called⟩ := List.mem_map.mp (there (List.mem_cons_self ..))
    cases found : timeline.gates.find? (·.name == name) with
    | none => exact absurd (beq_iff_eq.mpr called) (List.find?_eq_none.mp found gate isGate)
    | some gate =>
      obtain ⟨other, started, isOpen⟩ := gate
      have same : other = name :=
        eq_of_beq (List.find?_some (p := fun gate : Gate => gate.name == name) found)
      simp only [work, found] at stays
      cases isOpen with
      | true => cases started <;> cases stays
      | false =>
        cases started with
        | true => rw [same]
        | false => cases stays

/-- A worker that stands still over a job sleeps or has come to a gate that is shut. -/
theorem Sound.rests_of_running (sound : Sound poolSize capacity timeline) {index : Nat}
    {id : CallId} (bound : index < timeline.workers.length)
    (running : timeline.executor.workers[index]? = some (.running id))
    (stays : timeline.moveWorker? index = none) : timeline.Rests index := by
  simp only [moveWorker?, running] at stays
  split at stays
  · -- There is no worker whose job is not known.
    have begun := sound.reached.lt_of_running running
    rw [← sound.length_jobs, jobs, List.length_map] at begun
    rw [Option.map_eq_none_iff, List.getElem?_eq_getElem begun] at stays
    cases stays
  · rename_i rest wake left
    split at stays
    · rename_i early
      exact .asleep left early
    · obtain ⟨other, job, -, known, part⟩ := sound.rests index rest wake left
      have there := sound.gates job (List.mem_of_getElem? known)
      obtain ⟨name, later, rfl, shut⟩ :=
        work_eq_none running (List.Subset.trans part.gates_subset there) stays
      exact .barred ⟨name, later, wake, left, shut⟩
  · rename_i beyond
    exact absurd bound (Nat.not_lt.mpr (List.getElem?_eq_none_iff.mp beyond))

theorem Sound.rests_of_stays (sound : Sound poolSize capacity timeline) {index : Nat}
    (bound : index < timeline.workers.length) (stays : timeline.moveWorker? index = none) :
    timeline.Rests index := by
  cases phase : timeline.executor.workers[index]? with
  | none =>
    rw [sound.workers] at bound
    exact absurd bound (Nat.not_lt.mpr (List.getElem?_eq_none_iff.mp phase))
  | some worker =>
    cases worker with
    | running id => exact sound.rests_of_running bound phase stays
    | stopped => exact .gone phase
    | idle =>
      refine .unoccupied phase ?_
      simp only [moveWorker?, phase] at stays
      have stuck := Option.map_eq_none_iff.mp stays
      simp only [Executor.step?, phase] at stuck
      cases first : timeline.executor.queue with
      | nil => rfl
      | cons message rest =>
        cases message <;> simp only [Executor.stepWorker, first] at stuck <;> cases stuck
    | _ =>
      -- A worker behind its job can always go on.
      simp only [moveWorker?, phase] at stays
      have stuck := Option.map_eq_none_iff.mp stays
      simp only [Executor.step?, phase] at stuck
      cases stuck

/-- A worker stands still exactly when it has nothing to do, when its job sleeps or has come to a
gate that is shut, or when the worker has left. -/
theorem Sound.moveWorker?_eq_none_iff (sound : Sound poolSize capacity timeline) {index : Nat}
    (bound : index < timeline.workers.length) :
    timeline.moveWorker? index = none ↔ timeline.Rests index := by
  refine ⟨sound.rests_of_stays bound, ?_⟩
  rintro (⟨idle, empty⟩ | ⟨left, early⟩ | ⟨name, rest, wake, left, shut⟩ | stopped)
  · simp only [moveWorker?, idle, step?, Executor.step?, Executor.stepWorker, empty]
    rfl
  · obtain ⟨id, job, running, -⟩ := sound.rests index _ _ left
    simp only [moveWorker?, running, left, if_pos early]
  · obtain ⟨id, job, running, -⟩ := sound.rests index _ _ left
    simp only [moveWorker?, running, left, work, shut, ite_self]
  · simp only [moveWorker?, stopped]

/-! ### Calls that stand still -/

theorem stays_of_move?_eq_none {driven : List CallId} (stays : timeline.move? driven = none) :
    (∀ index < timeline.workers.length, timeline.moveWorker? index = none) ∧
      ∀ call ∈ driven, timeline.moveCall? call = none := by
  unfold move? at stays
  split at stays
  · cases stays
  · rename_i workers
    exact ⟨fun index bound =>
      List.findSome?_eq_none_iff.mp workers index (List.mem_range.mpr bound),
      List.findSome?_eq_none_iff.mp stays⟩

/-- Where nothing is to be expected, all alarms are past. -/
theorem not_lt_of_noMoment {driven : List CallId} {alarm : Option Nat} {moment : Nat}
    (noMoment : timeline.nextMoment? driven alarm = none)
    (isAlarm : moment ∈ timeline.workerAlarms ∨ moment ∈ timeline.callAlarms driven) :
    ¬timeline.clock < moment := by
  intro later
  have none := List.filter_eq_nil_iff.mp (List.min?_eq_none_iff.mp noMoment) moment
  refine none ?_ (decide_eq_true later)
  rw [List.mem_append, List.mem_append]
  exact isAlarm.imp_left .inr

/-- Where nothing is to be expected, a worker has nothing to do, stands at a gate that is shut, or
has left. -/
theorem Sound.worker_of_stuck (sound : Sound poolSize capacity timeline) {driven : List CallId}
    {alarm : Option Nat} (stuck : timeline.IsStuck driven alarm) {index : Nat}
    (bound : index < timeline.workers.length) :
    timeline.executor.workers[index]? = some .idle ∧ timeline.executor.queue = [] ∨
      timeline.Barred index ∨ timeline.executor.workers[index]? = some .stopped := by
  have stays := (stays_of_move?_eq_none stuck.stays).1 index bound
  obtain ⟨idle, empty⟩ | ⟨left, early⟩ | shut | stopped := sound.rests_of_stays bound stays
  · exact .inl ⟨idle, empty⟩
  · refine absurd early (not_lt_of_noMoment stuck.noMoment (.inl ?_))
    exact List.mem_filterMap.mpr ⟨_, List.mem_of_getElem? left, rfl⟩
  · exact .inr (.inl shut)
  · exact .inr (.inr stopped)

/-- A call has a deadline when its time is limited. -/
theorem Sound.deadline_isSome (sound : Sound poolSize capacity timeline) {call : CallId}
    {state : Call Content} {times : CallTimes World Content}
    (known : timeline.executor.calls[call]? = some state)
    (timed : timeline.calls[call]? = some times) :
    times.deadline.isSome = state.kind.isTimed := by
  have same := congrArg (·[call]?) sound.deadlines
  simpa only [List.getElem?_map, known, timed, Option.map_some, Option.some.injEq] using same

theorem isLate_eq {call : CallId} {times : CallTimes World Content}
    (timed : timeline.calls[call]? = some times) :
    timeline.isLate call = times.deadline.any (· ≤ timeline.clock) := by
  unfold isLate
  rw [timed, Option.bind_some]
  cases times.deadline <;> rfl

/-- Where nothing is to be expected, a call that is not late has no deadline. -/
theorem deadline_eq_none {driven : List CallId} {alarm : Option Nat} {call : CallId}
    {state : Call Content} {times : CallTimes World Content}
    (noMoment : timeline.nextMoment? driven alarm = none) (among : call ∈ driven)
    (known : timeline.executor.calls[call]? = some state)
    (timed : timeline.calls[call]? = some times)
    (waits : state.stage = .pausing ∨ state.stage = .waiting)
    (early : timeline.isLate call = false) : times.deadline = none := by
  rw [isLate_eq timed] at early
  cases deadline : times.deadline with
  | none => rfl
  | some moment =>
    rw [deadline, Option.any_some, decide_eq_false_iff_not] at early
    refine absurd (Nat.lt_of_not_le early) (not_lt_of_noMoment noMoment (.inr ?_))
    refine List.mem_flatMap.mpr ⟨call, among, ?_⟩
    obtain ⟨kind, stage, mailbox⟩ := state
    obtain rfl | rfl := waits
    · simp [known, timed, deadline]
    · simp [known, timed, deadline]

/-- Why a call stands still. -/
inductive CallRests (state : Call Content) : Prop where
  | ended (reply : Except ExecutorError Content) (done : state.stage = .done reply)
  | dropped (gone : state.stage = .abandoned)
  | unanswered (waits : state.stage = .waiting) (empty : state.mailbox = .empty)
      (untimed : state.kind.isTimed = false)

/-- Where nothing is to be expected, no call pauses. -/
theorem IsStuck.not_pausing {driven : List CallId} {alarm : Option Nat}
    (stuck : timeline.IsStuck driven alarm) {call : CallId} {state : Call Content}
    {times : CallTimes World Content} (among : call ∈ driven)
    (known : timeline.executor.calls[call]? = some state)
    (timed : timeline.calls[call]? = some times) : state.stage ≠ .pausing := by
  intro pausing
  have stays := (stays_of_move?_eq_none stuck.stays).2 call among
  simp only [moveCall?, known, timed, pausing] at stays
  split at stays
  · have impossible := Option.map_eq_none_iff.mp stays
    simp only [Executor.step?, known, Executor.stepCall, pausing] at impossible
    cases impossible
  · rename_i asleep
    refine absurd (Nat.lt_of_not_le asleep) (not_lt_of_noMoment stuck.noMoment (.inr ?_))
    refine List.mem_flatMap.mpr ⟨call, among, ?_⟩
    obtain ⟨kind, stage, mailbox⟩ := state
    cases pausing
    simp [known, timed]

theorem Sound.unanswered_of_waiting (sound : Sound poolSize capacity timeline)
    {driven : List CallId} {alarm : Option Nat} (stuck : timeline.IsStuck driven alarm)
    {call : CallId} {state : Call Content} {times : CallTimes World Content}
    (among : call ∈ driven) (known : timeline.executor.calls[call]? = some state)
    (timed : timeline.calls[call]? = some times) (waiting : state.stage = .waiting) :
    state.mailbox = .empty ∧ state.kind.isTimed = false := by
  have stays := (stays_of_move?_eq_none stuck.stays).2 call among
  simp only [moveCall?, known, timed, waiting] at stays
  split at stays
  · cases stays
  · rename_i noReply
    have impossible := Option.map_eq_none_iff.mp noReply
    simp only [Executor.step?, known, Executor.stepCall, waiting] at impossible
    have empty : state.mailbox = .empty := by
      cases mailbox : state.mailbox with
      | empty => rfl
      | filled reply | lost => simp [mailbox] at impossible
    refine ⟨empty, ?_⟩
    have limited := sound.deadline_isSome known timed
    cases late : timeline.isLate call with
    | false =>
      rw [← limited, deadline_eq_none stuck.noMoment among known timed (.inr waiting) late]
      rfl
    | true =>
      rw [late, if_pos rfl] at stays
      have notMissed := Option.map_eq_none_iff.mp stays
      cases kind : state.kind with
      | patient | immediate => rfl
      | timed milliseconds =>
        simp only [Executor.step?, known, Executor.stepCall, kind, waiting, empty] at notMissed
        cases notMissed

theorem Sound.call_of_stuck (sound : Sound poolSize capacity timeline) {driven : List CallId}
    {alarm : Option Nat} (stuck : timeline.IsStuck driven alarm) {call : CallId}
    {state : Call Content} (among : call ∈ driven)
    (known : timeline.executor.calls[call]? = some state) : CallRests state := by
  have bound : call < timeline.calls.length := by
    have length := sound.length_jobs
    rw [jobs, List.length_map] at length
    rw [length]
    exact (List.getElem?_eq_some_iff.mp known).1
  have timed := List.getElem?_eq_getElem bound
  have stays := (stays_of_move?_eq_none stuck.stays).2 call among
  have punctual := sound.reached.punctual call state known
  cases stage : state.stage with
  | done reply => exact .ended reply stage
  | abandoned => exact .dropped stage
  | waiting =>
    obtain ⟨empty, untimed⟩ := sound.unanswered_of_waiting stuck among known timed stage
    exact .unanswered stage empty untimed
  | pausing => exact absurd stage (stuck.not_pausing among known timed)
  | fresh | offering | queued =>
    simp only [moveCall?, known, timed, stage] at stays
    have impossible := Option.map_eq_none_iff.mp stays
    simp only [Executor.step?, known, Executor.stepCall, stage] at impossible
    cases impossible
  | crowded =>
    simp only [moveCall?, known, timed, stage] at stays
    have impossible := Option.map_eq_none_iff.mp (Option.map_eq_none_iff.mp stays)
    simp only [Executor.step?, known, Executor.stepCall, stage] at impossible
    cases impossible
  | missed | expired =>
    -- Only a call with a limited time looks at its clock.
    have isTimed : state.kind.isTimed = true := punctual (by rw [stage]; rfl)
    simp only [moveCall?, known, timed, stage] at stays
    have impossible := Option.map_eq_none_iff.mp stays
    cases kind : state.kind with
    | patient | immediate =>
      rw [kind] at isTimed
      cases isTimed
    | timed milliseconds =>
      simp only [Executor.step?, known, Executor.stepCall, kind, stage] at impossible
      cases impossible

/-! ### Calls that are not answered -/

/-- Where nothing is to be expected and no gate is in the way, all workers are free, and no message
is left. -/
theorem Sound.free_of_stuck (sound : Sound poolSize capacity timeline) {driven : List CallId}
    {alarm : Option Nat} (stuck : timeline.IsStuck driven alarm)
    (passable : ∀ index, ¬timeline.Barred index) :
    timeline.executor.queue = [] ∧
      ∀ worker ∈ timeline.executor.workers, worker = .idle ∨ worker = .stopped := by
  have free (worker : Worker Content) (member : worker ∈ timeline.executor.workers) :
      worker = .idle ∧ timeline.executor.queue = [] ∨ worker = .stopped := by
    obtain ⟨index, bound, found⟩ := List.mem_iff_getElem.mp member
    have found := found ▸ List.getElem?_eq_getElem bound
    obtain ⟨idle, empty⟩ | shut | stopped := sound.worker_of_stuck stuck (sound.workers ▸ bound)
    · exact .inl ⟨Option.some.inj (found.symm.trans idle), empty⟩
    · exact absurd shut (passable index)
    · exact .inr (Option.some.inj (found.symm.trans stopped))
  refine ⟨?_, fun worker member => (free worker member).imp_left And.left⟩
  cases deserted : timeline.executor.isDeserted with
  | true => exact sound.reached.staffed.empty deserted
  | false =>
    obtain ⟨worker, member, present⟩ := List.all_eq_false.mp deserted
    obtain ⟨-, empty⟩ | stopped := free worker member
    · exact empty
    · exact absurd (by rw [stopped]; rfl) present

/-- Where nothing is to be expected any more while a call is not answered, its time is not limited,
and a job stands at a gate that is shut. -/
theorem Sound.barred_of_stuck (sound : Sound poolSize capacity timeline) {driven : List CallId}
    {alarm : Option Nat} (stuck : timeline.IsStuck driven alarm) {call : CallId}
    {state : Call Content} (among : call ∈ driven)
    (known : timeline.executor.calls[call]? = some state)
    (unanswered : timeline.reply? call = none) (present : state.stage ≠ .abandoned) :
    state.kind.isTimed = false ∧ ∃ index, timeline.Barred index := by
  cases sound.call_of_stuck stuck among known with
  | ended reply done =>
    have told : timeline.reply? call = some reply :=
      reply?_eq_some.mpr (Option.map_eq_some_iff.mpr ⟨state, known, done⟩)
    rw [unanswered] at told
    cases told
  | dropped gone => exact absurd gone present
  | unanswered waits empty untimed =>
    refine ⟨untimed, Classical.byContradiction fun none => ?_⟩
    obtain ⟨noMessage, free⟩ := sound.free_of_stuck stuck fun index shut => none ⟨index, shut⟩
    have somewhere : 0 < Executor.places call timeline.executor :=
      sound.reached.awaited call ⟨state, known, by rw [waits]; rfl, empty⟩
    have nobody : timeline.executor.workers.countP (Worker.owes call) = 0 := by
      refine List.countP_eq_zero.mpr fun worker member owes => ?_
      obtain rfl | rfl := free worker member <;> cases owes
    rw [Executor.places, noMessage, nobody] at somewhere
    cases somewhere

/-! ### Waits that end -/

theorem waitUpTo_of_goal {driven : List CallId} {alarm : Option Nat}
    {goal : Timeline World Content → Bool} (reached : goal timeline = true) (moves : Nat) :
    waitUpTo driven alarm goal moves timeline = timeline := by
  cases moves with
  | zero => rfl
  | succ moves => rw [waitUpTo, if_pos reached]

/-- Where nothing is to be expected, the workers have done what they can do. -/
theorem IsStuck.settle_eq {driven : List CallId} {alarm : Option Nat}
    (stuck : timeline.IsStuck driven alarm) : timeline.settle = timeline := by
  unfold settle wait
  refine waitUpTo_of_goal ?_ patience
  refine Option.isNone_iff_eq_none.mpr (List.findSome?_eq_none_iff.mpr fun index among => ?_)
  exact (stays_of_move?_eq_none stuck.stays).1 index (List.mem_range.mp among)

end Timeline

end WalletBridge
