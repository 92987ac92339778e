/-
This file says that the tables beside an executor on a clock keep up with it. Every call has its
job, every worker a part of the job that it runs, and every gate that a job comes to is there.

A job therefore ends as its own action says, and that is what its caller is told. And a worker
stands still only for a reason that its job or the queue gives: it has nothing to do, its job sleeps
or has come to a gate that is shut, or the worker has left.
-/

import WalletBridge.Proofs.TimelineMoves
import WalletBridge.Proofs.WorkerTurns

namespace WalletBridge

variable {World Content : Type}

/-! ### Parts of jobs -/

namespace Job

/-- What a job does when its waits are over. -/
def action : Job World Content → String → Run World Content
  | .act action => action
  | .sleep _ rest => rest.action
  | .gate _ rest => rest.action

/-- What is left of a job when the first of its waits are over. -/
inductive LeftOf (whole : Job World Content) : Job World Content → Prop where
  | all : LeftOf whole whole
  | slept {milliseconds : Nat} {rest : Job World Content}
      (former : LeftOf whole (.sleep milliseconds rest)) : LeftOf whole rest
  | passed {name : String} {rest : Job World Content} (former : LeftOf whole (.gate name rest)) :
    LeftOf whole rest

theorem LeftOf.action_eq {whole rest : Job World Content} (part : LeftOf whole rest) :
    rest.action = whole.action := by
  induction part with
  | all => rfl
  | slept former inductionHypothesis => exact inductionHypothesis
  | passed former inductionHypothesis => exact inductionHypothesis

theorem LeftOf.gates_subset {whole rest : Job World Content} (part : LeftOf whole rest) :
    rest.gates ⊆ whole.gates := by
  induction part with
  | all => exact List.Subset.refl _
  | slept former inductionHypothesis => exact inductionHypothesis
  | passed former inductionHypothesis =>
    exact List.Subset.trans (List.subset_cons_self ..) inductionHypothesis

/-- A job gives an outcome: its action ends so for some worker and in some world. -/
def Gives (job : Job World Content) (outcome : Outcome Content) : Prop :=
  ∃ name world, (job.action name world).1 = outcome

/-- What the caller of a job can be told. -/
inductive Tells (job : Job World Content) : Except ExecutorError Content → Prop where
  | ended (outcome : Outcome Content) (gives : job.Gives outcome) : Tells job outcome.reply
  /-- The executor did not take the job. -/
  | refused (error : ExecutorError) (refusal : error.isRefusal = true) : Tells job (.error error)
  /-- The caller left before. -/
  | late (milliseconds : Nat) : Tells job (.error (.timeout milliseconds))

end Job

/-! ### Jobs that run -/

/-- A job that ended with an outcome ended so. -/
theorem JobEvent.ended_of_mem_outcomes {id : CallId} {journal : List (JobEvent Content)}
    {outcome : Outcome Content} (among : outcome ∈ outcomes id journal) :
    .ended id outcome ∈ journal := by
  obtain ⟨event, member, isOutcome⟩ := List.mem_filterMap.mp among
  cases event with
  | ended job other =>
    simp only [outcome?] at isOutcome
    split at isOutcome
    · rename_i same
      cases isOutcome
      exact same ▸ member
    · cases isOutcome
  | _ => cases isOutcome

namespace Executor

/-- A worker runs its job until the job ends. -/
theorem running_of_step? {before after : Executor Content} {step : ExecutorStep Content}
    {index : Nat} {id : CallId} (others : step.finishes = false)
    (taken : before.step? step = some after)
    (running : before.workers[index]? = some (.running id)) :
    after.workers[index]? = some (.running id) := by
  have elsewhere {other : Nat} {new : Worker Content} (differs : other ≠ index) :
      (before.workers.set other new)[index]? = some (.running id) :=
    (List.getElem?_set_ne differs).trans running
  cases step?_turn taken with
  | aside _ workers => rw [workers, running]
  | took other message idle _ workers =>
    rw [workers]
    refine elsewhere ?_
    rintro rfl
    rw [running] at idle
    cases idle
  | wentOn other old new own _ found workers =>
    rw [workers]
    refine elsewhere ?_
    rintro rfl
    -- A worker that runs a job can do nothing but end it.
    rw [running] at found
    cases found
    rw [step?_of_worker? own, running] at taken
    cases step with
    | finish other outcome => cases others
    | _ => cases taken

/-- A job can end in any way while it runs. -/
theorem step?_finish {executor : Executor Content} {index : Nat} {id : CallId}
    (running : executor.workers[index]? = some (.running id)) (outcome : Outcome Content) :
    executor.step? (.finish index outcome) =
      some ((executor.setWorker index (phaseAfter id outcome)).record (.ended id outcome)) := by
  simp only [step?, running]
  rfl

/-- A worker runs no job that has no call. -/
theorem Reachable.lt_of_running {poolSize capacity : Nat} {executor : Executor Content}
    (reached : Reachable poolSize capacity executor) {index : Nat} {id : CallId}
    (running : executor.workers[index]? = some (.running id)) : id < executor.calls.length := by
  refine Nat.lt_of_not_le fun beyond => ?_
  have unknown : Call.stage? executor.calls id = none := by
    rw [Call.stage?, List.getElem?_eq_none beyond, Option.map_none]
  have never := (reached.entersOnce id).before (by rw [unknown]; rfl)
  have busy : 0 < executor.workers.countP (Worker.runs id) :=
    List.countP_pos_iff.mpr ⟨_, List.mem_of_getElem? running, beq_self_eq_true id⟩
  have queued := (reached.accounted id).queued
  have started := (reached.accounted id).started
  omega

/-- Nothing but the end of a job says that it ended. -/
theorem ended_of_step? {before after : Executor Content} {step : ExecutorStep Content}
    {id : CallId} {outcome : Outcome Content} (others : step.finishes = false)
    (taken : before.step? step = some after) (ended : .ended id outcome ∈ after.journal) :
    .ended id outcome ∈ before.journal := by
  cases step?_move taken with
  | finished index job other found =>
    have stays := running_of_step? others taken found
    rw [record, setWorker, List.getElem?_set_self (List.getElem?_eq_some_iff.mp found).1] at stays
    unfold phaseAfter at stays
    split at stays <;> cases stays
  | leftLast index found last =>
    rw [(discard_discards _).journal] at ended
    obtain thrown | former := List.mem_append.mp ended
    · obtain ⟨message, -, isEvent⟩ := List.mem_filterMap.mp (List.mem_reverse.mp thrown)
      cases message <;> cases isEvent
    · exact former
  | accepted | submitted | received | judged | completed | regretted =>
    exact (List.mem_cons.mp ended).resolve_left fun same => by cases same
  | _ => exact ended

end Executor

namespace Timeline

variable {timeline before after : Timeline World Content}

/-! ### What always holds -/

/-- A worker runs a job of which this is left. -/
def HasLeft (timeline : Timeline World Content) (index : Nat) (rest : Job World Content) : Prop :=
  ∃ id job, timeline.executor.workers[index]? = some (.running id) ∧
    timeline.jobs[id]? = some job ∧ job.LeftOf rest

/-- What holds of a timeline whatever happens. -/
structure Sound (poolSize capacity : Nat) (timeline : Timeline World Content) : Prop where
  /-- Steps of the machine lead to the executor. -/
  reached : Executor.Reachable poolSize capacity timeline.executor
  /-- A call has a deadline when its kind has one. -/
  deadlines : timeline.calls.map (·.deadline.isSome) =
    timeline.executor.calls.map (·.kind.isTimed)
  workers : timeline.workers.length = timeline.executor.workers.length
  gates : ∀ job ∈ timeline.jobs, job.gates ⊆ timeline.gates.map (·.name)
  /-- What a worker has left is a part of the job that it runs. -/
  rests : ∀ (index : Nat) (rest : Job World Content) (wake : Nat),
    timeline.workers[index]? = some ⟨some rest, wake⟩ → timeline.HasLeft index rest
  /-- Jobs end as their own actions say. -/
  outcomes : ∀ (id : CallId) (outcome : Outcome Content),
    .ended id outcome ∈ timeline.executor.journal →
      ∃ job, timeline.jobs[id]? = some job ∧ job.Gives outcome

variable {poolSize capacity : Nat}

theorem Sound.new (threadName : String) (world : World) :
    Sound poolSize capacity (.new poolSize capacity threadName world : Timeline World Content) := by
  refine ⟨.new, rfl, List.length_map .., nofun, fun index rest wake left => ?_, nofun⟩
  obtain ⟨worker, -, same⟩ := List.mem_map.mp (List.mem_of_getElem? left)
  cases same

/-- Every call of the executor has its job. -/
theorem Sound.length_jobs (sound : Sound poolSize capacity timeline) :
    timeline.jobs.length = timeline.executor.calls.length := by
  simpa [jobs] using congrArg List.length sound.deadlines

/-- A step that neither begins a call nor ends a job. The pauses of calls may change with it. -/
theorem Sound.stepped (sound : Sound poolSize capacity before) {step : ExecutorStep Content}
    {executor : Executor Content} {calls : List (CallTimes World Content)}
    (others : step.begins = false) (unfinished : step.finishes = false)
    (taken : before.executor.step? step = some executor)
    (same : calls.map (·.job) = before.calls.map (·.job))
    (deadlines : calls.map (·.deadline) = before.calls.map (·.deadline)) :
    Sound poolSize capacity { before with executor := executor, calls := calls } := by
  have jobs : Timeline.jobs { before with executor := executor, calls := calls } = before.jobs :=
    same
  refine ⟨sound.reached.step taken, ?_, ?_, ?_, ?_, ?_⟩
  · have kinds := Executor.kinds_of_step? others taken
    calc calls.map (·.deadline.isSome)
      _ = (calls.map (·.deadline)).map Option.isSome := by rw [List.map_map]; rfl
      _ = before.calls.map (·.deadline.isSome) := by rw [deadlines, List.map_map]; rfl
      _ = before.executor.calls.map (·.kind.isTimed) := sound.deadlines
      _ = (executor.calls.map (·.kind)).map CallKind.isTimed := by rw [kinds, List.map_map]; rfl
      _ = executor.calls.map (·.kind.isTimed) := by rw [List.map_map]; rfl
  · exact sound.workers.trans (Executor.step?_move taken).workers_length.symm
  · rw [jobs]
    exact sound.gates
  · intro index rest wake left
    obtain ⟨id, job, running, known, part⟩ := sound.rests index rest wake left
    exact ⟨id, job, Executor.running_of_step? unfinished taken running, jobs ▸ known, part⟩
  · intro id outcome ended
    rw [jobs]
    exact sound.outcomes id outcome (Executor.ended_of_step? unfinished taken ended)

/-- A worker gets something else to do, and gates keep their names. -/
theorem Sound.occupied (sound : Sound poolSize capacity before) {index wake : Nat}
    {part : Option (Job World Content)} {gates : List Gate}
    (own : ∀ rest, part = some rest → before.HasLeft index rest)
    (same : gates.map (·.name) = before.gates.map (·.name)) :
    Sound poolSize capacity
      { before with workers := before.workers.set index ⟨part, wake⟩, gates := gates } := by
  refine ⟨sound.reached, sound.deadlines, List.length_set.trans sound.workers, ?_, ?_,
    sound.outcomes⟩
  · rw [same]
    exact sound.gates
  · intro other rest later left
    rw [List.getElem?_set] at left
    split at left
    · rename_i here
      subst here
      split at left <;> cases left
      exact own rest rfl
    · exact sound.rests other rest later left

/-- A job acts and ends. -/
theorem Sound.acted (sound : Sound poolSize capacity before) {index wake : Nat} {id : CallId}
    {action : String → Run World Content} {executor : Executor Content} (name : String)
    (running : before.executor.workers[index]? = some (.running id))
    (left : before.workers[index]? = some ⟨some (.act action), wake⟩)
    (taken : before.executor.step? (.finish index (action name before.world).1) = some executor) :
    Sound poolSize capacity
      { before with
        executor := executor
        workers := before.workers.set index ⟨none, 0⟩
        world := (action name before.world).2 } := by
  have reached := sound.reached.step taken
  rw [Executor.step?_finish running] at taken
  cases taken
  refine ⟨reached, sound.deadlines, ?_, sound.gates, ?_, ?_⟩
  · exact (List.length_set.trans sound.workers).trans List.length_set.symm
  · intro other rest later leftOver
    have differs : index ≠ other := by
      rintro rfl
      rw [List.getElem?_set] at leftOver
      split at leftOver
      · split at leftOver <;> cases leftOver
      · contradiction
    obtain ⟨job, state, runs, known, part⟩ :=
      sound.rests other rest later ((List.getElem?_set_ne differs).symm.trans leftOver)
    exact ⟨job, state, (List.getElem?_set_ne differs).trans runs, known, part⟩
  · intro other outcome ended
    obtain own | former := List.mem_cons.mp ended
    · obtain ⟨runs, job, same, known, part⟩ := sound.rests _ _ _ left
      rw [running] at same
      cases same
      cases own
      exact ⟨job, known, name, before.world, by rw [← part.action_eq]; rfl⟩
    · exact sound.outcomes other outcome former

theorem Sound.moved (sound : Sound poolSize capacity before) (moves : Moves before after) :
    Sound poolSize capacity after := by
  cases moves with
  | stepped calls ongoing taken same deadlines =>
    obtain ⟨others, unfinished⟩ := ExecutorStep.others_of_isOngoing ongoing
    exact sound.stepped others unfinished taken same deadlines
  | turned running unoccupied known =>
    refine sound.occupied ?_ rfl
    rintro _ ⟨⟩
    exact ⟨_, _, running, known, .all⟩
  | slept left =>
    refine sound.occupied ?_ rfl
    rintro _ ⟨⟩
    obtain ⟨id, job, running, known, part⟩ := sound.rests _ _ _ left
    exact ⟨id, job, running, known, part.slept⟩
  | passed left same =>
    refine sound.occupied ?_ same
    rintro _ ⟨⟩
    obtain ⟨id, job, running, known, part⟩ := sound.rests _ _ _ left
    exact ⟨id, job, running, known, part.passed⟩
  | arrived same =>
    exact ⟨sound.reached, sound.deadlines, sound.workers, by rw [same]; exact sound.gates,
      sound.rests, sound.outcomes⟩
  | acted running left taken => exact sound.acted _ running left taken

/-- When a call begins, the gates of its job are put up beside those that are there. -/
theorem mem_gates_begin (timeline : Timeline World Content) (kind : CallKind)
    (job : Job World Content) {name : String}
    (among : name ∈ timeline.gates.map (·.name) ∨ name ∈ job.gates) :
    name ∈ (timeline.begin kind job).2.gates.map (·.name) := by
  show name ∈ (timeline.gates ++ (job.gates.filter _).map _).map Gate.name
  rw [List.map_append, List.map_map, List.mem_append]
  by_cases there : name ∈ timeline.gates.map (·.name)
  · exact .inl there
  · refine .inr (List.mem_map.mpr ⟨name, List.mem_filter.mpr ⟨among.resolve_left there, ?_⟩, rfl⟩)
    rw [Bool.not_eq_true', List.any_eq_false]
    intro gate isGate same
    exact there (List.mem_map.mpr ⟨gate, isGate, eq_of_beq same⟩)

theorem Sound.begun (sound : Sound poolSize capacity timeline) (kind : CallKind)
    (job : Job World Content) : Sound poolSize capacity (timeline.begin kind job).2 := by
  refine ⟨sound.reached.step (begin_step? timeline kind job), ?_, sound.workers, ?_, ?_, ?_⟩
  · show (timeline.calls ++ [_]).map _ = (timeline.executor.calls ++ [_]).map _
    rw [List.map_append, List.map_append, sound.deadlines]
    cases kind <;> rfl
  · intro other among name isGate
    rw [jobs_begin, List.mem_append, List.mem_singleton] at among
    refine mem_gates_begin timeline kind job ?_
    obtain former | rfl := among
    · exact .inl (sound.gates other former isGate)
    · exact .inr isGate
  · intro index rest wake left
    obtain ⟨id, other, running, known, part⟩ := sound.rests index rest wake left
    exact ⟨id, other, running, begin_keeps_job kind job known, part⟩
  · intro id outcome ended
    obtain ⟨other, known, gives⟩ := sound.outcomes id outcome ended
    exact ⟨other, begin_keeps_job kind job known, gives⟩

/-- A call that begins is the last one of the executor. -/
theorem Sound.begin_call (sound : Sound poolSize capacity timeline) (kind : CallKind)
    (job : Job World Content) :
    (timeline.begin kind job).2.executor.calls[(timeline.begin kind job).1]? =
      some ⟨kind, .fresh, .empty⟩ := by
  have last : (timeline.begin kind job).1 = timeline.executor.calls.length := by
    rw [← sound.length_jobs, jobs, List.length_map]
    rfl
  rw [last]
  exact List.getElem?_concat_length

/-- Whatever happens, a timeline stays sound. -/
theorem Leads.sound (led : Leads before after) (sound : Sound poolSize capacity before) :
    Sound poolSize capacity after := by
  induction led with
  | here => exact sound
  | moved _ moves sound => exact sound.moved moves
  | begun _ kind job sound => exact sound.begun kind job
  | stepped _ others unfinished taken sound =>
    exact sound.stepped others unfinished taken rfl rfl
  | passed _ later sound =>
    exact ⟨sound.reached, sound.deadlines, sound.workers, sound.gates, sound.rests,
      sound.outcomes⟩
  | opened _ same sound =>
    exact ⟨sound.reached, sound.deadlines, sound.workers, by rw [same]; exact sound.gates,
      sound.rests, sound.outcomes⟩
  | changed _ world sound =>
    exact ⟨sound.reached, sound.deadlines, sound.workers, sound.gates, sound.rests,
      sound.outcomes⟩

/-! ### What callers are told -/

/-- What its caller is told rests on the job itself, unless the executor refused it or the caller
left before there was an answer. -/
theorem Sound.tells (sound : Sound poolSize capacity timeline) {call : CallId}
    {reply : Except ExecutorError Content} (told : timeline.reply? call = some reply) :
    ∃ job, timeline.jobs[call]? = some job ∧ job.Tells reply := by
  obtain ⟨state, known, done⟩ := Option.map_eq_some_iff.mp (reply?_eq_some.mp told)
  have grounds := ((sound.reached.answers call).call state known).reply reply done
  have bound : call < timeline.jobs.length := by
    rw [sound.length_jobs]
    exact (List.getElem?_eq_some_iff.mp known).1
  cases grounds with
  | ran outcome single =>
    have ended := JobEvent.ended_of_mem_outcomes (single ▸ List.mem_singleton_self outcome)
    obtain ⟨job, isJob, gives⟩ := sound.outcomes call outcome ended
    exact ⟨job, isJob, .ended outcome gives⟩
  | neverQueued error refusal never =>
    exact ⟨_, List.getElem?_eq_getElem bound, .refused error refusal⟩
  | discarded gone => exact ⟨_, List.getElem?_eq_getElem bound, .refused .shutDown rfl⟩
  | late milliseconds => exact ⟨_, List.getElem?_eq_getElem bound, .late milliseconds⟩

end Timeline

end WalletBridge
