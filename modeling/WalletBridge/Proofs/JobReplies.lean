/-
This file says what a caller can conclude from the reply it got. A job starts once at most. A reply
that reports how a job ended reports the only run of the caller's own job, because the outcome is
carried by the worker that ran it and goes into the mailbox of that job's call and no other. A reply
that reports a full queue or a shutdown belongs to a job that never entered the queue, or that was
thrown away; neither can start later, so the caller may safely ask again.
-/

import WalletBridge.Proofs.AcceptedJobs

namespace WalletBridge

variable {Content : Type}

/-! ### Outcomes and replies -/

/-- The outcome of a job, when an event is the end of that job. -/
def JobEvent.outcome? (id : CallId) : JobEvent Content → Option (Outcome Content)
  | .ended job outcome => if job = id then some outcome else none
  | _ => none

/-- The outcomes that a job ended with, the last first. -/
def JobEvent.outcomes (id : CallId) (journal : List (JobEvent Content)) : List (Outcome Content) :=
  journal.filterMap (outcome? id)

/-- Only the end of a job has an outcome of it. -/
theorem JobEvent.outcome?_eq_none {id : CallId} {event : JobEvent Content}
    (other : event.job = id → event.phase ≠ .ended) : event.outcome? id = none := by
  cases event with
  | ended job outcome => exact if_neg fun same => other same rfl
  | _ => rfl

/-- A job ended as often as it has outcomes. -/
theorem JobEvent.length_outcomes (id : CallId) (journal : List (JobEvent Content)) :
    (outcomes id journal).length = times .ended id journal := by
  induction journal with
  | nil => rfl
  | cons event rest inductionHypothesis =>
    rw [times_cons, ← inductionHypothesis, outcomes, outcomes, List.filterMap_cons]
    cases event with
    | ended job outcome =>
      by_cases same : job = id
      · simp [outcome?, same, phase, JobEvent.job]
      · simp [outcome?, same, phase, JobEvent.job]
    | _ => simp [outcome?, phase]

/-- The job that a worker has run to its end and not replied to yet, with its outcome. -/
def Worker.result? : Worker Content → Option (CallId × Outcome Content)
  | .ended job outcome => some (job, outcome)
  | .judged job outcome => some (job, outcome)
  | .counted job outcome => some (job, outcome)
  | _ => none

/-- Whether an error tells the caller that its job was not taken. -/
def ExecutorError.isRefusal : ExecutorError → Bool
  | .shutDown => true
  | .queueFull => true
  | _ => false

/-- Whether a reply tells how a job ended. -/
def reportsRun : Except ExecutorError Content → Bool
  | .ok _ => true
  | .error (.bridge _) => true
  | .error (.workerHalted _) => true
  | .error _ => false

theorem reportsRun_reply (outcome : Outcome Content) : reportsRun outcome.reply = true := by
  cases outcome <;> rfl

theorem reportsRun_refusal {error : ExecutorError} (refusal : error.isRefusal = true) :
    reportsRun (.error error : Except ExecutorError Content) = false := by
  cases error with
  | shutDown | queueFull => rfl
  | _ => cases refusal

namespace Executor

open JobEvent (times times_cons outcomes)

/-! ### What replies rest on -/

/-- What can have happened to a job whose caller got a reply. -/
inductive Grounds (id : CallId) (journal : List (JobEvent Content)) :
    Except ExecutorError Content → Prop where
  /-- The job ended once, and this is how. -/
  | ran (outcome : Outcome Content) (single : outcomes id journal = [outcome]) :
    Grounds id journal outcome.reply
  | neverQueued (error : ExecutorError) (refusal : error.isRefusal = true)
      (never : times .queued id journal = 0) : Grounds id journal (.error error)
  | discarded (gone : 0 < times .discarded id journal) : Grounds id journal (.error .shutDown)
  /-- The caller left before there was a reply. -/
  | late (milliseconds : Nat) : Grounds id journal (.error (.timeout milliseconds))

/-- What a call has got, or can still take, rests on what happened to its job. -/
structure Call.Grounded (id : CallId) (journal : List (JobEvent Content)) (call : Call Content) :
    Prop where
  reply : ∀ reply, call.stage = .done reply → Grounds id journal reply
  filled : ∀ reply, call.mailbox = .filled reply →
    ∃ outcome, outcomes id journal = [outcome] ∧ reply = outcome.reply
  lost : call.mailbox = .lost → 0 < times .discarded id journal

/-- The call with a number is grounded, and so is what workers are about to reply to it. -/
structure Answers (id : CallId) (executor : Executor Content) : Prop where
  call : ∀ call, executor.calls[id]? = some call → Call.Grounded id executor.journal call
  results : ∀ worker ∈ executor.workers, ∀ outcome, worker.result? = some (id, outcome) →
    outcomes id executor.journal = [outcome]

/-- What a journal may add without taking the grounds from anything. -/
structure Extends (id : CallId) (before after : List (JobEvent Content)) : Prop where
  outcomes : ∀ outcome, JobEvent.outcomes id before = [outcome] →
    JobEvent.outcomes id after = [outcome]
  queued : times .queued id before = 0 → times .queued id after = 0
  discarded : times .discarded id before ≤ times .discarded id after

theorem Extends.refl (id : CallId) (journal : List (JobEvent Content)) :
    Extends id journal journal :=
  ⟨fun _ single => single, fun never => never, Nat.le_refl _⟩

/-- An event that neither queues the job nor ends it. -/
theorem Extends.cons {id : CallId} {event : JobEvent Content} (journal : List (JobEvent Content))
    (other : event.job = id → event.phase ≠ .queued ∧ event.phase ≠ .ended) :
    Extends id journal (event :: journal) := by
  refine ⟨fun outcome single => ?_, fun never => ?_, ?_⟩
  · have silent : event.outcome? id = none :=
      JobEvent.outcome?_eq_none fun same => (other same).2
    exact (List.filterMap_cons_none silent).trans single
  · rw [times_cons, if_neg fun queued => (other queued.2).1 queued.1]
    exact never
  · rw [times_cons]
    exact Nat.le_add_right _ _

section

variable {id : CallId} {before after : List (JobEvent Content)} (grows : Extends id before after)

include grows

theorem Grounds.extend {reply : Except ExecutorError Content} (grounds : Grounds id before reply) :
    Grounds id after reply := by
  cases grounds with
  | ran outcome single => exact .ran outcome (grows.outcomes outcome single)
  | neverQueued error refusal never => exact .neverQueued error refusal (grows.queued never)
  | discarded gone => exact .discarded (Nat.lt_of_lt_of_le gone grows.discarded)
  | late milliseconds => exact .late milliseconds

theorem Call.Grounded.extend {call : Call Content} (grounded : Call.Grounded id before call) :
    Call.Grounded id after call := by
  refine ⟨fun reply done => (grounded.reply reply done).extend grows, fun reply filled => ?_,
    fun lost => Nat.lt_of_lt_of_le (grounded.lost lost) grows.discarded⟩
  obtain ⟨outcome, single, same⟩ := grounded.filled reply filled
  exact ⟨outcome, grows.outcomes outcome single, same⟩

end

/-! ### Steps -/

/-- A step that leaves the calls as they are and the workers without a new result. -/
theorem Answers.keep {id : CallId} {before after : Executor Content} (answers : Answers id before)
    (grows : Extends id before.journal after.journal) (calls : after.calls = before.calls)
    (results : ∀ worker ∈ after.workers, ∀ outcome, worker.result? = some (id, outcome) →
      ∃ former ∈ before.workers, former.result? = some (id, outcome)) :
    Answers id after := by
  refine ⟨fun call found => ?_, fun worker member outcome result => ?_⟩
  · exact (answers.call call (calls ▸ found)).extend grows
  · obtain ⟨former, memberBefore, resultBefore⟩ := results worker member outcome result
    exact grows.outcomes outcome (answers.results former memberBefore outcome resultBefore)

/-- A step of a worker that has no other result afterwards than it had. -/
theorem Answers.work {id : CallId} {before after : Executor Content} {index : Nat}
    {old new : Worker Content} (answers : Answers id before)
    (found : before.workers[index]? = some old)
    (grows : Extends id before.journal after.journal) (calls : after.calls = before.calls)
    (workers : after.workers = before.workers.set index new)
    (result : new.result? = none ∨ new.result? = old.result?) : Answers id after := by
  refine answers.keep grows calls fun worker member outcome known => ?_
  rw [workers] at member
  rcases List.mem_or_eq_of_mem_set member with former | rfl
  · exact ⟨worker, former, known⟩
  · rcases result with none | same
    · rw [none] at known
      cases known
    · exact ⟨old, List.mem_of_getElem? found, same ▸ known⟩

/-- A step of a call that goes to another stage. -/
theorem Answers.setStage {id other : CallId} {before after : Executor Content}
    {next : CallStage Content} (answers : Answers id before)
    (grows : Extends id before.journal after.journal)
    (calls : after.calls = (before.setStage other next).calls)
    (workers : after.workers = before.workers)
    (reply : other = id → ∀ reply, next = .done reply → Grounds id after.journal reply) :
    Answers id after := by
  refine ⟨fun call found => ?_, fun worker member outcome result => ?_⟩
  · rw [calls, Executor.setStage, List.getElem?_modify] at found
    obtain ⟨former, foundBefore, changed⟩ := Option.map_eq_some_iff.mp found
    have grounded := (answers.call former foundBefore).extend grows
    by_cases same : other = id
    · rw [if_pos same] at changed
      subst changed
      exact ⟨reply same, grounded.filled, grounded.lost⟩
    · rw [if_neg same] at changed
      exact changed ▸ grounded
  · rw [workers] at member
    exact grows.outcomes outcome (answers.results worker member outcome result)

/-- A job that has not been queued when its call stands before that. -/
theorem EntersOnce.never {id : CallId} {executor : Executor Content} {call : Call Content}
    (enters : EntersOnce id executor) (found : executor.calls[id]? = some call)
    (early : call.stage.isBefore = true) : times .queued id executor.journal = 0 := by
  refine enters.before ?_
  rw [Call.stage?, found]
  exact early

/-- A call that ends has grounds for what it ends with. -/
theorem CallShift.grounds {id : CallId} {executor : Executor Content} {call : Call Content}
    {next : CallStage Content} (shift : CallShift executor call next)
    (found : executor.calls[id]? = some call) (enters : EntersOnce id executor)
    (answers : Answers id executor) (reply : Except ExecutorError Content)
    (done : next = .done reply) : Grounds id executor.journal reply := by
  have grounded := answers.call call found
  cases shift with
  | refused kind mailbox closed =>
    cases done
    exact .neverQueued .shutDown rfl (enters.never found rfl)
  | deserted kind mailbox empty =>
    cases done
    exact .neverQueued .shutDown rfl (enters.never found rfl)
  | full mailbox inhabited noRoom =>
    cases done
    exact .neverQueued .queueFull rfl (enters.never found rfl)
  | overtaken kind mailbox closed =>
    cases done
    exact .neverQueued .shutDown rfl (enters.never found rfl)
  | taken kind content =>
    cases done
    obtain ⟨outcome, single, rfl⟩ := grounded.filled _ rfl
    exact .ran outcome single
  | lost kind =>
    cases done
    exact .discarded (grounded.lost rfl)
  | gaveUp milliseconds mailbox =>
    cases done
    exact .late milliseconds
  | _ => cases done

/-- A job that never entered the queue has no outcome. -/
theorem outcomes_eq_nil_of_never {id : CallId} {executor : Executor Content}
    (accounted : Accounted id executor) (never : times .queued id executor.journal = 0) :
    outcomes id executor.journal = [] := by
  have queued := accounted.queued
  have started := accounted.started
  refine List.eq_nil_of_length_eq_zero ?_
  rw [JobEvent.length_outcomes]
  omega

/-- A job that is running has not ended before. -/
theorem outcomes_eq_nil_of_running {id : CallId} {executor : Executor Content} {index : Nat}
    (accounted : Accounted id executor) (enters : EntersOnce id executor)
    (found : executor.workers[index]? = some (.running id)) : outcomes id executor.journal = [] := by
  have runs : 0 < executor.workers.countP (Worker.runs id) :=
    List.countP_pos_iff.mpr ⟨.running id, List.mem_of_getElem? found, beq_self_eq_true id⟩
  have once := enters.once
  have queued := accounted.queued
  have started := accounted.started
  refine List.eq_nil_of_length_eq_zero ?_
  rw [JobEvent.length_outcomes]
  omega

theorem Answers.finished {id job : CallId} {before : Executor Content} {index : Nat}
    {outcome : Outcome Content} (answers : Answers id before) (accounted : Accounted id before)
    (enters : EntersOnce id before) (found : before.workers[index]? = some (.running job)) :
    Answers id
      ((before.setWorker index (phaseAfter job outcome)).record (.ended job outcome)) := by
  have result : (phaseAfter job outcome).result? = some (job, outcome) := by
    unfold phaseAfter
    split <;> rfl
  by_cases same : job = id
  · subst same
    have nothing := outcomes_eq_nil_of_running accounted enters found
    have single : outcomes job (.ended job outcome :: before.journal) = [outcome] := by
      have first : (JobEvent.ended job outcome).outcome? job = some outcome := if_pos rfl
      rw [outcomes, List.filterMap_cons_some first, ← outcomes, nothing]
    -- Nothing rested on an outcome of the job before, because there was none.
    have grows : Extends job before.journal (.ended job outcome :: before.journal) := by
      refine ⟨fun other earlier => ?_, fun never => ?_, ?_⟩
      · rw [nothing] at earlier
        cases earlier
      · rw [times_cons, if_neg nofun]
        exact never
      · rw [times_cons, if_neg nofun]
        exact Nat.le_refl _
    refine ⟨fun call known => (answers.call call known).extend grows,
      fun worker member other known => ?_⟩
    rcases List.mem_or_eq_of_mem_set member with former | rfl
    · have earlier := answers.results worker former other known
      rw [nothing] at earlier
      cases earlier
    · rw [result] at known
      cases known
      exact single
  · have grows : Extends id before.journal (.ended job outcome :: before.journal) :=
      .cons before.journal fun other => absurd other same
    refine answers.keep grows rfl fun worker member other known => ?_
    rcases List.mem_or_eq_of_mem_set member with former | rfl
    · exact ⟨worker, former, known⟩
    · rw [result] at known
      cases known
      exact absurd rfl same

/-- A job enters the queue before anything else has happened to it, so nothing can have rested on
its having been kept out. -/
theorem Answers.accepted {id : CallId} {before : Executor Content} {kind : CallKind}
    {mailbox : Mailbox Content} (answers : Answers id before) (accounted : Accounted id before)
    (enters : EntersOnce id before) (found : before.calls[id]? = some ⟨kind, .offering, mailbox⟩) :
    Answers id (((before.push (.run id)).setStage id .queued).record (.queued id)) := by
  have never := enters.never found rfl
  have nothing := outcomes_eq_nil_of_never accounted never
  have grounded := answers.call _ found
  refine ⟨fun call known => ?_, fun worker member outcome result => ?_⟩
  · simp only [record, Executor.setStage, push, List.getElem?_modify, found] at known
    cases known
    refine ⟨fun _ done => (by cases done), fun reply filled => ?_, fun lost => ?_⟩
    · obtain ⟨outcome, single, _⟩ := grounded.filled reply filled
      rw [nothing] at single
      cases single
    · have gone := grounded.lost lost
      have queued := accounted.queued
      omega
  · have single := answers.results worker member outcome result
    rw [nothing] at single
    cases single

theorem Answers.replied {id job : CallId} {before : Executor Content} {index : Nat}
    {outcome : Outcome Content} (answers : Answers id before)
    (found : before.workers[index]? = some (.counted job outcome)) :
    Answers id ((before.setMailbox job (.filled outcome.reply)).setWorker index .idle) := by
  refine ⟨fun call known => ?_, fun worker member other result => ?_⟩
  · simp only [setWorker, setMailbox, List.getElem?_modify] at known
    obtain ⟨former, foundBefore, changed⟩ := Option.map_eq_some_iff.mp known
    have grounded := answers.call former foundBefore
    by_cases same : job = id
    · rw [if_pos same] at changed
      subst same changed
      have single := answers.results _ (List.mem_of_getElem? found) outcome rfl
      refine ⟨grounded.reply, fun reply filled => ?_, fun lost => by cases lost⟩
      cases filled
      exact ⟨outcome, single, rfl⟩
    · rw [if_neg same] at changed
      exact changed ▸ grounded
  · rcases List.mem_or_eq_of_mem_set member with former | rfl
    · exact answers.results worker former other result
    · cases result

/-- What throwing messages away does to a call: its mailbox is lost when its job is among them. -/
theorem foldl_discards_call? (messages : List Message) (executor : Executor Content) (id : CallId) :
    (messages.foldl
        (fun left message =>
          match message with
          | .run job => (left.setMailbox job .lost).record (.discarded job)
          | .stop => left)
        executor).calls[id]? =
      executor.calls[id]?.map fun call =>
        if .run id ∈ messages then { call with mailbox := .lost } else call := by
  induction messages generalizing executor with
  | nil => simp
  | cons message rest inductionHypothesis =>
    rw [List.foldl_cons, inductionHypothesis]
    cases message with
    | stop => simp
    | run job =>
      simp only [record, setMailbox, List.getElem?_modify, Option.map_eq_map, Option.map_map]
      congr 1
      funext call
      by_cases same : job = id
      · simp [same]
      · simp [same, Ne.symm same]

theorem discard_call? (executor : Executor Content) (id : CallId) :
    executor.discard.calls[id]? = executor.calls[id]?.map fun call =>
      if .run id ∈ executor.queue then { call with mailbox := .lost } else call :=
  foldl_discards_call? executor.queue { executor with queue := [] } id

theorem Answers.discard {id : CallId} {before : Executor Content} (answers : Answers id before) :
    Answers id before.discard := by
  have counted (phase : JobPhase) := times_discard phase id before
  have grows : Extends id before.journal before.discard.journal := by
    refine ⟨fun outcome single => ?_, fun never => ?_, ?_⟩
    · have silent (messages : List Message) :
          (messages.filterMap discardEvent).filterMap (JobEvent.outcome? id) =
            ([] : List (Outcome Content)) := by
        induction messages with
        | nil => rfl
        | cons message rest inductionHypothesis => cases message <;> exact inductionHypothesis
      rw [before.discard_discards.journal, outcomes, List.filterMap_append, List.filterMap_reverse,
        silent]
      exact single
    · rw [counted, if_neg nofun]
      exact never
    · rw [counted]
      exact Nat.le_add_right _ _
  refine ⟨fun call known => ?_, fun worker member outcome result => ?_⟩
  · rw [discard_call?] at known
    obtain ⟨former, foundBefore, same⟩ := Option.map_eq_some_iff.mp known
    have grounded := (answers.call former foundBefore).extend grows
    split at same
    · rename_i member
      subst same
      refine ⟨grounded.reply, nofun, fun _ => ?_⟩
      rw [counted, if_pos rfl]
      exact Nat.lt_of_lt_of_le (List.count_pos_iff.mpr member) (Nat.le_add_left _ _)
    · exact same ▸ grounded
  · rw [discard_workers] at member
    exact grows.outcomes outcome (answers.results worker member outcome result)

theorem Answers.move {id : CallId} {before after : Executor Content} (answers : Answers id before)
    (accounted : Accounted id before) (enters : EntersOnce id before) (move : Move before after) :
    Answers id after := by
  cases move with
  | begun kind =>
    refine ⟨fun call found => ?_, answers.results⟩
    by_cases known : id < before.calls.length
    · rw [List.getElem?_append_left known] at found
      exact answers.call call found
    · rw [List.getElem?_append_right (Nat.le_of_not_lt known)] at found
      cases List.mem_singleton.mp (List.mem_of_getElem? found)
      exact ⟨nofun, nofun, nofun⟩
  | shifted other call next found shift =>
    refine answers.setStage (.refl id before.journal) rfl rfl fun same reply done => ?_
    subst same
    exact shift.grounds found enters answers reply done
  | accepted other kind mailbox found inhabited room =>
    by_cases same : other = id
    · subst same
      exact answers.accepted accounted enters found
    · refine answers.setStage (.cons _ fun entered => absurd entered same) rfl rfl ?_
      exact fun entered => absurd entered same
  | submitted other kind mailbox found =>
    exact answers.setStage (.cons _ fun _ => ⟨nofun, nofun⟩) rfl rfl fun _ _ done => by cases done
  | received index job rest found first =>
    exact answers.work found (.cons _ fun _ => ⟨nofun, nofun⟩) rfl rfl (.inl rfl)
  | told index rest found first => exact answers.work found (.refl id _) rfl rfl (.inl rfl)
  | finished index job outcome found => exact answers.finished accounted enters found
  | judged index job outcome found =>
    exact answers.work found (.cons _ fun _ => ⟨nofun, nofun⟩) rfl rfl (.inr rfl)
  | completed index job outcome found =>
    exact answers.work found (.cons _ fun _ => ⟨nofun, nofun⟩) rfl rfl (.inr rfl)
  | replied index job outcome found heard => exact answers.replied found
  | unheard index job outcome found unheard =>
    exact answers.work found (.refl id _) rfl rfl (.inl rfl)
  | regretted index job found =>
    exact answers.work found (.cons _ fun _ => ⟨nofun, nofun⟩) rfl rfl (.inl rfl)
  | left index found others => exact answers.work found (.refl id _) rfl rfl (.inl rfl)
  | leftLast index found last =>
    have stopped : Answers id (before.setWorker index .stopped) :=
      answers.work found (.refl id _) rfl rfl (.inl rfl)
    exact stopped.discard
  | shut running => exact ⟨answers.call, answers.results⟩
  | stopSent left stopping inhabited room => exact ⟨answers.call, answers.results⟩
  | stopSpared left stopping empty => exact ⟨answers.call, answers.results⟩
  | joined stopping empty => exact ⟨answers.call, answers.results⟩

theorem Reachable.answers {poolSize capacity : Nat} {executor : Executor Content}
    (reached : Reachable poolSize capacity executor) (id : CallId) : Answers id executor := by
  induction reached with
  | new =>
    have noCalls : (Executor.new poolSize capacity : Executor Content).calls[id]? = none :=
      List.getElem?_nil
    refine ⟨fun call known => ?_, fun worker member outcome result => ?_⟩
    · rw [noCalls] at known
      cases known
    · rw [List.eq_of_mem_replicate member] at result
      cases result
  | step reached taken inductionHypothesis =>
    exact inductionHypothesis.move (reached.accounted id) (reached.entersOnce id)
      (step?_move taken)

/-! ### Replies -/

/-- A call that is over stays as it is. -/
theorem Move.done {before after : Executor Content} {id : CallId}
    {reply : Except ExecutorError Content} (move : Move before after)
    (done : Call.stage? before.calls id = some (.done reply)) :
    Call.stage? after.calls id = some (.done reply) := by
  obtain ⟨call, known, ended⟩ := Option.map_eq_some_iff.mp done
  have other {changed : CallId} {former : Call Content} (next : CallStage Content)
      (found : before.calls[changed]? = some former)
      (goesOn : ∀ reply, former.stage ≠ .done reply) :
      Call.stage? (before.setStage changed next).calls id = some (.done reply) := by
    rw [setStage, Call.stage?_setStage, if_neg, done]
    rintro rfl
    rw [known] at found
    cases found
    exact goesOn reply ended
  cases move with
  | begun kind =>
    obtain ⟨bound, _⟩ := List.getElem?_eq_some_iff.mp known
    rw [Call.stage?, List.getElem?_append_left bound]
    exact done
  | shifted changed former next found shift =>
    refine other next found fun reply isDone => ?_
    cases shift <;> cases isDone
  | accepted changed kind mailbox found inhabited room =>
    exact other .queued found fun _ isDone => by cases isDone
  | submitted changed kind mailbox found =>
    exact other .waiting found fun _ isDone => by cases isDone
  | replied index job outcome found heard =>
    rw [setWorker, setMailbox, Call.stage?_setMailbox]
    exact done
  | leftLast index found last =>
    rw [discard_stage?]
    exact done
  | _ => exact done

/-- The job of a call that was refused has not started. -/
theorem Answers.not_started {id : CallId} {executor : Executor Content} {error : ExecutorError}
    (answers : Answers id executor) (accounted : Accounted id executor)
    (enters : EntersOnce id executor)
    (done : Call.stage? executor.calls id = some (.done (.error error)))
    (refusal : error.isRefusal = true) : times .started id executor.journal = 0 := by
  have once := enters.once
  have queued := accounted.queued
  obtain ⟨call, known, ended⟩ := Option.map_eq_some_iff.mp done
  generalize replied : Except.error error = reply at ended
  cases (answers.call call known).reply reply ended with
  | ran outcome single =>
    have reports := reportsRun_reply outcome
    rw [← replied, reportsRun_refusal refusal] at reports
    cases reports
  | neverQueued _ _ never => omega
  | discarded gone => omega
  | late milliseconds =>
    cases replied
    cases refusal

/-- What callers can conclude, in every state that an executor can reach. A job has started once at
most. A reply that tells how a job ended comes from the only run of the caller's own job. A reply
that tells of a full queue or of a shutdown means that the job has not started, and it never starts
whatever happens next. -/
theorem reply_reports_own_run {poolSize capacity : Nat} {executor : Executor Content}
    (reached : Reachable poolSize capacity executor) (id : CallId) :
    times .started id executor.journal ≤ 1 ∧
      ∀ reply, Call.stage? executor.calls id = some (.done reply) →
        (reportsRun reply = true →
          ∃ outcome, reply = outcome.reply ∧ times .started id executor.journal = 1 ∧
            outcomes id executor.journal = [outcome]) ∧
          ∀ error, reply = .error error → error.isRefusal = true →
            ∀ steps after, executor.run? steps = some after →
              times .started id after.journal = 0 := by
  have accounted := reached.accounted id
  have once := (reached.entersOnce id).once
  have queued := accounted.queued
  have started := accounted.started
  refine ⟨by omega, fun reply done => ⟨fun reports => ?_, ?_⟩⟩
  · obtain ⟨call, known, isDone⟩ := Option.map_eq_some_iff.mp done
    cases ((reached.answers id).call call known).reply reply isDone with
    | ran outcome single =>
      have ended : times .ended id executor.journal = 1 := by
        rw [← JobEvent.length_outcomes, single]
        rfl
      exact ⟨outcome, rfl, by omega, single⟩
    | neverQueued error refusal _ =>
      rw [reportsRun_refusal refusal] at reports
      cases reports
    | discarded _ => cases reports
    | late _ => cases reports
  · rintro error rfl refusal steps after ran
    have reachedAfter := reached.run ran
    have stays : Call.stage? after.calls id = some (.done (.error error)) :=
      run?_induction (fun _ _ move => move.done) ran done
    exact (reachedAfter.answers id).not_started (reachedAfter.accounted id)
      (reachedAfter.entersOnce id) stays refusal

/-- A call that gets the outcome of its job, and one whose job is thrown away behind the stop. -/
def repliedSteps : List (ExecutorStep Nat) :=
  [.begin .patient, .check 0, .offer 0, .count 0, .receive 0, .finish 0 (.value 7), .complete 0,
   .reply 0, .take 0, .begin .immediate, .check 1, .shut, .stop, .receive 0, .offer 1, .count 1,
   .leave 0, .take 1]

theorem reply_reports_own_run_replied :
    ∃ executor : Executor Nat, (Executor.new 1 1).run? repliedSteps = some executor ∧
      Call.stage? executor.calls 0 = some (.done (.ok 7)) ∧
      Call.stage? executor.calls 1 = some (.done (.error .shutDown)) ∧
      outcomes 0 executor.journal = [.value 7] ∧ times .started 1 executor.journal = 0 := by
  obtain ⟨executor, ran, kept, refused⟩ : ∃ executor : Executor Nat,
      (Executor.new 1 1).run? repliedSteps = some executor ∧
        Call.stage? executor.calls 0 = some (.done (.ok 7)) ∧
        Call.stage? executor.calls 1 = some (.done (.error .shutDown)) := ⟨_, rfl, rfl, rfl⟩
  have reached : Reachable 1 1 executor := Reachable.new.run ran
  obtain ⟨outcome, same, _, single⟩ := ((reply_reports_own_run reached 0).2 _ kept).1 rfl
  have never := ((reply_reports_own_run reached 1).2 _ refused).2 .shutDown rfl rfl [] executor rfl
  cases outcome with
  | value content =>
    cases same
    exact ⟨executor, ran, kept, refused, single, never⟩
  | failure error => cases same
  | halted halt => cases same

end Executor

end WalletBridge
