/-
This file says what becomes of the job of a call that runs out of time. If the job never entered the
queue, it never will. Otherwise it is counted as submitted, is started once workers have taken the
steps that are before it, and is counted as completed when its worker is done with it, a few steps
of its own later. Whether it is then counted as cancelled is decided by the worker, who finds that
nobody would take the reply. So there is one exception: a reply that is sent after the call has
looked for it and before the call leaves is taken by nobody, although the job is not counted as
cancelled.
-/

import WalletBridge.Proofs.CounterBalance
import WalletBridge.Proofs.WorkerTurns

namespace WalletBridge

variable {Content : Type}

/-! ### Replies on their way -/

/-- Whether a mailbox holds a reply. -/
def Mailbox.isFilled : Mailbox Content → Bool
  | .filled _ => true
  | _ => false

/-- Whether a worker has counted a job as completed and is not done with the reply to it yet. -/
def Worker.replies (id : CallId) : Worker Content → Bool
  | .counted job _ => job == id
  | .unheard job => job == id
  | _ => false

/-- Whether a worker has a job that it took from the queue. -/
def Worker.holds (id : CallId) (worker : Worker Content) : Bool :=
  worker.runs id || worker.settles id || worker.replies id

/-- Whether a step is taken by a worker. -/
def ExecutorStep.isOf (index : Nat) (step : ExecutorStep Content) : Bool :=
  step.worker? == some index

/-- A worker that has a job has something to do. -/
theorem Worker.chores_of_holds {id : CallId} {worker : Worker Content}
    (holds : worker.holds id = true) : 0 < worker.chores := by
  cases worker with
  | idle | leaving | stopped => cases holds
  | _ => exact Nat.succ_pos _

namespace Executor

open JobEvent (times times_cons tally)

/-- Whether the reply to a job was sent while its call would have taken it. -/
def isAnswered (executor : Executor Content) (id : CallId) : Bool :=
  executor.calls[id]?.any (·.mailbox.isFilled)

/-! ### Answers -/

/-- A call that begins is the only one that was not there. -/
theorem begun_call? (calls : List (Call Content)) (kind : CallKind) (id : CallId) :
    (calls ++ [⟨kind, .fresh, .empty⟩])[id]? = calls[id]? ∨
      calls[id]? = none ∧
        (calls ++ [⟨kind, .fresh, .empty⟩])[id]? = some ⟨kind, .fresh, .empty⟩ := by
  rw [List.getElem?_append]
  split
  · exact .inl rfl
  · rename_i beyond
    rw [List.getElem?_eq_none (Nat.le_of_not_lt beyond), List.getElem?_singleton]
    split
    · exact .inr ⟨rfl, rfl⟩
    · exact .inl rfl

theorem isAnswered_begin (executor : Executor Content) (kind : CallKind) (id : CallId) :
    isAnswered { executor with calls := executor.calls ++ [⟨kind, .fresh, .empty⟩] } id =
      executor.isAnswered id := by
  unfold isAnswered
  rcases begun_call? executor.calls kind id with same | ⟨absent, begun⟩
  · rw [same]
  · rw [absent, begun]
    rfl

theorem isAnswered_setStage (executor : Executor Content) (other id : CallId)
    (stage : CallStage Content) :
    (executor.setStage other stage).isAnswered id = executor.isAnswered id := by
  simp only [isAnswered, setStage, List.getElem?_modify]
  cases executor.calls[id]? with
  | none => rfl
  | some call => by_cases same : other = id <;> simp [same]

theorem isAnswered_deliver (executor : Executor Content) (job id : CallId)
    (reply : Except ExecutorError Content) :
    (executor.setMailbox job (.filled reply)).isAnswered id =
      if job = id then executor.calls[id]?.isSome else executor.isAnswered id := by
  simp only [isAnswered, setMailbox, List.getElem?_modify]
  cases executor.calls[id]? with
  | none => simp
  | some call => by_cases same : job = id <;> simp [same, Mailbox.isFilled]

/-- Throwing the queue away takes no answer from anybody. -/
theorem isAnswered_discard {executor : Executor Content} {id : CallId}
    (waiting : .run id ∈ executor.queue → executor.isAnswered id = false) :
    executor.discard.isAnswered id = executor.isAnswered id := by
  rw [isAnswered, discard_call?]
  by_cases queued : .run id ∈ executor.queue
  · rw [waiting queued]
    cases executor.calls[id]? <;> simp [queued, Mailbox.isFilled]
  · simp only [queued, if_false, Option.map_id']
    rfl

/-- Somebody has called for a job that is heard. -/
theorem isSome_of_isHeard {executor : Executor Content} {id : CallId}
    (heard : executor.isHeard id = true) : executor.calls[id]?.isSome = true := by
  unfold isHeard at heard
  cases found : executor.calls[id]? with
  | none => simp [found] at heard
  | some call => rfl

/-! ### Jobs that are counted as submitted -/

/-- Whether a call has put its job into the queue and not counted it yet. -/
def isUncounted (executor : Executor Content) (id : CallId) : Bool :=
  (Call.stage? executor.calls id).any CallStage.isQueued

/-- A job is counted as submitted as often as it entered the queue, by the next step of its call. -/
def Submitted (id : CallId) (executor : Executor Content) : Prop :=
  times .queued id executor.journal =
    times .submitted id executor.journal + if executor.isUncounted id then 1 else 0

theorem isUncounted_begin (executor : Executor Content) (kind : CallKind) (id : CallId) :
    isUncounted { executor with calls := executor.calls ++ [⟨kind, .fresh, .empty⟩] } id =
      executor.isUncounted id := by
  unfold isUncounted Call.stage?
  rcases begun_call? executor.calls kind id with same | ⟨absent, begun⟩
  · rw [same]
  · rw [absent, begun]
    rfl

theorem isUncounted_setStage {executor : Executor Content} {other : CallId} {call : Call Content}
    (found : executor.calls[other]? = some call) (next : CallStage Content) (id : CallId) :
    (executor.setStage other next).isUncounted id =
      if other = id then next.isQueued else executor.isUncounted id := by
  rw [isUncounted, setStage, Call.stage?_setStage]
  split
  · rename_i same
    subst same
    simp only [Call.stage?, found, Option.map_some, Option.any_some]
  · rfl

theorem isUncounted_found {executor : Executor Content} {id : CallId} {call : Call Content}
    (found : executor.calls[id]? = some call) :
    executor.isUncounted id = call.stage.isQueued := by
  simp only [isUncounted, Call.stage?, found, Option.map_some, Option.any_some]

theorem Submitted.move {id : CallId} {before after : Executor Content}
    (submitted : Submitted id before) (move : Move before after) : Submitted id after := by
  unfold Submitted at submitted ⊢
  cases move with
  | begun kind =>
    rw [isUncounted_begin]
    exact submitted
  | shifted other call next found shift =>
    obtain ⟨notYet, notAfter⟩ := shift.not_queued
    rw [isUncounted_setStage found next id, notAfter]
    by_cases same : other = id
    · subst same
      rw [isUncounted_found found, notYet] at submitted
      rw [if_pos rfl]
      exact submitted
    · rw [if_neg same]
      exact submitted
  | accepted other kind mailbox found inhabited room =>
    have queues : isUncounted
        (((before.push (.run other)).setStage other .queued).record (.queued other)) id =
          if other = id then true else before.isUncounted id :=
      @isUncounted_setStage _ (before.push (.run other)) other _ found .queued id
    rw [queues]
    by_cases same : other = id
    · subst same
      have notYet : before.isUncounted other = false := isUncounted_found found
      simp only [record, setStage, push, times_cons, JobEvent.phase, JobEvent.job, and_self,
        if_true, notYet, reduceCtorEq, false_and, if_false, Bool.false_eq_true] at submitted ⊢
      omega
    · simpa [record, setStage, push, times_cons, JobEvent.phase, JobEvent.job, same]
        using submitted
  | submitted other kind mailbox found =>
    have counts : isUncounted
        (({ before with stats := before.stats.countSubmitted }.setStage other .waiting).record
          (.submitted other)) id = if other = id then false else before.isUncounted id :=
      @isUncounted_setStage _ { before with stats := before.stats.countSubmitted } other _ found
        .waiting id
    rw [counts]
    by_cases same : other = id
    · subst same
      have still : before.isUncounted other = true := isUncounted_found found
      simp only [record, setStage, times_cons, JobEvent.phase, JobEvent.job, and_self, if_true,
        still, reduceCtorEq, false_and, if_false, Bool.false_eq_true] at submitted ⊢
      omega
    · simpa [record, setStage, times_cons, JobEvent.phase, JobEvent.job, same] using submitted
  | replied index job outcome found heard =>
    rw [isUncounted, setWorker, setMailbox, Call.stage?_setMailbox]
    exact submitted
  | leftLast index found last =>
    rw [times_discard, times_discard, isUncounted, discard_stage?]
    exact submitted
  | _ => exact submitted

theorem Reachable.submitted {poolSize capacity : Nat} {executor : Executor Content}
    (reached : Reachable poolSize capacity executor) (id : CallId) : Submitted id executor :=
  reached.move_induction (by rfl) fun _ _ move submitted => submitted.move move

/-! ### Jobs that are counted as completed -/

/-- A job that is counted as completed was answered, or is counted as cancelled, or its worker is
about to do one of the two. -/
structure Delivered (id : CallId) (executor : Executor Content) : Prop where
  completed : times .completed id executor.journal =
    executor.workers.countP (Worker.replies id) + times .cancelled id executor.journal +
      if executor.isAnswered id then 1 else 0
  /-- Who was told how the job ended was answered. -/
  told : ∀ reply, Call.stage? executor.calls id = some (.done reply) → reportsRun reply = true →
    executor.isAnswered id = true

/-- A job is counted as completed once at most. -/
theorem Accounted.completed_le {id : CallId} {executor : Executor Content}
    (accounted : Accounted id executor) (enters : EntersOnce id executor) :
    times .completed id executor.journal + executor.queue.count (.run id) ≤ 1 := by
  have once := enters.once
  have queued := accounted.queued
  have started := accounted.started
  have ended := accounted.ended
  omega

/-- A job in the queue was not answered. -/
theorem Delivered.not_answered {id : CallId} {executor : Executor Content}
    (delivered : Delivered id executor) (accounted : Accounted id executor)
    (enters : EntersOnce id executor) (waits : .run id ∈ executor.queue) :
    executor.isAnswered id = false := by
  have once := accounted.completed_le enters
  have queued := List.count_pos_iff.mpr waits
  have completed := delivered.completed
  refine Bool.eq_false_iff.mpr fun answered => ?_
  rw [answered, if_pos rfl] at completed
  omega

/-- A worker that goes on and writes down what it did. -/
theorem Delivered.work {id : CallId} {before after : Executor Content} {index : Nat}
    {old new : Worker Content} (delivered : Delivered id before)
    (found : before.workers[index]? = some old) (events : List (JobEvent Content))
    (workers : after.workers = before.workers.set index new) (calls : after.calls = before.calls)
    (journal : after.journal = events ++ before.journal)
    (counted : times .completed id events + (if old.replies id then 1 else 0) =
      (if new.replies id then 1 else 0) + times .cancelled id events) :
    Delivered id after := by
  have replies := countP_set_add new found (Worker.replies id)
  have completed := delivered.completed
  refine ⟨?_, ?_⟩
  · rw [journal, workers, JobEvent.times_append, JobEvent.times_append, isAnswered, calls,
      ← isAnswered]
    omega
  · rw [isAnswered, calls]
    exact delivered.told

theorem Delivered.setStage {id other : CallId} {before after : Executor Content}
    {call : Call Content} {next : CallStage Content} (delivered : Delivered id before)
    (found : before.calls[other]? = some call)
    (calls : after.calls = (before.setStage other next).calls)
    (workers : after.workers = before.workers)
    (completed : times .completed id after.journal = times .completed id before.journal)
    (cancelled : times .cancelled id after.journal = times .cancelled id before.journal)
    (told : ∀ reply, next = .done reply → reportsRun reply = true → call.mailbox.isFilled = true) :
    Delivered id after := by
  have answered : after.isAnswered id = before.isAnswered id := by
    rw [isAnswered, calls]
    exact before.isAnswered_setStage other id next
  refine ⟨?_, fun reply done reports => ?_⟩
  · rw [completed, cancelled, workers, answered]
    exact delivered.completed
  · rw [answered]
    rw [calls, Executor.setStage, Call.stage?_setStage] at done
    by_cases same : other = id
    · subst same
      rw [if_pos rfl, Call.stage?, found] at done
      rw [isAnswered, found]
      exact told reply (Option.some.inj done) reports
    · rw [if_neg same] at done
      exact delivered.told reply done reports

theorem CallShift.isFilled {executor : Executor Content} {call : Call Content}
    {next : CallStage Content} (shift : CallShift executor call next)
    (reply : Except ExecutorError Content) (done : next = .done reply)
    (reports : reportsRun reply = true) : call.mailbox.isFilled = true := by
  cases shift with
  | taken kind content => rfl
  | refused | deserted | full | overtaken | lost | gaveUp =>
    cases done
    cases reports
  | _ => cases done

/-- The reply to a job is sent, to somebody who would take it. -/
theorem Delivered.reply {id job : CallId} {before : Executor Content} {index : Nat}
    {outcome : Outcome Content} (delivered : Delivered id before) (accounted : Accounted id before)
    (enters : EntersOnce id before)
    (found : before.workers[index]? = some (.counted job outcome))
    (heard : before.isHeard job = true) :
    Delivered id ((before.setMailbox job (.filled outcome.reply)).setWorker index .idle) := by
  have replies := countP_set_add .idle found (Worker.replies id)
  have answered : ((before.setMailbox job (.filled outcome.reply)).setWorker index .idle).isAnswered
      id = if job = id then before.calls[id]?.isSome else before.isAnswered id :=
    before.isAnswered_deliver job id outcome.reply
  have completed := delivered.completed
  have once := accounted.completed_le enters
  refine ⟨?_, fun reply done reports => ?_⟩
  · rw [answered]
    show times .completed id before.journal =
      (before.workers.set index .idle).countP (Worker.replies id) +
        times .cancelled id before.journal + _
    by_cases same : job = id
    · subst same
      -- Its worker is the one who owes the reply, so nobody was answered before.
      have owed : (before.workers.set index .idle).countP (Worker.replies job) + 1 =
          before.workers.countP (Worker.replies job) := by
        simpa [Worker.replies] using replies
      rw [if_pos rfl, isSome_of_isHeard heard, if_pos rfl]
      omega
    · have kept : (before.workers.set index .idle).countP (Worker.replies id) =
          before.workers.countP (Worker.replies id) := by
        simpa [Worker.replies, same] using replies
      rw [if_neg same, kept]
      exact completed
  · rw [setWorker, setMailbox, Call.stage?_setMailbox] at done
    rw [answered]
    have former := delivered.told reply done reports
    by_cases same : job = id
    · subst same
      rw [if_pos rfl]
      exact isSome_of_isHeard heard
    · rw [if_neg same]
      exact former

theorem Delivered.move {id : CallId} {before after : Executor Content}
    (delivered : Delivered id before) (accounted : Accounted id before)
    (enters : EntersOnce id before) (move : Move before after) : Delivered id after := by
  cases move with
  | begun kind =>
    refine ⟨?_, fun reply done reports => ?_⟩
    · rw [isAnswered_begin]
      exact delivered.completed
    · rw [isAnswered_begin]
      refine delivered.told reply ?_ reports
      rcases begun_call? before.calls kind id with same | ⟨_, begun⟩
      · rw [Call.stage?, same] at done
        exact done
      · rw [Call.stage?, begun] at done
        cases done
  | shifted other call next found shift =>
    exact delivered.setStage found rfl rfl rfl rfl shift.isFilled
  | accepted other kind mailbox found inhabited room =>
    exact delivered.setStage found rfl rfl rfl rfl fun _ done => by cases done
  | submitted other kind mailbox found =>
    exact delivered.setStage found rfl rfl rfl rfl fun _ done => by cases done
  | received index job rest found first =>
    exact delivered.work found [.started job] rfl rfl rfl rfl
  | told index rest found first => exact delivered.work found [] rfl rfl rfl rfl
  | finished index job outcome found =>
    refine delivered.work found [.ended job outcome] rfl rfl rfl ?_
    cases failed : outcome.isFailed <;>
      simp [times_cons, JobEvent.times_nil, JobEvent.phase, phaseAfter, failed, Worker.replies]
  | judged index job outcome found => exact delivered.work found [.failed job] rfl rfl rfl rfl
  | completed index job outcome found =>
    refine delivered.work found [.completed job] rfl rfl rfl ?_
    simp [times_cons, JobEvent.times_nil, JobEvent.phase, JobEvent.job, Worker.replies]
  | replied index job outcome found heard => exact delivered.reply accounted enters found heard
  | unheard index job outcome found unheard =>
    exact delivered.work found [] rfl rfl rfl (Nat.add_comm _ _)
  | regretted index job found =>
    refine delivered.work found [.cancelled job] rfl rfl rfl ?_
    simp [times_cons, JobEvent.times_nil, JobEvent.phase, JobEvent.job, Worker.replies]
  | left index found others => exact delivered.work found [] rfl rfl rfl rfl
  | leftLast index found last =>
    have stopped : Delivered id (before.setWorker index .stopped) :=
      delivered.work found [] rfl rfl rfl rfl
    have answered : (before.setWorker index .stopped).discard.isAnswered id =
        (before.setWorker index .stopped).isAnswered id :=
      isAnswered_discard (delivered.not_answered accounted enters)
    refine ⟨?_, fun reply done reports => ?_⟩
    · rw [answered, discard_workers, times_discard, times_discard]
      exact stopped.completed
    · rw [discard_stage?] at done
      rw [answered]
      exact stopped.told reply done reports
  | _ => exact ⟨delivered.completed, delivered.told⟩

theorem Delivered.new (id : CallId) (poolSize capacity : Nat) :
    Delivered id (Executor.new poolSize capacity : Executor Content) := by
  refine ⟨?_, fun reply done => ?_⟩
  · simp [Executor.new, JobEvent.times_nil, List.countP_replicate, Worker.replies, isAnswered]
  · cases done

theorem Reachable.delivered {poolSize capacity : Nat} {executor : Executor Content}
    (reached : Reachable poolSize capacity executor) (id : CallId) : Delivered id executor := by
  induction reached with
  | new => exact .new id poolSize capacity
  | step reached taken inductionHypothesis =>
    exact inductionHypothesis.move (reached.accounted id) (reached.entersOnce id)
      (step?_move taken)

/-! ### Workers that have a job -/

theorem countP_holds_le (id : CallId) (workers : List (Worker Content)) :
    workers.countP (Worker.holds id) ≤
      workers.countP (Worker.runs id) + workers.countP (Worker.settles id) +
        workers.countP (Worker.replies id) := by
  induction workers with
  | nil => exact Nat.le_refl 0
  | cons worker rest inductionHypothesis =>
    have here : (if worker.holds id then 1 else 0) ≤
        (if worker.runs id then 1 else 0) + (if worker.settles id then 1 else 0) +
          (if worker.replies id then 1 else 0) := by
      unfold Worker.holds
      cases worker.runs id <;> cases worker.settles id <;> cases worker.replies id <;> decide
    simp only [List.countP_cons]
    omega

/-- A job is started once at most. -/
theorem Accounted.started_le_one {id : CallId} {executor : Executor Content}
    (accounted : Accounted id executor) (enters : EntersOnce id executor) :
    times .started id executor.journal ≤ 1 := by
  have once := enters.once
  have queued := accounted.queued
  omega

/-- A job that is at a worker, is counted as cancelled, or was answered, was started for that. -/
theorem Delivered.held_le_started {id : CallId} {executor : Executor Content}
    (delivered : Delivered id executor) (accounted : Accounted id executor) :
    executor.workers.countP (Worker.holds id) + times .cancelled id executor.journal +
      (if executor.isAnswered id then 1 else 0) ≤ times .started id executor.journal := by
  have held := countP_holds_le id executor.workers
  have started := accounted.started
  have ended := accounted.ended
  have completed := delivered.completed
  omega

/-- A worker that has a job keeps it for as many steps of its own as it has left. In one step it
comes nearer to the end if the step is its own, or no worker has the job any more. -/
theorem Turn.holds {before after : Executor Content} {step : ExecutorStep Content} {id : CallId}
    {index : Nat} {worker : Worker Content} (turn : Turn before step after)
    (single : before.workers.countP (Worker.holds id) ≤ 1)
    (found : before.workers[index]? = some worker) (holds : worker.holds id = true) :
    (∃ later, after.workers[index]? = some later ∧ later.holds id = true ∧
        later.chores + (if step.isOf index then 1 else 0) ≤ worker.chores) ∨
      ∀ other ∈ after.workers, other.holds id = false := by
  have kept (others : step.isOf index = false) (same : after.workers[index]? = some worker) :
      ∃ later, after.workers[index]? = some later ∧ later.holds id = true ∧
        later.chores + (if step.isOf index then 1 else 0) ≤ worker.chores := by
    refine ⟨worker, same, holds, ?_⟩
    rw [others, if_neg Bool.false_ne_true]
    exact Nat.le_refl _
  have stays {other : Nat} {new : Worker Content} (different : other ≠ index)
      (own : step.worker? = some other) (workers : after.workers = before.workers.set other new) :
      ∃ later, after.workers[index]? = some later ∧ later.holds id = true ∧
        later.chores + (if step.isOf index then 1 else 0) ≤ worker.chores := by
    refine kept ?_ ?_
    · rw [ExecutorStep.isOf, own]
      exact beq_eq_false_iff_ne.mpr fun same => different (Option.some.inj same)
    · rw [workers, List.getElem?_set_ne different]
      exact found
  cases turn with
  | aside others workers messages queue =>
    refine .inl (kept ?_ ?_)
    · rw [ExecutorStep.isOf, others]
      rfl
    · rw [workers]
      exact found
  | took other message waits first workers begun =>
    have different : other ≠ index := by
      rintro rfl
      rw [waits] at found
      cases found
      cases holds
    exact .inl (stays different rfl workers)
  | wentOn other old new own takesNone mine workers fewer serves queue =>
    by_cases same : other = index
    · subst same
      obtain rfl : old = worker := Option.some.inj (mine.symm.trans found)
      cases still : new.holds id with
      | true =>
        refine .inl ⟨new, ?_, still, ?_⟩
        · rw [workers, List.getElem?_set_self (List.getElem?_eq_some_iff.mp mine).1]
        · have isOwn : step.isOf other = true := by
            rw [ExecutorStep.isOf, own]
            exact beq_self_eq_true _
          rw [isOwn, if_pos rfl]
          exact fewer
      | false =>
        have counted := countP_set_add new mine (Worker.holds id)
        rw [holds, still, if_pos rfl, if_neg Bool.false_ne_true, ← workers] at counted
        have none : after.workers.countP (Worker.holds id) = 0 := by omega
        exact .inr fun worker member =>
          Bool.eq_false_iff.mpr (List.countP_eq_zero.mp none worker member)
    · exact .inl (stays same own workers)

/-! ### Calls that are over -/

/-- The job of a call that is over enters the queue no more, and nobody answers it. -/
theorem Move.frozen {before after : Executor Content} {id : CallId}
    {reply : Except ExecutorError Content} (move : Move before after)
    (delivered : Delivered id before) (accounted : Accounted id before)
    (enters : EntersOnce id before)
    (done : Call.stage? before.calls id = some (.done reply)) :
    times .queued id after.journal = times .queued id before.journal ∧
      after.isAnswered id = before.isAnswered id := by
  obtain ⟨call, known, isDone⟩ := Option.map_eq_some_iff.mp done
  cases move with
  | begun kind => exact ⟨rfl, before.isAnswered_begin kind id⟩
  | shifted other call next found shift => exact ⟨rfl, before.isAnswered_setStage other id next⟩
  | accepted other kind mailbox found inhabited room =>
    refine ⟨?_, before.isAnswered_setStage other id .queued⟩
    have different : other ≠ id := by
      rintro rfl
      rw [known] at found
      cases found
      cases isDone
    simp [record, setStage, push, times_cons, JobEvent.job, different]
  | submitted other kind mailbox found => exact ⟨rfl, before.isAnswered_setStage other id .waiting⟩
  | replied index job outcome found heard =>
    refine ⟨rfl, (before.isAnswered_deliver job id outcome.reply).trans (if_neg ?_)⟩
    rintro rfl
    simp [isHeard, known, isDone, CallStage.isListening] at heard
  | leftLast index found last =>
    refine ⟨?_, isAnswered_discard (delivered.not_answered accounted enters)⟩
    rw [times_discard]
    rfl
  | _ => exact ⟨rfl, rfl⟩

theorem frozen_of_run {poolSize capacity : Nat} {executor after : Executor Content} {id : CallId}
    {reply : Except ExecutorError Content} {steps : List (ExecutorStep Content)}
    (reached : Reachable poolSize capacity executor)
    (done : Call.stage? executor.calls id = some (.done reply))
    (ran : executor.run? steps = some after) :
    Call.stage? after.calls id = some (.done reply) ∧
      times .queued id after.journal = times .queued id executor.journal ∧
      after.isAnswered id = executor.isAnswered id := by
  induction steps generalizing executor with
  | nil =>
    cases ran
    exact ⟨done, rfl, rfl⟩
  | cons step rest inductionHypothesis =>
    obtain ⟨between, taken, ranRest⟩ := Option.bind_eq_some_iff.mp ran
    have move := step?_move taken
    obtain ⟨queued, answered⟩ := move.frozen (reached.delivered id) (reached.accounted id)
      (reached.entersOnce id) done
    obtain ⟨stays, queuedRest, answeredRest⟩ :=
      inductionHypothesis (reached.step taken) (move.done done) ranRest
    exact ⟨stays, queuedRest.trans queued, answeredRest.trans answered⟩

/-! ### Calls that ran out of time -/

/-- A job that never enters the queue and never runs, whatever happens next. -/
def LeftOut (id : CallId) (executor : Executor Content) : Prop :=
  ∀ steps after, executor.run? steps = some after →
    times .queued id after.journal = 0 ∧ times .submitted id after.journal = 0 ∧
      times .started id after.journal = 0

/-- What happens to a job that entered the queue, whose caller has left. -/
structure TakenOver (id : CallId) (executor : Executor Content) : Prop where
  submitted : ∀ steps after, executor.run? steps = some after →
    times .queued id after.journal = 1 ∧ times .submitted id after.journal = 1 ∧
      times .started id after.journal ≤ 1
  /-- As long as the executor is not shut down, the job is started once workers have taken the steps
  that were before it. -/
  started : ∀ steps after, executor.run? steps = some after → after.closing = .open →
    executor.stepsBefore id ≤ steps.countP ExecutorStep.isWork →
      times .started id after.journal = 1
  /-- Until the job is started all workers can go on, and then the one that has it can. -/
  goesOn : ∀ steps after, executor.run? steps = some after → after.closing = .open →
    ∀ index worker, after.workers[index]? = some worker →
      times .started id after.journal = 0 ∨ worker.holds id = true →
        ∃ step next, step.worker? = some index ∧ after.step? step = some next
  /-- The worker that has the job is done with it after the steps of its own that it has left. -/
  finished : ∀ steps between, executor.run? steps = some between →
    ∀ index worker, between.workers[index]? = some worker → worker.holds id = true →
      ∀ more after, between.run? more = some after →
        worker.chores ≤ more.countP (ExecutorStep.isOf index) →
          ∀ other ∈ after.workers, other.holds id = false
  /-- When no worker has the job any more, it was counted as completed, and it was counted as
  cancelled unless the reply had been sent before the caller left. -/
  counted : ∀ steps after, executor.run? steps = some after →
    times .started id after.journal = 1 →
      (∀ worker ∈ after.workers, worker.holds id = false) →
        times .ended id after.journal = 1 ∧ times .completed id after.journal = 1 ∧
          times .cancelled id after.journal = if executor.isAnswered id then 0 else 1

/-- A call that is over does not have its job still to be counted. -/
theorem submitted_of_done {poolSize capacity : Nat} {executor : Executor Content} {id : CallId}
    {reply : Except ExecutorError Content} (reached : Reachable poolSize capacity executor)
    (done : Call.stage? executor.calls id = some (.done reply)) :
    times .submitted id executor.journal = times .queued id executor.journal := by
  have submitted : Submitted id executor := reached.submitted id
  rw [Submitted, isUncounted, done] at submitted
  exact submitted.symm

/-- Workers that are done with a job have counted it. -/
theorem counted_of_not_held {poolSize capacity : Nat} {executor : Executor Content} {id : CallId}
    (reached : Reachable poolSize capacity executor)
    (started : times .started id executor.journal = 1)
    (free : ∀ worker ∈ executor.workers, worker.holds id = false) :
    times .ended id executor.journal = 1 ∧ times .completed id executor.journal = 1 ∧
      times .cancelled id executor.journal = if executor.isAnswered id then 0 else 1 := by
  have none (test : Worker Content → Bool)
      (holds : ∀ worker, test worker = true → worker.holds id = true) :
      executor.workers.countP test = 0 := by
    refine List.countP_eq_zero.mpr fun worker member tested => ?_
    have held := holds worker tested
    rw [free worker member] at held
    cases held
  have runs := none (Worker.runs id) fun worker runs => by simp [Worker.holds, runs]
  have settles := none (Worker.settles id) fun worker settles => by simp [Worker.holds, settles]
  have replies := none (Worker.replies id) fun worker replies => by simp [Worker.holds, replies]
  have accounted := reached.accounted id
  have began := accounted.started
  have ended := accounted.ended
  have completed := (reached.delivered id).completed
  refine ⟨by omega, by omega, ?_⟩
  cases answered : executor.isAnswered id with
  | true =>
    rw [answered, if_pos rfl] at completed
    rw [if_pos rfl]
    omega
  | false =>
    rw [answered, if_neg Bool.false_ne_true] at completed
    rw [if_neg Bool.false_ne_true]
    omega

/-- A job of a call that is over is not given to a worker again. -/
theorem free_of_run {poolSize capacity : Nat} {executor after : Executor Content} {id : CallId}
    {reply : Except ExecutorError Content} {steps : List (ExecutorStep Content)}
    (reached : Reachable poolSize capacity executor)
    (done : Call.stage? executor.calls id = some (.done reply))
    (started : times .started id executor.journal = 1)
    (free : ∀ worker ∈ executor.workers, worker.holds id = false)
    (ran : executor.run? steps = some after) :
    ∀ worker ∈ after.workers, worker.holds id = false := by
  obtain ⟨_, _, cancelled⟩ := counted_of_not_held reached started free
  obtain ⟨_, _, answered⟩ := frozen_of_run reached done ran
  have reachedAfter := reached.run ran
  have accounted := reachedAfter.accounted id
  have once := accounted.started_le_one (reachedAfter.entersOnce id)
  have held := (reachedAfter.delivered id).held_le_started accounted
  have kept := times_le_of_run ran .cancelled id
  have settled : times .cancelled id executor.journal +
      (if executor.isAnswered id then 1 else 0) = 1 := by
    rw [cancelled]
    cases executor.isAnswered id <;> rfl
  rw [answered] at held
  have none : after.workers.countP (Worker.holds id) = 0 := by omega
  exact fun worker member => Bool.eq_false_iff.mpr (List.countP_eq_zero.mp none worker member)

/-- A worker is done with the job of a call that is over after the steps that it has left. -/
theorem free_of_work {poolSize capacity : Nat} {executor after : Executor Content} {id : CallId}
    {reply : Except ExecutorError Content} {steps : List (ExecutorStep Content)} {index : Nat}
    {worker : Worker Content} (reached : Reachable poolSize capacity executor)
    (done : Call.stage? executor.calls id = some (.done reply))
    (found : executor.workers[index]? = some worker) (holds : worker.holds id = true)
    (ran : executor.run? steps = some after)
    (enough : worker.chores ≤ steps.countP (ExecutorStep.isOf index)) :
    ∀ other ∈ after.workers, other.holds id = false := by
  induction steps generalizing executor worker with
  | nil =>
    have busy := Worker.chores_of_holds holds
    rw [List.countP_nil] at enough
    omega
  | cons step rest inductionHypothesis =>
    obtain ⟨between, taken, ranRest⟩ := Option.bind_eq_some_iff.mp ran
    have reachedBetween := reached.step taken
    have move := step?_move taken
    have doneBetween := move.done done
    have accounted := reached.accounted id
    have once := accounted.started_le_one (reached.entersOnce id)
    have held := (reached.delivered id).held_le_started accounted
    rcases (step?_turn taken).holds (by omega) found holds with ⟨later, kept, keeps, fewer⟩ | free
    · refine inductionHypothesis reachedBetween doneBetween kept keeps ranRest ?_
      rw [List.countP_cons] at enough
      omega
    · have has := List.countP_pos_iff.mpr ⟨worker, List.mem_of_getElem? found, holds⟩
      have onceBetween :=
        (reachedBetween.accounted id).started_le_one (reachedBetween.entersOnce id)
      have startedBetween := move.times_le .started id
      exact free_of_run reachedBetween doneBetween (by omega) free ranRest

/-- A job that never entered the queue before its call was over is left out. -/
theorem leftOut_of_done {poolSize capacity : Nat} {executor : Executor Content} {id : CallId}
    {reply : Except ExecutorError Content} (reached : Reachable poolSize capacity executor)
    (done : Call.stage? executor.calls id = some (.done reply))
    (never : times .queued id executor.journal = 0) : LeftOut id executor := by
  intro steps after ran
  have reachedAfter := reached.run ran
  obtain ⟨stays, queued, _⟩ := frozen_of_run reached done ran
  have submitted := submitted_of_done reachedAfter stays
  have account := (reachedAfter.accounted id).queued
  exact ⟨by omega, by omega, by omega⟩

/-- A job that entered the queue before its call was over is taken over. -/
theorem takenOver_of_done {poolSize capacity : Nat} {executor : Executor Content} {id : CallId}
    {reply : Except ExecutorError Content} (reached : Reachable poolSize capacity executor)
    (done : Call.stage? executor.calls id = some (.done reply))
    (entered : times .queued id executor.journal ≠ 0) : TakenOver id executor := by
  have once := (reached.entersOnce id).once
  refine ⟨fun steps after ran => ?_, fun steps after ran isOpen enough => ?_,
    fun steps after ran isOpen index worker found keeps => ?_,
    fun steps between ran index worker found holds more after ranOn enough => ?_,
    fun steps after ran started free => ?_⟩
  · have reachedAfter := reached.run ran
    obtain ⟨stays, queued, _⟩ := frozen_of_run reached done ran
    have submitted := submitted_of_done reachedAfter stays
    have account := (reachedAfter.accounted id).queued
    exact ⟨by omega, by omega, by omega⟩
  · exact started_of_work reached (Nat.pos_of_ne_zero entered) ran
      ((reached.run ran).not_discarded isOpen id) enough
  · have reachedAfter := reached.run ran
    have serves := reachedAfter.staffed.serves_of_open isOpen (List.mem_of_getElem? found)
    refine exists_work found (Worker.not_stopped_of_serves serves) ?_
    rcases keeps with waits | holds
    · have enteredAfter := times_le_of_run ran .queued id
      have queued := (reachedAfter.accounted id).count_eq_one (reachedAfter.entersOnce id)
        (by omega) waits (reachedAfter.not_discarded isOpen id)
      refine .inr fun empty => ?_
      rw [empty] at queued
      cases queued
    · exact .inl (Worker.chores_of_holds holds)
  · obtain ⟨stays, _⟩ := frozen_of_run reached done ran
    exact free_of_work (reached.run ran) stays found holds ranOn enough
  · obtain ⟨_, _, answered⟩ := frozen_of_run reached done ran
    rw [← answered]
    exact counted_of_not_held (reached.run ran) started free

/-- A job whose caller was told anything but that time was over is not counted as cancelled. -/
theorem not_cancelled {poolSize capacity : Nat} {executor : Executor Content} {id : CallId}
    {reply : Except ExecutorError Content} (reached : Reachable poolSize capacity executor)
    (done : Call.stage? executor.calls id = some (.done reply))
    (inTime : ∀ milliseconds, reply ≠ .error (.timeout milliseconds)) :
    times .cancelled id executor.journal = 0 := by
  have delivered := reached.delivered id
  have completed := delivered.completed
  have accounted := reached.accounted id
  have enters := reached.entersOnce id
  have once := accounted.completed_le enters
  have entered := enters.once
  have queued := accounted.queued
  have started := accounted.started
  have ended := accounted.ended
  obtain ⟨call, known, isDone⟩ := Option.map_eq_some_iff.mp done
  cases ((reached.answers id).call call known).reply reply isDone with
  | ran outcome single =>
    rw [delivered.told _ done (reportsRun_reply outcome), if_pos rfl] at completed
    omega
  | neverQueued error refusal never => omega
  | discarded gone => omega
  | late milliseconds => exact absurd rfl (inTime milliseconds)

/-- What becomes of the job of a call that has returned, in every state that an executor can reach.
The counters are what is written in the journal. If the call ran out of time, its job is left out,
or taken over, and not both: it is then counted as submitted and started once, and counted as
completed and, unless the reply had been sent before the call left, as cancelled. The job of a call
that returned anything else is never counted as cancelled. -/
theorem timed_out_job_fate {poolSize capacity : Nat} {executor : Executor Content}
    (reached : Reachable poolSize capacity executor) (id : CallId) :
    executor.stats = tally executor.journal ∧
      (∀ milliseconds,
        Call.stage? executor.calls id = some (.done (.error (.timeout milliseconds))) →
          (LeftOut id executor ∨ TakenOver id executor) ∧
            ¬(LeftOut id executor ∧ TakenOver id executor)) ∧
      ∀ reply, Call.stage? executor.calls id = some (.done reply) →
        (∀ milliseconds, reply ≠ .error (.timeout milliseconds)) →
          ∀ steps after, executor.run? steps = some after →
            times .cancelled id after.journal = 0 := by
  refine ⟨reached.stats_eq_tally, fun milliseconds done => ⟨?_, ?_⟩,
    fun reply done inTime steps after ran => ?_⟩
  · by_cases never : times .queued id executor.journal = 0
    · exact .inl (leftOut_of_done reached done never)
    · exact .inr (takenOver_of_done reached done never)
  · rintro ⟨leftOut, takenOver⟩
    obtain ⟨never, _⟩ := leftOut [] executor rfl
    obtain ⟨entered, _⟩ := takenOver.submitted [] executor rfl
    omega
  · obtain ⟨stays, _⟩ := frozen_of_run reached done ran
    exact not_cancelled (reached.run ran) stays inTime

/-- Two calls run out of time, one while its job runs and one while it pauses before a full queue,
and a third call waits in that queue. -/
def expiringSteps : List (ExecutorStep Nat) :=
  [.begin (.timed 20), .check 0, .offer 0, .count 0, .receive 0, .begin .patient, .check 1,
   .offer 1, .count 1, .begin (.timed 10), .check 2, .offer 2, .recheck 2, .expire 2, .giveUp 2,
   .miss 0, .expire 0, .giveUp 0]

/-- The only worker goes on with both jobs. -/
def settlingSteps : List (ExecutorStep Nat) :=
  [.finish 0 (.value 7), .complete 0, .reply 0, .regret 0, .receive 0, .finish 0 (.value 8),
   .complete 0, .reply 0, .take 1]

theorem timed_out_job_fate_settled :
    ∃ executor after : Executor Nat, (Executor.new 1 1).run? expiringSteps = some executor ∧
      executor.run? settlingSteps = some after ∧
      Call.stage? executor.calls 0 = some (.done (.error (.timeout 20))) ∧
      Call.stage? executor.calls 2 = some (.done (.error (.timeout 10))) ∧
      Call.stage? after.calls 1 = some (.done (.ok 8)) ∧
      times .cancelled 0 after.journal = 1 ∧ times .started 2 after.journal = 0 ∧
      times .cancelled 1 after.journal = 0 := by
  obtain ⟨executor, after, ran, ranOn, late, crowded, inTime, entered, kept, unanswered, started,
      found⟩ : ∃ executor after : Executor Nat,
      (Executor.new 1 1).run? expiringSteps = some executor ∧
        executor.run? settlingSteps = some after ∧
        Call.stage? executor.calls 0 = some (.done (.error (.timeout 20))) ∧
        Call.stage? executor.calls 2 = some (.done (.error (.timeout 10))) ∧
        Call.stage? after.calls 1 = some (.done (.ok 8)) ∧
        times .queued 0 executor.journal = 1 ∧ times .queued 2 executor.journal = 0 ∧
        executor.isAnswered 0 = false ∧ times .started 0 after.journal = 1 ∧
        executor.workers[0]? = some (.running 0) :=
    ⟨_, _, rfl, rfl, rfl, rfl, rfl, rfl, rfl, rfl, rfl, rfl⟩
  have reached : Reachable 1 1 executor := Reachable.new.run ran
  have takenOver : TakenOver 0 executor := by
    refine ((timed_out_job_fate reached 0).2.1 20 late).1.resolve_left fun leftOut => ?_
    rw [(leftOut [] executor rfl).1] at entered
    cases entered
  have leftOut : LeftOut 2 executor := by
    refine ((timed_out_job_fate reached 2).2.1 10 crowded).1.resolve_right fun other => ?_
    rw [(other.submitted [] executor rfl).1] at kept
    cases kept
  have free := takenOver.finished [] executor rfl 0 _ found rfl settlingSteps after ranOn
    (Nat.le_of_ble_eq_true rfl)
  obtain ⟨_, _, cancelled⟩ := takenOver.counted settlingSteps after ranOn started free
  rw [unanswered] at cancelled
  have uncancelled :=
    (timed_out_job_fate (reached.run ranOn) 1).2.2 _ inTime nofun [] after rfl
  exact ⟨executor, after, ran, ranOn, late, crowded, inTime, cancelled,
    (leftOut settlingSteps after ranOn).2.2, uncancelled⟩

/-- The reply is sent after the call has looked for it and before the call leaves. -/
def lateReplySteps : List (ExecutorStep Nat) :=
  [.begin (.timed 20), .check 0, .offer 0, .count 0, .receive 0, .miss 0, .finish 0 (.value 7),
   .complete 0, .reply 0, .expire 0, .giveUp 0]

/-- A job whose caller ran out of time need not be counted as cancelled, although it has run, is
counted as completed, and no worker has it any more. -/
theorem timed_out_job_need_not_be_cancelled :
    ¬∀ executor : Executor Nat, Reachable 1 1 executor → executor.closing = .open →
      Call.stage? executor.calls 0 = some (.done (.error (.timeout 20))) →
        times .completed 0 executor.journal = 1 →
          (∀ worker ∈ executor.workers, worker.holds 0 = false) →
            times .cancelled 0 executor.journal = 1 := by
  intro everyJobIsCancelled
  obtain ⟨executor, ran, isOpen, late, completed, workers, cancelled⟩ : ∃ executor : Executor Nat,
      (Executor.new 1 1).run? lateReplySteps = some executor ∧ executor.closing = .open ∧
        Call.stage? executor.calls 0 = some (.done (.error (.timeout 20))) ∧
        times .completed 0 executor.journal = 1 ∧ executor.workers = [.idle] ∧
        times .cancelled 0 executor.journal = 0 := ⟨_, rfl, rfl, rfl, rfl, rfl, rfl⟩
  have counts := everyJobIsCancelled executor (Reachable.new.run ran) isOpen late completed
    fun worker member => by
      rw [workers, List.mem_singleton] at member
      rw [member]
      rfl
  rw [cancelled] at counts
  cases counts

end Executor

end WalletBridge
