/-
This file says what becomes of a job that a call has put into the queue, once the shutdown is over.
The executor refuses calls that begin after the shutdown has, but a call looks at that only before
it offers its job, and again where it finds the queue full, so a job can still enter the queue
behind the last stop message. The job has run to its end, and once, exactly if it entered the queue
before the last stop message did. Otherwise no worker is left for it, and it is thrown away although
it was accepted and counted.
-/

import WalletBridge.Proofs.ShutdownQueue

namespace WalletBridge

variable {Content : Type}

namespace Executor

open JobEvent (times times_cons)

/-! ### What a step does to the queue -/

/-- What a step can do to the queue, seen together with the workers that serve. -/
inductive QueueMove (before after : Executor Content) : Prop where
  | kept (queue : after.queue = before.queue) (serving : after.serving = before.serving)
  | pushed (message : Message) (queue : after.queue = before.queue ++ [message])
      (serving : after.serving = before.serving)
  | started (job : CallId) (rest : List Message) (first : before.queue = .run job :: rest)
      (queue : after.queue = rest) (serving : after.serving = before.serving)
      (served : 0 < before.serving) (begun : 0 < times .started job after.journal)
  | told (rest : List Message) (first : before.queue = .stop :: rest)
      (queue : after.queue = rest) (serving : after.serving + 1 = before.serving)
  | emptied (queue : after.queue = []) (unserved : before.serving = 0)
      (discarded : ∀ job, times .discarded job after.journal =
        times .discarded job before.journal + before.queue.count (.run job))

/-- A worker that goes on keeps the number of those that serve. -/
theorem QueueMove.work {before after : Executor Content} {index : Nat} {old new : Worker Content}
    (found : before.workers[index]? = some old) (queue : after.queue = before.queue)
    (workers : after.workers = before.workers.set index new) (serves : old.serves = new.serves) :
    QueueMove before after := by
  refine .kept queue ?_
  have counted := countP_set_add new found Worker.serves
  unfold serving
  rw [workers]
  rw [serves] at counted
  exact Nat.add_right_cancel counted

theorem Move.queueMove {before after : Executor Content} (move : Move before after) :
    QueueMove before after := by
  cases move with
  | begun kind => exact .kept rfl rfl
  | shifted id call next found shift => exact .kept rfl rfl
  | accepted id kind mailbox found inhabited room => exact .pushed (.run id) rfl rfl
  | submitted id kind mailbox found => exact .kept rfl rfl
  | received index job rest found first =>
    refine .started job rest first rfl ?_ ?_ ?_
    · exact Nat.add_right_cancel (countP_set_add (.running job) found Worker.serves)
    · exact List.countP_pos_iff.mpr ⟨.idle, List.mem_of_getElem? found, rfl⟩
    · simp [record, times_cons, JobEvent.phase, JobEvent.job]
  | told index rest found first =>
    have served := countP_set_add .leaving found Worker.serves
    exact .told rest first rfl served
  | finished index job outcome found =>
    refine .work found rfl rfl ?_
    cases failed : outcome.isFailed <;> simp [phaseAfter, failed, Worker.serves]
  | judged index job outcome found => exact .work found rfl rfl rfl
  | completed index job outcome found => exact .work found rfl rfl rfl
  | replied index job outcome found heard => exact .work found rfl rfl rfl
  | unheard index job outcome found unheard => exact .work found rfl rfl rfl
  | regretted index job found => exact .work found rfl rfl rfl
  | left index found others => exact .work found rfl rfl rfl
  | leftLast index found last =>
    have serves : (before.setWorker index .stopped).serving = before.serving :=
      serving_setWorker .stopped found
    refine .emptied (discard_queue _) (serves.symm.trans (serving_eq_zero last)) fun job => ?_
    rw [times_discard, if_pos rfl]
    rfl
  | shut running => exact .kept rfl rfl
  | stopSent left stopping inhabited room => exact .pushed .stop rfl rfl
  | stopSpared left stopping empty => exact .kept rfl rfl
  | joined stopping empty => exact .kept rfl rfl

/-- The journal only grows. -/
theorem Move.times_le {before after : Executor Content} (move : Move before after)
    (phase : JobPhase) (id : CallId) :
    times phase id before.journal ≤ times phase id after.journal := by
  cases move with
  | leftLast index found last =>
    rw [times_discard]
    exact Nat.le_add_right _ _
  | accepted _ _ _ _ _ _ | submitted _ _ _ _ | received _ _ _ _ _ | finished _ _ _ _
  | judged _ _ _ _ | completed _ _ _ _ | regretted _ _ _ =>
    simp only [record, times_cons]
    exact Nat.le_add_right _ _
  | _ => exact Nat.le_refl _

/-- What happened stays in the journal. -/
theorem times_le_of_run {executor after : Executor Content}
    {steps : List (ExecutorStep Content)} (ran : executor.run? steps = some after)
    (phase : JobPhase) (id : CallId) :
    times phase id executor.journal ≤ times phase id after.journal := by
  induction steps generalizing executor with
  | nil => exact Option.some.inj ran ▸ Nat.le_refl _
  | cons step rest inductionHypothesis =>
    obtain ⟨between, taken, ranRest⟩ := Option.bind_eq_some_iff.mp ran
    exact Nat.le_trans ((step?_move taken).times_le phase id) (inductionHypothesis ranRest)

/-! ### Jobs that are reached -/

theorem count_stop_run (job : CallId) (front : List Message) :
    (Message.run job :: front).count .stop = front.count .stop := by
  rw [List.count_cons]
  rfl

/-- What becomes of a job in the queue in one step, with what is before it. While it waits, the stop
messages before it and the workers that serve become fewer by the same number. -/
inductive Onward (id : CallId) (before after : Executor Content) (front : List Message) : Prop where
  | waiting (left rest : List Message) (queue : after.queue = left ++ .run id :: rest)
      (lead : left.count .stop + before.serving = front.count .stop + after.serving)
  | started (reached : front = []) (served : 0 < before.serving)
      (begun : 0 < times .started id after.journal)
  | discarded (unserved : before.serving = 0) (gone : 0 < times .discarded id after.journal)

theorem QueueMove.onward {id : CallId} {before after : Executor Content}
    (move : QueueMove before after) {front rest : List Message}
    (place : before.queue = front ++ .run id :: rest) : Onward id before after front := by
  cases move with
  | kept queue serving =>
    exact .waiting front rest (queue.trans place) (congrArg (front.count .stop + ·) serving.symm)
  | pushed message queue serving =>
    refine .waiting front (rest ++ [message]) ?_ (congrArg (front.count .stop + ·) serving.symm)
    rw [queue, place, List.append_assoc, List.cons_append]
  | started job others first queue serving served begun =>
    rw [place] at first
    cases front with
    | nil =>
      cases first
      exact .started rfl served begun
    | cons head front =>
      obtain ⟨rfl, rfl⟩ := List.cons.inj first
      refine .waiting front rest queue ?_
      rw [count_stop_run, serving]
  | told others first queue serving =>
    rw [place] at first
    cases front with
    | nil => cases first
    | cons head front =>
      obtain ⟨rfl, rfl⟩ := List.cons.inj first
      refine .waiting front rest queue ?_
      rw [List.count_cons_self]
      omega
  | emptied queue unserved discarded =>
    refine .discarded unserved ?_
    rw [discarded, place, List.count_append, List.count_cons_self]
    omega

/-- A job has started, or fewer stop messages are before it than workers serve. -/
inductive Destined (id : CallId) (executor : Executor Content) : Prop where
  | waiting (front rest : List Message) (queue : executor.queue = front ++ .run id :: rest)
      (fewer : front.count .stop < executor.serving)
  | started (begun : 0 < times .started id executor.journal)

/-- A job was thrown away, or a stop message is before it for every worker that serves. -/
inductive Doomed (id : CallId) (executor : Executor Content) : Prop where
  | waiting (front rest : List Message) (queue : executor.queue = front ++ .run id :: rest)
      (enough : executor.serving ≤ front.count .stop)
  | discarded (gone : 0 < times .discarded id executor.journal)

theorem Destined.move {id : CallId} {before after : Executor Content}
    (destined : Destined id before) (move : Move before after) : Destined id after := by
  cases destined with
  | started begun => exact .started (Nat.lt_of_lt_of_le begun (move.times_le .started id))
  | waiting front rest place fewer =>
    cases move.queueMove.onward place with
    | waiting left rest queue lead => exact .waiting left rest queue (by omega)
    | started reached served begun => exact .started begun
    | discarded unserved gone => omega

theorem Doomed.move {id : CallId} {before after : Executor Content}
    (doomed : Doomed id before) (move : Move before after) : Doomed id after := by
  cases doomed with
  | discarded gone => exact .discarded (Nat.lt_of_lt_of_le gone (move.times_le .discarded id))
  | waiting front rest place enough =>
    cases move.queueMove.onward place with
    | waiting left rest queue lead => exact .waiting left rest queue (by omega)
    | started reached served begun =>
      -- Nothing is before the job, so nobody serves who could start it.
      rw [reached, List.count_nil] at enough
      omega
    | discarded unserved gone => exact .discarded gone

/-! ### Accepted jobs -/

/-- Where a call stands that was put into another stage. -/
theorem stage?_setStage_self {executor : Executor Content} {id : CallId} {call : Call Content}
    (found : executor.calls[id]? = some call) (stage : CallStage Content) :
    Call.stage? (executor.setStage id stage).calls id = some stage := by
  rw [setStage, Call.stage?_setStage, if_pos rfl, Call.stage?, found]
  rfl

/-- What an offer did that put the job into the queue. -/
theorem offer_entered {before accepted : Executor Content} {id : CallId}
    (offered : before.step? (.offer id) = some accepted)
    (entered : Call.stage? accepted.calls id = some .queued) :
    Call.stage? before.calls id = some .offering ∧ before.isDeserted = false ∧
      accepted.queue = before.queue ++ [.run id] ∧ accepted.serving = before.serving ∧
      accepted.journal = .queued id :: before.journal := by
  cases found : before.calls[id]? with
  | none =>
    simp only [step?, found] at offered
    cases offered
  | some call =>
    obtain ⟨kind, stage, mailbox⟩ := call
    simp only [step?, found, stepCall] at offered
    split at offered
    · cases offered
      unfold offer at entered ⊢
      cases deserted : before.isDeserted with
      | true =>
        simp only [deserted, if_true, refuse] at entered
        rw [stage?_setStage_self found] at entered
        cases entered
      | false =>
        cases room : before.hasRoom with
        | true =>
          refine ⟨?_, rfl, rfl, rfl, rfl⟩
          rw [Call.stage?, found]
          rfl
        | false =>
          simp only [deserted, room, Bool.false_eq_true, if_false, refuse] at entered
          split at entered
          · rw [stage?_setStage_self found] at entered
            cases entered
          · rw [stage?_setStage_self found] at entered
            cases entered
    · cases offered

/-- A job that was started has run to its end, and is counted, when no worker is left. -/
theorem Accounted.ended_of_deserted {id : CallId} {executor : Executor Content}
    (accounted : Accounted id executor) (deserted : executor.isDeserted = true) :
    times .ended id executor.journal = times .started id executor.journal ∧
      times .completed id executor.journal = times .started id executor.journal := by
  have left (worker : Worker Content) (member : worker ∈ executor.workers) : worker = .stopped := by
    have stopped := List.all_eq_true.mp deserted worker member
    cases worker with
    | stopped => rfl
    | _ => cases stopped
  have noneRuns : executor.workers.countP (Worker.runs id) = 0 := by
    refine List.countP_eq_zero.mpr fun worker member runs => ?_
    rw [left worker member] at runs
    cases runs
  have noneSettles : executor.workers.countP (Worker.settles id) = 0 := by
    refine List.countP_eq_zero.mpr fun worker member settles => ?_
    rw [left worker member] at settles
    cases settles
  have started := accounted.started
  have ended := accounted.ended
  omega

/-- A job that entered the queue has exactly one fate once the queue is empty and no worker is left:
it has run to its end, or it was thrown away. -/
theorem fate_of_closed {poolSize capacity : Nat} {executor : Executor Content} {id : CallId}
    (reached : Reachable poolSize capacity executor) (closed : executor.closing = .closed)
    (entered : 0 < times .queued id executor.journal) :
    times .started id executor.journal + times .discarded id executor.journal = 1 ∧
      times .ended id executor.journal = times .started id executor.journal ∧
      times .completed id executor.journal = times .started id executor.journal := by
  obtain ⟨_, _, empty, deserted⟩ := reached.staffed
  have queued := (reached.accounted id).queued
  have once := (reached.entersOnce id).once
  obtain ⟨ended, completed⟩ := (reached.accounted id).ended_of_deserted (deserted closed)
  rw [empty (deserted closed), List.count_nil] at queued
  omega

/-- What becomes of a job that a call has put into the queue, once the shutdown is over. If a stop
message was still to be sent, the job has run to its end, and once; if none was, the job has not run
at all and was thrown away. -/
theorem accepted_job_fate {poolSize capacity : Nat} {before accepted after : Executor Content}
    {id : CallId} {steps : List (ExecutorStep Content)}
    (reached : Reachable poolSize capacity before)
    (offered : before.step? (.offer id) = some accepted)
    (entered : Call.stage? accepted.calls id = some .queued)
    (ran : accepted.run? steps = some after) (closed : after.closing = .closed) :
    (before.closing ≠ .stopping 0 →
      times .started id after.journal = 1 ∧ times .ended id after.journal = 1 ∧
        times .completed id after.journal = 1 ∧ times .discarded id after.journal = 0) ∧
      (before.closing = .stopping 0 →
        times .started id after.journal = 0 ∧ times .ended id after.journal = 0 ∧
          times .completed id after.journal = 0 ∧ times .discarded id after.journal = 1) := by
  obtain ⟨offering, inhabited, queue, serving, journal⟩ := offer_entered offered entered
  obtain ⟨workers, stops, _, deserted⟩ := reached.staffed
  have reachedAccepted := reached.step offered
  have reachedAfter := reachedAccepted.run ran
  have isQueued : 0 < times .queued id after.journal := by
    refine Nat.lt_of_lt_of_le ?_ (times_le_of_run ran .queued id)
    rw [journal, times_cons, if_pos ⟨rfl, rfl⟩]
    exact Nat.succ_pos _
  obtain ⟨one, ended, completed⟩ := fate_of_closed reachedAfter closed isQueued
  have noQueue : after.queue = [] :=
    reachedAfter.staffed.empty (reachedAfter.staffed.closed closed)
  refine ⟨fun early => ?_, fun late => ?_⟩
  · have toCome : 0 < before.stopsToCome := by
      unfold stopsToCome
      cases closing : before.closing with
      | «open» => exact workers
      | stopping left => exact Nat.pos_of_ne_zero fun none => early (none ▸ closing)
      | closed =>
        rw [deserted closing] at inhabited
        cases inhabited
    have fewer : before.queue.count .stop < before.serving := by omega
    have destined : Destined id after :=
      run?_induction (fun _ _ move holds => holds.move move) ran
        (.waiting before.queue [] queue (serving ▸ fewer))
    cases destined with
    | waiting front rest place _ => exact absurd (place.symm.trans noQueue) (by simp)
    | started begun => omega
  · have enough : before.serving ≤ before.queue.count .stop := by
      rw [stops, stopsToCome, late]
      exact Nat.le_refl _
    have doomed : Doomed id after :=
      run?_induction (fun _ _ move holds => holds.move move) ran
        (.waiting before.queue [] queue (serving ▸ enough))
    cases doomed with
    | waiting front rest place _ => exact absurd (place.symm.trans noQueue) (by simp)
    | discarded gone => omega

/-- A call that finds the executor open and is about to offer its job. -/
def offeringSteps : List (ExecutorStep Nat) := [.begin .immediate, .check 0]

/-- A shutdown that the job of the call still runs in. -/
def drainingSteps : List (ExecutorStep Nat) :=
  [.count 0, .shut, .receive 0, .stop, .finish 0 (.value 7), .complete 0, .reply 0, .receive 0,
   .leave 0, .join]

theorem accepted_job_fate_drained :
    ∃ before accepted after : Executor Nat,
      (Executor.new 1 1).run? offeringSteps = some before ∧
        before.step? (.offer 0) = some accepted ∧ accepted.run? drainingSteps = some after ∧
        times .started 0 after.journal = 1 ∧ times .completed 0 after.journal = 1 := by
  obtain ⟨before, begun⟩ : ∃ before, (Executor.new 1 1).run? offeringSteps = some before :=
    ⟨_, rfl⟩
  obtain ⟨accepted, offered⟩ : ∃ accepted, before.step? (.offer 0) = some accepted := by
    cases begun
    exact ⟨_, rfl⟩
  obtain ⟨after, ran, closed⟩ : ∃ after, accepted.run? drainingSteps = some after ∧
      after.closing = .closed := by
    cases begun
    cases offered
    exact ⟨_, rfl, rfl⟩
  have reached : Reachable 1 1 before := Reachable.new.run begun
  have fate := (accepted_job_fate reached offered (by cases begun; cases offered; rfl) ran closed).1
    (by cases begun; nofun)
  exact ⟨before, accepted, after, begun, offered, ran, fate.1, fate.2.2.1⟩

/-- A call that offers its job after the only worker took the only stop message. -/
def overtakenSteps : List (ExecutorStep Nat) :=
  [.begin .immediate, .check 0, .shut, .stop, .receive 0, .offer 0, .count 0, .leave 0, .join]

/-- An accepted job need not run: it can be counted as submitted and be thrown away. -/
theorem accepted_job_need_not_run :
    ¬∀ executor : Executor Nat, Reachable 1 1 executor → executor.closing = .closed →
      ∀ id, times .submitted id executor.journal = 1 →
        times .started id executor.journal = 1 := by
  intro everyJobRuns
  obtain ⟨executor, ran, closed, submitted, started⟩ : ∃ executor : Executor Nat,
      (Executor.new 1 1).run? overtakenSteps = some executor ∧ executor.closing = .closed ∧
        times .submitted 0 executor.journal = 1 ∧ times .started 0 executor.journal = 0 :=
    ⟨_, rfl, rfl, rfl, rfl⟩
  have runs := everyJobRuns executor (Reachable.new.run ran) closed 0 submitted
  rw [started] at runs
  cases runs

end Executor

end WalletBridge
