/-
This file ties the counters of an executor to where the jobs are. Each counter is changed by one
kind of step, and a little later or earlier than the thing that it counts: a job is in the queue
before it is counted as submitted, it is counted as failed before it is counted as completed, and it
is counted as cancelled after that. The places in between are counted beside the counters. With them
the accounts are exact after every step, whoever takes it, and they stay so when the queue is thrown
away.
-/

import WalletBridge.Proofs.JobReplies

namespace WalletBridge

variable {Content : Type}

/-! ### Places that are counted -/

/-- Whether a message brings a job. -/
def Message.isRun : Message → Bool
  | .run _ => true
  | .stop => false

/-- Whether a call has put its job into the queue and not counted it yet. -/
def CallStage.isQueued : CallStage Content → Bool
  | .queued => true
  | _ => false

/-- Whether a worker has a job that is not counted as completed yet. -/
def Worker.isUnsettled : Worker Content → Bool
  | .running _ | .ended _ _ | .judged _ _ => true
  | _ => false

/-- Whether a worker has counted its job as failed and not as completed yet. -/
def Worker.hasCountedFailure : Worker Content → Bool
  | .judged _ outcome => outcome.isFailed
  | _ => false

/-- Whether a worker that is about to count a failure has one to count. -/
def Worker.failsRightly : Worker Content → Bool
  | .ended _ outcome => outcome.isFailed
  | _ => true

/-- Whether a worker has counted its job as completed and is not done with the reply yet. -/
def Worker.owesReply : Worker Content → Bool
  | .counted _ _ | .unheard _ => true
  | _ => false

/-- How often something happened to any job. -/
def JobEvent.occurrences (phase : JobPhase) (journal : List (JobEvent Content)) : Nat :=
  journal.countP fun event => decide (event.phase = phase)

theorem JobEvent.occurrences_cons (phase : JobPhase) (event : JobEvent Content)
    (journal : List (JobEvent Content)) :
    occurrences phase (event :: journal) =
      occurrences phase journal + if event.phase = phase then 1 else 0 := by
  simp only [occurrences, List.countP_cons, decide_eq_true_eq]

/-- What the counters are when all that happened to jobs is in a journal. -/
def JobEvent.tally (journal : List (JobEvent Content)) : ExecutorStats where
  submitted := occurrences .submitted journal
  completed := occurrences .completed journal
  failed := occurrences .failed journal
  cancelled := occurrences .cancelled journal

namespace Executor

open JobEvent (occurrences occurrences_cons tally)

/-- How many jobs are in the queue. -/
def queuedJobs (executor : Executor Content) : Nat := executor.queue.countP Message.isRun

/-- How many jobs were put into the queue and are not counted as submitted yet. -/
def uncounted (executor : Executor Content) : Nat :=
  executor.calls.countP fun call => call.stage.isQueued

/-- How many jobs workers run or have run without counting them as completed yet. -/
def unsettled (executor : Executor Content) : Nat := executor.workers.countP Worker.isUnsettled

/-- How many jobs are counted as failed and not as completed yet. -/
def countedFailures (executor : Executor Content) : Nat :=
  executor.workers.countP Worker.hasCountedFailure

/-- How many jobs are counted as completed and not replied to yet. -/
def owedReplies (executor : Executor Content) : Nat := executor.workers.countP Worker.owesReply

/-- How many jobs were thrown away. -/
def discarded (executor : Executor Content) : Nat := occurrences .discarded executor.journal

/-- A message that is appended is counted when it brings a job. -/
theorem queuedJobs_push (executor : Executor Content) (message : Message) :
    (executor.push message).queuedJobs =
      executor.queuedJobs + if message.isRun then 1 else 0 := by
  simp only [queuedJobs, push, List.countP_append, List.countP_singleton]

/-! ### What does not change the count of submissions to come -/

/-- The calls stand where they stood. -/
theorem uncounted_congr {before after : Executor Content}
    (stages : ∀ id, Call.stage? after.calls id = Call.stage? before.calls id) :
    after.uncounted = before.uncounted := by
  have same : after.calls.map (·.stage) = before.calls.map (·.stage) := by
    refine List.ext_getElem? fun id => ?_
    rw [List.getElem?_map, List.getElem?_map]
    exact stages id
  have counted (calls : List (Call Content)) :
      calls.countP (fun call => call.stage.isQueued) =
        (calls.map (·.stage)).countP CallStage.isQueued := by
    rw [List.countP_map]
    rfl
  rw [uncounted, counted, same, ← counted]
  rfl

/-- A new stage of one call changes the count by the two stages. -/
theorem uncounted_setStage {executor : Executor Content} {id : CallId} {call : Call Content}
    (found : executor.calls[id]? = some call) (next : CallStage Content) :
    (executor.setStage id next).uncounted + (if call.stage.isQueued then 1 else 0) =
      executor.uncounted + (if next.isQueued then 1 else 0) := by
  obtain ⟨bound, same⟩ := List.getElem?_eq_some_iff.mp found
  have changed : (executor.setStage id next).calls =
      executor.calls.set id { call with stage := next } := by
    refine List.ext_getElem? fun other => ?_
    rw [setStage, List.getElem?_modify, List.getElem?_set]
    by_cases own : id = other
    · subst own
      simp [bound, same]
    · simp [own]
  rw [uncounted, changed]
  exact countP_set_add { call with stage := next } found fun call => call.stage.isQueued

/-- Neither before nor after a shift does a call have its job still to be counted. -/
theorem CallShift.not_queued {executor : Executor Content} {call : Call Content}
    {next : CallStage Content} (shift : CallShift executor call next) :
    call.stage.isQueued = false ∧ next.isQueued = false := by
  cases shift <;> exact ⟨rfl, rfl⟩

/-! ### Throwing the queue away -/

theorem foldl_discards_stats (messages : List Message) (executor : Executor Content) :
    (messages.foldl
        (fun left message =>
          match message with
          | .run job => (left.setMailbox job .lost).record (.discarded job)
          | .stop => left)
        executor).stats = executor.stats := by
  induction messages generalizing executor with
  | nil => rfl
  | cons message rest inductionHypothesis =>
    cases message <;> exact inductionHypothesis _

theorem discard_stats (executor : Executor Content) : executor.discard.stats = executor.stats :=
  foldl_discards_stats executor.queue { executor with queue := [] }

theorem occurrences_discardEvent (phase : JobPhase) (messages : List Message) :
    occurrences phase (messages.filterMap discardEvent : List (JobEvent Content)) =
      if phase = .discarded then messages.countP Message.isRun else 0 := by
  induction messages with
  | nil => exact (ite_self 0).symm
  | cons message rest inductionHypothesis =>
    cases message with
    | stop => exact inductionHypothesis
    | run job =>
      simp only [List.filterMap_cons, discardEvent]
      rw [occurrences_cons, inductionHypothesis, List.countP_cons]
      by_cases discarded : phase = .discarded
      · simp [discarded, JobEvent.phase, Message.isRun]
      · simp [discarded, JobEvent.phase, Ne.symm discarded]

/-- Every job of the queue is written down as thrown away, and nothing else is. -/
theorem occurrences_discard (phase : JobPhase) (executor : Executor Content) :
    occurrences phase executor.discard.journal =
      occurrences phase executor.journal +
        if phase = .discarded then executor.queuedJobs else 0 := by
  rw [executor.discard_discards.journal, queuedJobs,
    ← occurrences_discardEvent phase executor.queue]
  unfold occurrences
  rw [List.countP_append, List.countP_reverse, Nat.add_comm]

/-! ### Counters and the journal -/

/-- Counters are changed by what is written down, and in the same step. -/
theorem Move.stats_eq_tally {before after : Executor Content} (move : Move before after)
    (counted : before.stats = tally before.journal) : after.stats = tally after.journal := by
  cases move with
  | submitted | judged | completed | regretted =>
    simp only [record, setStage, setWorker, counted, tally, occurrences_cons, JobEvent.phase]
    rfl
  | leftLast index found last =>
    simp only [discard_stats, tally, occurrences_discard, reduceCtorEq, if_false]
    exact counted
  | _ => exact counted

theorem Reachable.stats_eq_tally {poolSize capacity : Nat} {executor : Executor Content}
    (reached : Reachable poolSize capacity executor) :
    executor.stats = tally executor.journal :=
  reached.move_induction (by rfl) fun _ _ move counted => move.stats_eq_tally counted

/-! ### The balance -/

/-- How the counters are tied to the places where jobs are. -/
structure Balanced (executor : Executor Content) : Prop where
  submitted : executor.stats.submitted + executor.uncounted =
    executor.stats.completed + executor.queuedJobs + executor.unsettled + executor.discarded
  failed : executor.stats.failed ≤ executor.stats.completed + executor.countedFailures
  cancelled : executor.stats.cancelled + executor.owedReplies ≤ executor.stats.completed
  failures : ∀ worker ∈ executor.workers, worker.failsRightly = true

/-- A worker that goes on keeps the balance if what it adds to the counters makes up for the place
that it leaves and the one that it comes to. -/
theorem Balanced.work {before after : Executor Content} {index : Nat} {old new : Worker Content}
    (balanced : Balanced before) (found : before.workers[index]? = some old)
    (workers : after.workers = before.workers.set index new)
    (uncounted : after.uncounted = before.uncounted)
    (submitted : after.stats.submitted = before.stats.submitted)
    (discarded : after.discarded = before.discarded)
    (settles : after.stats.completed + after.queuedJobs + (if new.isUnsettled then 1 else 0) =
      before.stats.completed + before.queuedJobs + (if old.isUnsettled then 1 else 0))
    (fails : after.stats.failed + before.stats.completed +
        (if old.hasCountedFailure then 1 else 0) ≤
      before.stats.failed + after.stats.completed + (if new.hasCountedFailure then 1 else 0))
    (cancels : after.stats.cancelled + before.stats.completed + (if new.owesReply then 1 else 0) ≤
      before.stats.cancelled + after.stats.completed + (if old.owesReply then 1 else 0))
    (failures : new.failsRightly = true) : Balanced after := by
  obtain ⟨submittedBefore, failedBefore, cancelledBefore, failuresBefore⟩ := balanced
  have unsettled := countP_set_add new found Worker.isUnsettled
  have countedFailures := countP_set_add new found Worker.hasCountedFailure
  have owedReplies := countP_set_add new found Worker.owesReply
  rw [← workers] at unsettled countedFailures owedReplies
  refine ⟨?_, ?_, ?_, fun worker member => ?_⟩
  · unfold Executor.unsettled at submittedBefore ⊢
    omega
  · unfold Executor.countedFailures at failedBefore ⊢
    omega
  · unfold Executor.owedReplies at cancelledBefore ⊢
    omega
  · rw [workers] at member
    rcases List.mem_or_eq_of_mem_set member with former | rfl
    · exact failuresBefore worker former
    · exact failures

/-- The jobs that leave the queue are those that are thrown away. -/
theorem Balanced.discard {executor : Executor Content} (balanced : Balanced executor) :
    Balanced executor.discard := by
  obtain ⟨submitted, failed, cancelled, failures⟩ := balanced
  refine ⟨?_, ?_, ?_, ?_⟩
  · have calls : executor.discard.uncounted = executor.uncounted :=
      uncounted_congr fun id => discard_stage? executor id
    rw [discard_stats, calls, queuedJobs, discard_queue, unsettled, discard_workers, discarded,
      occurrences_discard, if_pos rfl]
    simp only [List.countP_nil, unsettled, discarded] at submitted ⊢
    omega
  · rw [discard_stats, countedFailures, discard_workers]
    exact failed
  · rw [discard_stats, owedReplies, discard_workers]
    exact cancelled
  · rw [discard_workers]
    exact failures

theorem Balanced.move {before after : Executor Content} (balanced : Balanced before)
    (move : Move before after) : Balanced after := by
  have unchanged : Balanced before := balanced
  obtain ⟨submitted, failed, cancelled, failures⟩ := balanced
  cases move with
  | begun kind =>
    have counted : uncounted { before with calls := before.calls ++ [⟨kind, .fresh, .empty⟩] } =
        before.uncounted := by
      simp [uncounted, List.countP_append, CallStage.isQueued]
    refine ⟨?_, failed, cancelled, failures⟩
    rw [counted]
    exact submitted
  | shifted id call next found shift =>
    obtain ⟨notYet, notAfter⟩ := shift.not_queued
    have counted := uncounted_setStage found next
    rw [notYet, notAfter] at counted
    refine ⟨?_, failed, cancelled, failures⟩
    rw [Nat.add_right_cancel counted]
    exact submitted
  | accepted id kind mailbox found inhabited room =>
    have counted : ((before.push (.run id)).setStage id .queued).uncounted = before.uncounted + 1 :=
      @uncounted_setStage _ (before.push (.run id)) id _ found .queued
    have queued : (before.push (.run id)).queuedJobs = before.queuedJobs + 1 :=
      before.queuedJobs_push (.run id)
    refine ⟨?_, failed, cancelled, failures⟩
    show before.stats.submitted + ((before.push (.run id)).setStage id .queued).uncounted =
      before.stats.completed + (before.push (.run id)).queuedJobs + before.unsettled +
        before.discarded
    omega
  | submitted id kind mailbox found =>
    have counted : (before.setStage id .waiting).uncounted + 1 = before.uncounted :=
      uncounted_setStage found .waiting
    refine ⟨?_, failed, cancelled, failures⟩
    show before.stats.submitted + 1 + (before.setStage id .waiting).uncounted =
      before.stats.completed + before.queuedJobs + before.unsettled + before.discarded
    omega
  | received index job rest found first =>
    refine unchanged.work found rfl rfl rfl rfl ?_ (Nat.le_refl _) (Nat.le_refl _) rfl
    show before.stats.completed + rest.countP Message.isRun + 1 =
      before.stats.completed + before.queuedJobs + 0
    rw [queuedJobs, first, List.countP_cons_of_pos rfl]
    rfl
  | told index rest found first =>
    refine unchanged.work found rfl rfl rfl rfl ?_ (Nat.le_refl _) (Nat.le_refl _) rfl
    show before.stats.completed + rest.countP Message.isRun + 0 =
      before.stats.completed + before.queuedJobs + 0
    rw [queuedJobs, first, List.countP_cons_of_neg Bool.false_ne_true]
  | finished index job outcome found =>
    cases isFailed : outcome.isFailed with
    | true =>
      have phase : phaseAfter job outcome = .ended job outcome := if_pos isFailed
      rw [phase]
      exact unchanged.work found rfl rfl rfl rfl rfl (Nat.le_refl _) (Nat.le_refl _) isFailed
    | false =>
      have phase : phaseAfter job outcome = .judged job outcome :=
        if_neg (Bool.eq_false_iff.mp isFailed)
      rw [phase]
      refine unchanged.work found rfl rfl rfl rfl rfl ?_ (Nat.le_refl _) rfl
      exact Nat.le_add_right _ _
  | judged index job outcome found =>
    have isFailed : outcome.isFailed = true := failures _ (List.mem_of_getElem? found)
    refine unchanged.work found rfl rfl rfl rfl rfl ?_ (Nat.le_refl _) rfl
    show before.stats.failed + 1 + before.stats.completed + 0 ≤
      before.stats.failed + before.stats.completed + if outcome.isFailed then 1 else 0
    rw [if_pos isFailed]
    omega
  | completed index job outcome found =>
    refine unchanged.work found rfl rfl rfl rfl ?_ ?_ ?_ rfl
    · show before.stats.completed + 1 + before.queuedJobs + 0 =
        before.stats.completed + before.queuedJobs + 1
      omega
    · show before.stats.failed + before.stats.completed + (if outcome.isFailed then 1 else 0) ≤
        before.stats.failed + (before.stats.completed + 1) + 0
      split <;> omega
    · show before.stats.cancelled + before.stats.completed + 1 ≤
        before.stats.cancelled + (before.stats.completed + 1) + 0
      omega
  | replied index job outcome found heard =>
    refine unchanged.work found rfl (uncounted_congr fun id => ?_) rfl rfl rfl (Nat.le_refl _)
      (Nat.le_add_right _ _) rfl
    exact Call.stage?_setMailbox before.calls id job _
  | unheard index job outcome found unheard =>
    exact unchanged.work found rfl rfl rfl rfl rfl (Nat.le_refl _) (Nat.le_refl _) rfl
  | regretted index job found =>
    refine unchanged.work found rfl rfl rfl rfl rfl (Nat.le_refl _) ?_ rfl
    show before.stats.cancelled + 1 + before.stats.completed + 0 ≤
      before.stats.cancelled + before.stats.completed + 1
    omega
  | left index found others =>
    exact unchanged.work found rfl rfl rfl rfl rfl (Nat.le_refl _) (Nat.le_refl _) rfl
  | leftLast index found last =>
    have stopped : Balanced (before.setWorker index .stopped) :=
      unchanged.work found rfl rfl rfl rfl rfl (Nat.le_refl _) (Nat.le_refl _) rfl
    exact stopped.discard
  | shut running => exact ⟨submitted, failed, cancelled, failures⟩
  | stopSent left stopping inhabited room =>
    refine ⟨?_, failed, cancelled, failures⟩
    have queued : { before.push .stop with closing := .stopping left }.queuedJobs =
        before.queuedJobs := before.queuedJobs_push .stop
    rw [queued]
    exact submitted
  | stopSpared left stopping empty => exact ⟨submitted, failed, cancelled, failures⟩
  | joined stopping empty => exact ⟨submitted, failed, cancelled, failures⟩

theorem Balanced.new (poolSize capacity : Nat) :
    Balanced (Executor.new poolSize capacity : Executor Content) := by
  refine ⟨?_, Nat.zero_le _, ?_, fun worker member => ?_⟩
  · simp [Executor.new, uncounted, queuedJobs, unsettled, discarded, occurrences,
      ExecutorStats.zero, List.countP_replicate, Worker.isUnsettled]
  · simp [Executor.new, owedReplies, ExecutorStats.zero, List.countP_replicate, Worker.owesReply]
  · rw [List.eq_of_mem_replicate member]
    rfl

theorem Reachable.balanced {poolSize capacity : Nat} {executor : Executor Content}
    (reached : Reachable poolSize capacity executor) : Balanced executor :=
  reached.move_induction (.new poolSize capacity) fun _ _ move balanced => balanced.move move

/-- The number of jobs in flight that is read where nobody is about to count a job is exact, as long
as the submitted jobs can be counted in a word. -/
theorem Reachable.toNat_inFlight {poolSize capacity : Nat} {executor : Executor Content}
    (reached : Reachable poolSize capacity executor)
    (few : executor.stats.submitted < values64) (counted : executor.uncounted = 0) :
    executor.stats.snapshot.inFlight.toNat =
      executor.queuedJobs + executor.unsettled + executor.discarded := by
  have submitted := reached.balanced.submitted
  have completed : executor.stats.completed < values64 := by omega
  rw [ExecutorStats.toNat_inFlight_snapshot few completed, ExecutorStats.inFlight]
  omega

/-- What the counters of an executor say, in every state that it can reach. No more jobs are
cancelled than completed, and no more are failed, unless they are about to be counted as completed.
The jobs that entered the queue, counted or not, are those counted as completed, those queued, those
at a worker and those thrown away. So where nobody is between putting a job into the queue and
counting it, the number of jobs in flight is exact. -/
theorem counters_balance {poolSize capacity : Nat} {executor : Executor Content}
    (reached : Reachable poolSize capacity executor) :
    executor.stats.cancelled ≤ executor.stats.completed ∧
      executor.stats.failed ≤ executor.stats.completed + executor.countedFailures ∧
      executor.stats.submitted + executor.uncounted =
        executor.stats.completed + executor.queuedJobs + executor.unsettled + executor.discarded ∧
      (executor.uncounted = 0 → executor.stats.completed ≤ executor.stats.submitted ∧
        executor.stats.inFlight =
          executor.queuedJobs + executor.unsettled + executor.discarded) ∧
      (executor.countedFailures = 0 → executor.stats.failed ≤ executor.stats.completed) := by
  obtain ⟨submitted, failed, cancelled, _⟩ := reached.balanced
  refine ⟨by omega, failed, submitted, fun counted => ?_, fun settled => by omega⟩
  unfold ExecutorStats.inFlight
  omega

/-- A call whose job fails after the caller has left, and one whose job is thrown away behind the
stop message. -/
def lossySteps : List (ExecutorStep Nat) :=
  [.begin .immediate, .check 0, .offer 0, .count 0, .abandon 0, .receive 0,
   .finish 0 (.halted ⟨"out of reach"⟩), .judge 0, .complete 0, .reply 0, .regret 0,
   .begin .immediate, .check 1, .shut, .stop, .receive 0, .offer 1, .count 1, .leave 0]

theorem counters_balance_lossy :
    ∃ executor : Executor Nat, (Executor.new 1 1).run? lossySteps = some executor ∧
      executor.stats = ⟨2, 1, 1, 1⟩ ∧ executor.discarded = 1 ∧
      executor.stats.inFlight = executor.queuedJobs + executor.unsettled + executor.discarded ∧
      executor.stats.failed ≤ executor.stats.completed := by
  obtain ⟨executor, ran, stats, thrown, counted, settled⟩ : ∃ executor : Executor Nat,
      (Executor.new 1 1).run? lossySteps = some executor ∧ executor.stats = ⟨2, 1, 1, 1⟩ ∧
        executor.discarded = 1 ∧ executor.uncounted = 0 ∧ executor.countedFailures = 0 :=
    ⟨_, rfl, rfl, rfl, rfl, rfl⟩
  obtain ⟨_, _, _, inFlight, failed⟩ := counters_balance (Reachable.new.run ran)
  exact ⟨executor, ran, stats, thrown, (inFlight counted).2, failed settled⟩

end Executor

end WalletBridge
