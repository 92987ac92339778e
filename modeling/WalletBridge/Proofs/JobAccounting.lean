/-
This file keeps account of jobs. The journal of an executor says how often each thing happened to a
job; these numbers are tied to where the job can be found. A job that entered the queue is still in
it, has started or was thrown away; a job that started is running or has ended; and a job that ended
is about to be counted or is counted. A call puts its job into the queue once at most.
-/

import WalletBridge.Proofs.ExecutorMove

namespace WalletBridge

variable {Content : Type}

/-! ### What happened to a job -/

/-- The things that can happen to a job. -/
inductive JobPhase where
  | queued
  | submitted
  | started
  | ended
  | failed
  | completed
  | cancelled
  | discarded
  deriving Repr, DecidableEq

/-- What an event is, without the job and the outcome. -/
def JobEvent.phase : JobEvent Content → JobPhase
  | .queued _ => .queued
  | .submitted _ => .submitted
  | .started _ => .started
  | .ended _ _ => .ended
  | .failed _ => .failed
  | .completed _ => .completed
  | .cancelled _ => .cancelled
  | .discarded _ => .discarded

/-- The job of an event. -/
def JobEvent.job : JobEvent Content → CallId
  | .queued job => job
  | .submitted job => job
  | .started job => job
  | .ended job _ => job
  | .failed job => job
  | .completed job => job
  | .cancelled job => job
  | .discarded job => job

/-- Whether a worker runs a job. -/
def Worker.runs (id : CallId) : Worker Content → Bool
  | .running job => job == id
  | _ => false

/-- Whether a worker has a job that ended and is not counted as completed yet. -/
def Worker.settles (id : CallId) : Worker Content → Bool
  | .ended job _ => job == id
  | .judged job _ => job == id
  | _ => false

/-- Whether a call stands before its job can be in the queue. -/
def CallStage.isBefore : CallStage Content → Bool
  | .fresh => true
  | .offering => true
  | .crowded => true
  | .pausing => true
  | _ => false

/-- Replacing one worker changes a count by the two workers. -/
theorem countP_set_add {Item : Type} {items : List Item} {index : Nat} {old : Item} (new : Item)
    (found : items[index]? = some old) (test : Item → Bool) :
    (items.set index new).countP test + (if test old then 1 else 0) =
      items.countP test + (if test new then 1 else 0) := by
  obtain ⟨bound, same⟩ := List.getElem?_eq_some_iff.mp found
  rw [List.countP_set bound, same]
  cases counted : test old with
  | false => simp
  | true =>
    have positive : 0 < items.countP test :=
      List.countP_pos_iff.mpr ⟨old, List.mem_of_getElem? found, counted⟩
    simp only [if_true]
    omega

/-- How often something happened to a job. -/
def JobEvent.times (phase : JobPhase) (id : CallId) (journal : List (JobEvent Content)) : Nat :=
  journal.countP fun event => decide (event.phase = phase ∧ event.job = id)

theorem JobEvent.times_nil (phase : JobPhase) (id : CallId) :
    times phase id ([] : List (JobEvent Content)) = 0 := rfl

theorem JobEvent.times_cons (phase : JobPhase) (id : CallId) (event : JobEvent Content)
    (journal : List (JobEvent Content)) :
    times phase id (event :: journal) =
      times phase id journal + if event.phase = phase ∧ event.job = id then 1 else 0 := by
  simp only [times, List.countP_cons, decide_eq_true_eq]

theorem JobEvent.times_append (phase : JobPhase) (id : CallId)
    (events journal : List (JobEvent Content)) :
    times phase id (events ++ journal) = times phase id events + times phase id journal :=
  List.countP_append

/-- A change of one item that a view does not see changes nothing that is seen. -/
theorem map_modify_of_keeps {Item Value : Type} (items : List Item) (index : Nat)
    {change : Item → Item} {view : Item → Value}
    (keeps : ∀ item, view (change item) = view item) :
    (items.modify index change).map view = items.map view := by
  refine List.ext_getElem? fun place => ?_
  rw [List.getElem?_map, List.getElem?_map, List.getElem?_modify]
  by_cases here : index = place
  · simp [here, Function.comp_def, keeps]
  · simp [here]

/-- Where the call with a number stands, if there is one. -/
def Call.stage? (calls : List (Call Content)) (id : CallId) : Option (CallStage Content) :=
  calls[id]?.map (·.stage)

theorem Call.stage?_setStage (calls : List (Call Content)) (id other : CallId)
    (stage : CallStage Content) :
    stage? (calls.modify other fun former => { former with stage := stage }) id =
      if other = id then (stage? calls id).map fun _ => stage else stage? calls id := by
  simp only [stage?, List.getElem?_modify]
  by_cases same : other = id
  · simp [same, Function.comp_def]
  · simp [same]

theorem Call.stage?_setMailbox (calls : List (Call Content)) (id other : CallId)
    (mailbox : Mailbox Content) :
    stage? (calls.modify other fun former => { former with mailbox := mailbox }) id =
      stage? calls id := by
  simp only [stage?, List.getElem?_modify]
  by_cases same : other = id
  · simp [same, Function.comp_def]
  · simp [same]

namespace Executor

/-! ### Throwing the queue away -/

/-- The event that is written for a message that is thrown away. -/
def discardEvent : Message → Option (JobEvent Content)
  | .run job => some (.discarded job)
  | .stop => none

/-- What throwing messages away leaves as it was, and what it writes. -/
structure Discards (messages : List Message) (before after : Executor Content) : Prop where
  queue : after.queue = before.queue
  workers : after.workers = before.workers
  closing : after.closing = before.closing
  stages : ∀ id, Call.stage? after.calls id = Call.stage? before.calls id
  kinds : after.calls.map (·.kind) = before.calls.map (·.kind)
  journal : after.journal = (messages.filterMap discardEvent).reverse ++ before.journal

theorem foldl_discards (messages : List Message) (executor : Executor Content) :
    Discards messages executor
      (messages.foldl
        (fun left message =>
          match message with
          | .run job => (left.setMailbox job .lost).record (.discarded job)
          | .stop => left)
        executor) := by
  induction messages generalizing executor with
  | nil => exact ⟨rfl, rfl, rfl, fun _ => rfl, rfl, rfl⟩
  | cons message rest inductionHypothesis =>
    rw [List.foldl_cons]
    cases message with
    | stop =>
      obtain ⟨queue, workers, closing, stages, kinds, journal⟩ := inductionHypothesis executor
      exact ⟨queue, workers, closing, stages, kinds, journal⟩
    | run job =>
      obtain ⟨queue, workers, closing, stages, kinds, journal⟩ :=
        inductionHypothesis ((executor.setMailbox job .lost).record (.discarded job))
      refine ⟨queue, workers, closing, fun id => ?_, ?_, ?_⟩
      · exact (stages id).trans (Call.stage?_setMailbox executor.calls id job .lost)
      · exact kinds.trans (map_modify_of_keeps executor.calls job fun _ => rfl)
      · rw [journal]
        simp [discardEvent, record, setMailbox]

/-- Throwing the queue away empties it and writes down its jobs. -/
theorem discard_discards (executor : Executor Content) :
    Discards executor.queue { executor with queue := [] } executor.discard :=
  foldl_discards executor.queue { executor with queue := [] }

theorem discard_queue (executor : Executor Content) : executor.discard.queue = [] :=
  executor.discard_discards.queue

theorem discard_workers (executor : Executor Content) :
    executor.discard.workers = executor.workers :=
  executor.discard_discards.workers

theorem discard_closing (executor : Executor Content) :
    executor.discard.closing = executor.closing :=
  executor.discard_discards.closing

theorem discard_stage? (executor : Executor Content) (id : CallId) :
    Call.stage? executor.discard.calls id = Call.stage? executor.calls id :=
  executor.discard_discards.stages id

theorem times_discardEvent (phase : JobPhase) (id : CallId) (messages : List Message) :
    JobEvent.times phase id (messages.filterMap discardEvent : List (JobEvent Content)) =
      if phase = .discarded then messages.count (.run id) else 0 := by
  induction messages with
  | nil => exact (ite_self 0).symm
  | cons message rest inductionHypothesis =>
    cases message with
    | stop =>
      simp only [List.filterMap_cons, discardEvent]
      rw [inductionHypothesis, List.count_cons]
      rfl
    | run job =>
      simp only [List.filterMap_cons, discardEvent]
      rw [JobEvent.times_cons, inductionHypothesis, List.count_cons]
      simp only [JobEvent.phase, JobEvent.job]
      by_cases discarded : phase = .discarded
      · simp [discarded]
      · simp [discarded, Ne.symm discarded]

theorem times_discard (phase : JobPhase) (id : CallId) (executor : Executor Content) :
    JobEvent.times phase id executor.discard.journal =
      JobEvent.times phase id executor.journal +
        if phase = .discarded then executor.queue.count (.run id) else 0 := by
  rw [executor.discard_discards.journal, ← times_discardEvent phase id executor.queue]
  unfold JobEvent.times
  rw [List.countP_append, List.countP_reverse, Nat.add_comm]

/-! ### The account of a job -/

open JobEvent (times times_nil times_cons)

/-- Where the things are that happened to a job. -/
structure Accounted (id : CallId) (executor : Executor Content) : Prop where
  queued : times .queued id executor.journal =
    executor.queue.count (.run id) + times .started id executor.journal +
      times .discarded id executor.journal
  started : times .started id executor.journal =
    executor.workers.countP (Worker.runs id) + times .ended id executor.journal
  ended : times .ended id executor.journal =
    executor.workers.countP (Worker.settles id) + times .completed id executor.journal

/-- A worker that goes on and writes down what it did keeps the account. -/
theorem Accounted.work {id : CallId} {before after : Executor Content} {index : Nat}
    {old new : Worker Content} (accounted : Accounted id before)
    (found : before.workers[index]? = some old) (events : List (JobEvent Content))
    (queue : after.queue = before.queue) (workers : after.workers = before.workers.set index new)
    (journal : after.journal = events ++ before.journal)
    (entered : times .queued id events = times .started id events + times .discarded id events)
    (began : times .started id events + (if old.runs id then 1 else 0) =
      (if new.runs id then 1 else 0) + times .ended id events)
    (settled : times .ended id events + (if old.settles id then 1 else 0) =
      (if new.settles id then 1 else 0) + times .completed id events) :
    Accounted id after := by
  obtain ⟨queuedBefore, startedBefore, endedBefore⟩ := accounted
  have runs := countP_set_add new found (Worker.runs id)
  have settles := countP_set_add new found (Worker.settles id)
  refine ⟨?_, ?_, ?_⟩
  · rw [journal, queue, JobEvent.times_append, JobEvent.times_append, JobEvent.times_append]
    omega
  · rw [journal, workers, JobEvent.times_append, JobEvent.times_append]
    omega
  · rw [journal, workers, JobEvent.times_append, JobEvent.times_append]
    omega

theorem Accounted.move {id : CallId} {before after : Executor Content}
    (accounted : Accounted id before) (move : Move before after) : Accounted id after := by
  obtain ⟨queued, started, ended⟩ := accounted
  cases move with
  | begun kind => exact ⟨queued, started, ended⟩
  | shifted other call next found shift => exact ⟨queued, started, ended⟩
  | accepted other kind mailbox found inhabited room =>
    refine ⟨?_, ?_, ?_⟩
    · simp only [record, setStage, push, times_cons, List.count_append, List.count_singleton]
      simp [JobEvent.phase, JobEvent.job]
      omega
    · simpa [record, setStage, push, times_cons, JobEvent.phase] using started
    · simpa [record, setStage, push, times_cons, JobEvent.phase] using ended
  | submitted other kind mailbox found =>
    refine ⟨?_, ?_, ?_⟩
    · simpa [record, setStage, times_cons, JobEvent.phase] using queued
    · simpa [record, setStage, times_cons, JobEvent.phase] using started
    · simpa [record, setStage, times_cons, JobEvent.phase] using ended
  | received index job rest found first =>
    have runs := countP_set_add (.running job) found (Worker.runs id)
    have settles := countP_set_add (.running job) found (Worker.settles id)
    rw [first, List.count_cons] at queued
    refine ⟨?_, ?_, ?_⟩
    · simp [record, setWorker, times_cons, JobEvent.phase, JobEvent.job] at queued ⊢
      omega
    · simp [record, setWorker, times_cons, JobEvent.phase, JobEvent.job, Worker.runs] at runs ⊢
      omega
    · simp [record, setWorker, times_cons, JobEvent.phase, Worker.settles] at settles ⊢
      omega
  | told index rest found first =>
    rw [first] at queued
    have shorter : Accounted id { before with queue := rest } := ⟨queued, started, ended⟩
    exact shorter.work found [] rfl rfl rfl rfl rfl rfl
  | finished index job outcome found =>
    -- A failed job is counted as failed first, and is still to be counted as completed either way.
    refine Accounted.work ⟨queued, started, ended⟩ found [.ended job outcome] rfl rfl rfl rfl ?_ ?_
    · cases failed : outcome.isFailed <;>
        simp [times_cons, times_nil, JobEvent.phase, JobEvent.job, phaseAfter, failed, Worker.runs]
    · cases failed : outcome.isFailed <;>
        simp [times_cons, times_nil, JobEvent.phase, JobEvent.job, phaseAfter, failed,
          Worker.settles]
  | judged index job outcome found =>
    exact Accounted.work ⟨queued, started, ended⟩ found [.failed job] rfl rfl rfl rfl rfl
      (Nat.add_comm _ _)
  | completed index job outcome found =>
    refine Accounted.work ⟨queued, started, ended⟩ found [.completed job] rfl rfl rfl rfl rfl ?_
    simp [times_cons, times_nil, JobEvent.phase, JobEvent.job, Worker.settles]
  | replied index job outcome found heard =>
    exact Accounted.work ⟨queued, started, ended⟩ found [] rfl rfl rfl rfl rfl rfl
  | unheard index job outcome found unheard =>
    exact Accounted.work ⟨queued, started, ended⟩ found [] rfl rfl rfl rfl rfl rfl
  | regretted index job found =>
    exact Accounted.work ⟨queued, started, ended⟩ found [.cancelled job] rfl rfl rfl rfl rfl rfl
  | left index found others =>
    exact Accounted.work ⟨queued, started, ended⟩ found [] rfl rfl rfl rfl rfl rfl
  | leftLast index found last =>
    have stopped : Accounted id (before.setWorker index .stopped) :=
      Accounted.work ⟨queued, started, ended⟩ found [] rfl rfl rfl rfl rfl rfl
    refine ⟨?_, ?_, ?_⟩
    · rw [discard_queue, times_discard, times_discard, times_discard, if_neg nofun, if_neg nofun,
        if_pos rfl, List.count_nil]
      have queuedStopped := stopped.queued
      omega
    · rw [discard_workers, times_discard, times_discard, if_neg nofun, if_neg nofun]
      exact stopped.started
    · rw [discard_workers, times_discard, times_discard, if_neg nofun, if_neg nofun]
      exact stopped.ended
  | shut running => exact ⟨queued, started, ended⟩
  | stopSent left stopping inhabited room =>
    refine ⟨?_, started, ended⟩
    simpa [push] using queued
  | stopSpared left stopping empty => exact ⟨queued, started, ended⟩
  | joined stopping empty => exact ⟨queued, started, ended⟩

theorem Accounted.new (id : CallId) (poolSize capacity : Nat) :
    Accounted id (Executor.new poolSize capacity : Executor Content) := by
  refine ⟨rfl, ?_, ?_⟩
  · simp [Executor.new, times_nil, List.countP_replicate, Worker.runs]
  · simp [Executor.new, times_nil, List.countP_replicate, Worker.settles]

theorem Reachable.accounted {poolSize capacity : Nat} {executor : Executor Content}
    (reached : Reachable poolSize capacity executor) (id : CallId) : Accounted id executor :=
  reached.move_induction (.new id poolSize capacity) fun _ _ move accounted => accounted.move move

/-! ### Jobs enter the queue once -/

/-- A job has entered the queue once at most, and not while its call stands before that. -/
structure EntersOnce (id : CallId) (executor : Executor Content) : Prop where
  once : times .queued id executor.journal ≤ 1
  before : (Call.stage? executor.calls id).all CallStage.isBefore = true →
    times .queued id executor.journal = 0

/-- No shift leads back to a stage before the queue. -/
theorem CallShift.isBefore {executor : Executor Content} {call : Call Content}
    {next : CallStage Content} (shift : CallShift executor call next)
    (early : next.isBefore = true) : call.stage.isBefore = true := by
  cases shift <;> first | rfl | cases early

/-- What neither writes an entry nor leads a call back keeps jobs from entering twice. -/
theorem EntersOnce.congr {id : CallId} {before after : Executor Content}
    (enters : EntersOnce id before)
    (journal : times .queued id after.journal = times .queued id before.journal)
    (stages : (Call.stage? after.calls id).all CallStage.isBefore = true →
      (Call.stage? before.calls id).all CallStage.isBefore = true) : EntersOnce id after :=
  ⟨journal ▸ enters.once, fun early => journal.trans (enters.before (stages early))⟩

/-- A call that does not go back to a stage before the queue leaves no call nearer to it. -/
theorem isBefore_of_setStage {executor : Executor Content} {id other : CallId}
    {call : Call Content} {next : CallStage Content} (found : executor.calls[other]? = some call)
    (onward : next.isBefore = true → call.stage.isBefore = true)
    (early : (Call.stage? (executor.setStage other next).calls id).all CallStage.isBefore = true) :
    (Call.stage? executor.calls id).all CallStage.isBefore = true := by
  rw [setStage, Call.stage?_setStage] at early
  by_cases same : other = id
  · subst same
    rw [if_pos rfl, Call.stage?, found] at early
    rw [Call.stage?, found]
    exact onward early
  · rw [if_neg same] at early
    exact early

theorem EntersOnce.move {id : CallId} {before after : Executor Content}
    (enters : EntersOnce id before) (move : Move before after) : EntersOnce id after := by
  cases move with
  | begun kind =>
    refine enters.congr rfl fun early => ?_
    by_cases known : id < before.calls.length
    · rw [Call.stage?, List.getElem?_append_left known] at early
      exact early
    · rw [Call.stage?, List.getElem?_eq_none (Nat.le_of_not_lt known)]
      rfl
  | shifted other call next found shift =>
    exact enters.congr rfl fun early => isBefore_of_setStage found shift.isBefore early
  | accepted other kind mailbox found inhabited room =>
    by_cases same : other = id
    · subst same
      have never : times .queued other before.journal = 0 := by
        refine enters.before ?_
        rw [Call.stage?, found]
        rfl
      refine ⟨?_, fun early => ?_⟩
      · simp [record, setStage, push, times_cons, JobEvent.phase, JobEvent.job, never]
      · simp only [record, setStage, push, Call.stage?_setStage, if_true] at early
        rw [Call.stage?, found] at early
        cases early
    · refine enters.congr ?_ fun early => ?_
      · simp [record, setStage, push, times_cons, JobEvent.job, same]
      · refine isBefore_of_setStage found (fun back => ?_) early
        cases back
  | submitted other kind mailbox found =>
    refine enters.congr rfl fun early => isBefore_of_setStage found (fun back => ?_) early
    cases back
  | replied index job outcome found heard =>
    refine enters.congr rfl fun early => ?_
    simp only [setWorker, setMailbox, Call.stage?_setMailbox] at early
    exact early
  | leftLast index found last =>
    refine enters.congr ?_ fun early => ?_
    · rw [times_discard, if_neg nofun]
      rfl
    · rw [discard_stage?] at early
      exact early
  | _ => exact enters.congr rfl fun early => early

theorem Reachable.entersOnce {poolSize capacity : Nat} {executor : Executor Content}
    (reached : Reachable poolSize capacity executor) (id : CallId) : EntersOnce id executor :=
  reached.move_induction ⟨Nat.zero_le 1, fun _ => rfl⟩ fun _ _ move enters => enters.move move

end Executor

end WalletBridge
