/-
This file sorts the steps of an executor by who takes them. A worker takes the first message of the
queue, or goes on with what it has; whoever is not a worker leaves the workers as they are and
appends messages to the queue at most. A worker that is not done has always a step to take, unless
it waits in front of an empty queue. And a job keeps a worker for five steps at most, so only so
many steps of workers come before a queued job is started, however many jobs come behind it.
-/

import WalletBridge.Proofs.BlockedPolls

namespace WalletBridge

variable {Content : Type}

/-! ### Workers and what they take -/

/-- How many steps a worker has left at most with what it has. -/
def Worker.chores : Worker Content → Nat
  | .idle => 0
  | .running _ => 5
  | .ended _ _ => 4
  | .judged _ _ => 3
  | .counted _ _ => 2
  | .unheard _ => 1
  | .leaving => 1
  | .stopped => 0

/-- How many steps workers have left together. -/
def Worker.allChores : List (Worker Content) → Nat
  | [] => 0
  | worker :: rest => worker.chores + allChores rest

/-- Replacing one worker changes the steps that are left by those of the two workers. -/
theorem Worker.allChores_set {workers : List (Worker Content)} {index : Nat}
    {old : Worker Content} (new : Worker Content) (found : workers[index]? = some old) :
    allChores (workers.set index new) + old.chores = allChores workers + new.chores := by
  induction workers generalizing index with
  | nil => cases found
  | cons worker rest inductionHypothesis =>
    cases index with
    | zero =>
      cases found
      simp only [List.set_cons_zero, allChores]
      omega
    | succ index =>
      have later := inductionHypothesis found
      simp only [List.set_cons_succ, allChores]
      omega

/-- What a worker does that has taken a message. -/
def Worker.taking : Message → Worker Content
  | .run job => .running job
  | .stop => .leaving

theorem Worker.chores_taking_le (message : Message) :
    (taking message : Worker Content).chores ≤ 5 := by
  cases message with
  | run job => exact Nat.le_refl 5
  | stop => exact Nat.le_of_ble_eq_true rfl

/-- A worker that has something to do has not left. -/
theorem Worker.not_stopped_of_chores {worker : Worker Content} (busy : 0 < worker.chores) :
    worker.isStopped = false := by
  cases worker with
  | stopped => cases busy
  | _ => rfl

/-- The worker that takes a message. -/
def ExecutorStep.taker? : ExecutorStep Content → Option Nat
  | .receive index => some index
  | _ => none

/-- Whether a worker takes a step. -/
def ExecutorStep.isWork (step : ExecutorStep Content) : Bool := step.worker?.isSome

namespace Executor

open JobEvent (times)

/-! ### Whose turn it is -/

/-- What a step does to the workers and the queue, by who takes it. -/
inductive Turn (before : Executor Content) :
    ExecutorStep Content → Executor Content → Prop where
  /-- A step of a call or of the shutdown. -/
  | aside {step : ExecutorStep Content} {after : Executor Content} (others : step.worker? = none)
      (workers : after.workers = before.workers) (messages : List Message)
      (queue : after.queue = before.queue ++ messages) : Turn before step after
  | took {after : Executor Content} (index : Nat) (message : Message)
      (found : before.workers[index]? = some .idle)
      (first : before.queue = message :: after.queue)
      (workers : after.workers = before.workers.set index (.taking message))
      (begun : ∀ job, message = .run job → 0 < times .started job after.journal) :
    Turn before (.receive index) after
  /-- A worker goes on with what it has. The last one that leaves empties the queue. -/
  | wentOn {step : ExecutorStep Content} {after : Executor Content} (index : Nat)
      (old new : Worker Content) (own : step.worker? = some index) (takesNone : step.taker? = none)
      (found : before.workers[index]? = some old)
      (workers : after.workers = before.workers.set index new)
      (fewer : new.chores < old.chores) (serves : new.serves = old.serves)
      (queue : after.queue = before.queue ∨ after.queue = [] ∧ after.isDeserted = true) :
    Turn before step after

theorem offer_turn (before : Executor Content) (id : CallId) (kind : CallKind) :
    (before.offer id kind).workers = before.workers ∧
      ∃ messages, (before.offer id kind).queue = before.queue ++ messages := by
  unfold offer
  cases before.isDeserted with
  | true => exact ⟨rfl, [], (List.append_nil _).symm⟩
  | false =>
    cases before.hasRoom with
    | true => exact ⟨rfl, [.run id], rfl⟩
    | false => cases kind <;> exact ⟨rfl, [], (List.append_nil _).symm⟩

theorem stepCall_turn {before after : Executor Content} {id : CallId} {call : Call Content}
    {step : ExecutorStep Content} (taken : before.stepCall id call step = some after) :
    after.workers = before.workers ∧ ∃ messages, after.queue = before.queue ++ messages := by
  cases step with
  | check _ | recheck _ =>
    simp only [stepCall] at taken
    split at taken
    · cases taken
      cases before.isRunning <;> exact ⟨rfl, [], (List.append_nil _).symm⟩
    · cases taken
  | offer _ =>
    simp only [stepCall] at taken
    split at taken
    · cases taken
      exact before.offer_turn id call.kind
    · cases taken
  | retry _ | count _ | take _ | miss _ | resume _ | expire _ | giveUp _ | abandon _ =>
    simp only [stepCall] at taken
    split at taken <;> cases taken <;> exact ⟨rfl, [], (List.append_nil _).symm⟩
  | _ => cases taken

theorem stepClosing_turn {before after : Executor Content} {step : ExecutorStep Content}
    (taken : before.stepClosing step = some after) :
    after.workers = before.workers ∧ ∃ messages, after.queue = before.queue ++ messages := by
  cases step with
  | shut =>
    simp only [stepClosing] at taken
    split at taken <;> cases taken
    exact ⟨rfl, [], (List.append_nil _).symm⟩
  | stop =>
    simp only [stepClosing] at taken
    split at taken
    · split at taken
      · cases taken
        exact ⟨rfl, [], (List.append_nil _).symm⟩
      · split at taken <;> cases taken
        exact ⟨rfl, [.stop], rfl⟩
    · cases taken
  | join =>
    simp only [stepClosing] at taken
    split at taken
    · split at taken <;> cases taken
      exact ⟨rfl, [], (List.append_nil _).symm⟩
    · cases taken
  | _ => cases taken

theorem phaseAfter_turn (job : CallId) (outcome : Outcome Content) :
    (phaseAfter job outcome).chores < (Worker.running job : Worker Content).chores ∧
      (phaseAfter job outcome).serves = (Worker.running job : Worker Content).serves := by
  unfold phaseAfter
  cases outcome.isFailed with
  | true => exact ⟨(by decide : 4 < 5), rfl⟩
  | false => exact ⟨(by decide : 3 < 5), rfl⟩

theorem stepWorker_turn {before after : Executor Content} {index : Nat} {worker : Worker Content}
    {step : ExecutorStep Content} (own : step.worker? = some index)
    (found : before.workers[index]? = some worker)
    (taken : before.stepWorker index worker step = some after) : Turn before step after := by
  cases step with
  | receive other =>
    obtain rfl : other = index := Option.some.inj own
    simp only [stepWorker] at taken
    split at taken
    · rename_i job rest first
      cases taken
      refine .took other (.run job) found first rfl ?_
      rintro _ ⟨⟩
      rw [record, JobEvent.times_cons, if_pos ⟨rfl, rfl⟩]
      exact Nat.succ_pos _
    · rename_i rest first
      cases taken
      exact .took other .stop found first rfl fun _ same => by cases same
    · cases taken
  | finish other outcome =>
    simp only [stepWorker] at taken
    split at taken
    · rename_i job
      cases taken
      obtain ⟨fewer, serves⟩ := phaseAfter_turn job outcome
      exact .wentOn index (.running job) (phaseAfter job outcome) own rfl found rfl fewer serves
        (.inl rfl)
    · cases taken
  | judge other =>
    simp only [stepWorker] at taken
    split at taken
    · rename_i job outcome
      cases taken
      exact .wentOn index (.ended job outcome) (.judged job outcome) own rfl found rfl
        (by decide : 3 < 4) rfl (.inl rfl)
    · cases taken
  | complete other =>
    simp only [stepWorker] at taken
    split at taken
    · rename_i job outcome
      cases taken
      exact .wentOn index (.judged job outcome) (.counted job outcome) own rfl found rfl
        (by decide : 2 < 3) rfl (.inl rfl)
    · cases taken
  | reply other =>
    simp only [stepWorker] at taken
    split at taken
    · rename_i job outcome
      have unheard : Turn before (.reply other) (before.setWorker index (.unheard job)) :=
        .wentOn index (.counted job outcome) (.unheard job) own rfl found rfl (by decide : 1 < 2)
          rfl (.inl rfl)
      cases taken
      split
      · split
        · exact .wentOn index (.counted job outcome) .idle own rfl found rfl (by decide : 0 < 2)
            rfl (.inl rfl)
        · exact unheard
      · exact unheard
    · cases taken
  | regret other =>
    simp only [stepWorker] at taken
    split at taken
    · rename_i job
      cases taken
      exact .wentOn index (.unheard job) .idle own rfl found rfl Nat.one_pos rfl (.inl rfl)
    · cases taken
  | leave other =>
    simp only [stepWorker] at taken
    split at taken
    · cases taken
      cases last : (before.setWorker index .stopped).isDeserted with
      | true =>
        refine .wentOn index .leaving .stopped own rfl found ?_ Nat.one_pos rfl (.inr ⟨?_, ?_⟩)
        · rw [if_pos rfl, discard_workers]
          rfl
        · rw [if_pos rfl, discard_queue]
        · rw [if_pos rfl, isDeserted, discard_workers]
          exact last
      | false =>
        exact .wentOn index .leaving .stopped own rfl found rfl Nat.one_pos rfl (.inl rfl)
    · cases taken
  | _ => cases own

/-- Every step is somebody's turn. -/
theorem step?_turn {before after : Executor Content} {step : ExecutorStep Content}
    (taken : before.step? step = some after) : Turn before step after := by
  cases own : step.worker? with
  | some index =>
    rw [step?_of_worker? own] at taken
    obtain ⟨worker, found, worked⟩ := Option.bind_eq_some_iff.mp taken
    exact stepWorker_turn own found worked
  | none =>
    have aside (leaves : after.workers = before.workers ∧
        ∃ messages, after.queue = before.queue ++ messages) : Turn before step after :=
      leaves.2.elim fun messages queue => .aside own leaves.1 messages queue
    cases step with
    | begin kind =>
      cases taken
      exact aside ⟨rfl, [], (List.append_nil _).symm⟩
    | check id | offer id | recheck id | retry id | count id | take id | miss id | resume id
    | expire id | giveUp id | abandon id =>
      simp only [step?] at taken
      split at taken
      · exact aside (stepCall_turn taken)
      · cases taken
    | shut | stop | join =>
      simp only [step?] at taken
      exact aside (stepClosing_turn taken)
    | _ => cases own

/-! ### Workers that can go on -/

/-- A worker can take a step, unless it has left or waits in front of an empty queue. -/
theorem exists_work {executor : Executor Content} {index : Nat} {worker : Worker Content}
    (found : executor.workers[index]? = some worker) (present : worker.isStopped = false)
    (fed : 0 < worker.chores ∨ executor.queue ≠ []) :
    ∃ step after, step.worker? = some index ∧ executor.step? step = some after := by
  have works (step : ExecutorStep Content) (own : step.worker? = some index)
      (possible : (executor.stepWorker index worker step).isSome = true) :
      ∃ step after, step.worker? = some index ∧ executor.step? step = some after := by
    obtain ⟨after, taken⟩ := Option.isSome_iff_exists.mp possible
    refine ⟨step, after, own, ?_⟩
    rw [step?_of_worker? own, found]
    exact taken
  cases worker with
  | idle =>
    refine works (.receive index) rfl ?_
    obtain ⟨message, rest, first⟩ := List.exists_cons_of_ne_nil (fed.resolve_left (Nat.lt_irrefl 0))
    cases message <;> simp only [stepWorker, first, Option.isSome_some]
  | running job => exact works (.finish index (.halted ⟨""⟩)) rfl rfl
  | ended job outcome => exact works (.judge index) rfl rfl
  | judged job outcome => exact works (.complete index) rfl rfl
  | counted job outcome => exact works (.reply index) rfl rfl
  | unheard job => exact works (.regret index) rfl rfl
  | leaving => exact works (.leave index) rfl rfl
  | stopped => cases present

/-! ### Steps before a job is started -/

/-- How many steps workers can take at most before a job in the queue is started: each message up
to it is taken and keeps its worker busy. -/
def stepsBefore (id : CallId) (executor : Executor Content) : Nat :=
  6 * (executor.queue.idxOf (.run id) + 1) + Worker.allChores executor.workers

/-- While a job waits, every step of a worker brings it nearer to its start, and no other step
takes it further away. -/
theorem Turn.stepsBefore_le {before after : Executor Content} {step : ExecutorStep Content}
    {id : CallId} (turn : Turn before step after) (once : before.queue.count (.run id) ≤ 1)
    (waited : .run id ∈ before.queue) (waits : .run id ∈ after.queue) :
    after.stepsBefore id + (if step.isWork then 1 else 0) ≤ before.stepsBefore id := by
  unfold stepsBefore
  cases turn with
  | aside others workers messages queue =>
    rw [workers, queue, List.idxOf_append, if_pos waited, ExecutorStep.isWork, others]
    exact Nat.le_refl _
  | took index message found first workers begun =>
    have other : message ≠ .run id := by
      rintro rfl
      have again := List.count_pos_iff.mpr waits
      rw [first, List.count_cons_self] at once
      omega
    have nearer : before.queue.idxOf (.run id) = after.queue.idxOf (.run id) + 1 := by
      rw [first, List.idxOf_cons, beq_eq_false_iff_ne.mpr other]
      rfl
    have kept := Worker.allChores_set (.taking message) found
    have few : (Worker.taking message : Worker Content).chores ≤ 5 :=
      Worker.chores_taking_le message
    rw [← workers] at kept
    have idle : (Worker.idle : Worker Content).chores = 0 := rfl
    have isWork : (ExecutorStep.receive index : ExecutorStep Content).isWork = true := rfl
    rw [nearer, isWork, if_pos rfl]
    omega
  | wentOn index old new own takesNone found workers fewer serves queue =>
    have same : after.queue = before.queue := by
      refine queue.resolve_right fun ⟨empty, _⟩ => ?_
      rw [empty] at waits
      cases waits
    have kept := Worker.allChores_set new found
    rw [← workers] at kept
    have isWork : step.isWork = true := by
      rw [ExecutorStep.isWork, own]
      rfl
    rw [same, isWork, if_pos rfl]
    omega

/-! ### Jobs that wait in the queue -/

/-- A job that entered the queue and has neither been started nor thrown away is in it, once. -/
theorem Accounted.count_eq_one {id : CallId} {executor : Executor Content}
    (accounted : Accounted id executor) (enters : EntersOnce id executor)
    (entered : 0 < times .queued id executor.journal)
    (waits : times .started id executor.journal = 0)
    (kept : times .discarded id executor.journal = 0) :
    executor.queue.count (.run id) = 1 := by
  have once := enters.once
  have queued := accounted.queued
  omega

/-- While a job waits, it comes nearer to its start by every step of a worker in a run. -/
theorem stepsBefore_add_le {poolSize capacity : Nat} {executor after : Executor Content}
    {id : CallId} {steps : List (ExecutorStep Content)}
    (reached : Reachable poolSize capacity executor)
    (entered : 0 < times .queued id executor.journal)
    (ran : executor.run? steps = some after)
    (waits : times .started id after.journal = 0)
    (kept : times .discarded id after.journal = 0) :
    after.stepsBefore id + steps.countP ExecutorStep.isWork ≤ executor.stepsBefore id := by
  induction steps generalizing executor with
  | nil =>
    cases ran
    exact Nat.le_refl _
  | cons step rest inductionHypothesis =>
    obtain ⟨between, taken, ranRest⟩ := Option.bind_eq_some_iff.mp ran
    have reachedBetween := reached.step taken
    have move := step?_move taken
    have enteredBetween := Nat.lt_of_lt_of_le entered (move.times_le .queued id)
    have startedBetween := times_le_of_run ranRest .started id
    have discardedBetween := times_le_of_run ranRest .discarded id
    have startedBefore := move.times_le .started id
    have discardedBefore := move.times_le .discarded id
    have here := (reached.accounted id).count_eq_one (reached.entersOnce id) entered
      (by omega) (by omega)
    have there := (reachedBetween.accounted id).count_eq_one (reachedBetween.entersOnce id)
      enteredBetween (by omega) (by omega)
    have nearer := (step?_turn taken).stepsBefore_le (Nat.le_of_eq here)
      (List.count_pos_iff.mp (by omega)) (List.count_pos_iff.mp (by omega))
    have later := inductionHypothesis reachedBetween enteredBetween ranRest
    rw [List.countP_cons]
    omega

/-- A job that is not thrown away is started once workers have taken so many steps. -/
theorem started_of_work {poolSize capacity : Nat} {executor after : Executor Content}
    {id : CallId} {steps : List (ExecutorStep Content)}
    (reached : Reachable poolSize capacity executor)
    (entered : 0 < times .queued id executor.journal)
    (ran : executor.run? steps = some after)
    (kept : times .discarded id after.journal = 0)
    (enough : executor.stepsBefore id ≤ steps.countP ExecutorStep.isWork) :
    times .started id after.journal = 1 := by
  have reachedAfter := reached.run ran
  have once := (reachedAfter.entersOnce id).once
  have queued := (reachedAfter.accounted id).queued
  refine Nat.le_antisymm (by omega) (Nat.pos_of_ne_zero fun waits => ?_)
  have spent := stepsBefore_add_le reached entered ran waits kept
  unfold stepsBefore at spent enough
  omega

/-! ### Before the shutdown -/

/-- A shutdown that has begun is not taken back. -/
theorem Move.open_of_open {before after : Executor Content} (move : Move before after)
    (isOpen : after.closing = .open) : before.closing = .open := by
  cases move with
  | leftLast index found last =>
    rw [discard_closing] at isOpen
    exact isOpen
  | shut running => cases isOpen
  | stopSent left stopping inhabited room => cases isOpen
  | stopSpared left stopping empty => cases isOpen
  | joined stopping empty => cases isOpen
  | _ => exact isOpen

/-- Before the shutdown nobody has taken a stop message. -/
theorem Staffed.serves_of_open {executor : Executor Content} (staffed : Staffed executor)
    (isOpen : executor.closing = .open) {worker : Worker Content}
    (member : worker ∈ executor.workers) : worker.serves = true := by
  have stops := staffed.stops
  have atMost : executor.serving ≤ executor.workers.length := List.countP_le_length
  simp only [stopsToCome, isOpen] at stops
  have all : executor.serving = executor.workers.length := by omega
  exact List.countP_eq_length.mp all worker member

/-- Before the shutdown no job is thrown away. -/
theorem Reachable.not_discarded {poolSize capacity : Nat} {executor : Executor Content}
    (reached : Reachable poolSize capacity executor) (isOpen : executor.closing = .open)
    (id : CallId) : times .discarded id executor.journal = 0 := by
  induction reached with
  | new => rfl
  | step reached taken inductionHypothesis =>
    have move := step?_move taken
    have openBefore := move.open_of_open isOpen
    have never := inductionHypothesis openBefore
    cases move with
    | leftLast index found last =>
      have serves := reached.staffed.serves_of_open openBefore (List.mem_of_getElem? found)
      cases serves
    | _ => exact never

end Executor

end WalletBridge
