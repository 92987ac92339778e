/-
This file proves where a poll waits instead of giving its thread back. Calls never do: each of their
moves is possible at once, and there are only so many of them. The shutdown does in one state alone,
when a stop message is to be sent, the queue is full and a worker is left to empty it. Where one
thread polls all tasks, that is also the only way to get stuck: the workers that would make room run
jobs whose gates only the thread itself can open.
-/

import WalletBridge.Proofs.PollLimits

namespace WalletBridge

variable {Content : Type}

namespace Executor

/-! ### Polls that keep their thread -/

/-- A stop message is to be sent, and has to wait until a worker takes a message. -/
structure AwaitsRoom (executor : Executor Content) : Prop where
  sending : ∃ left, executor.closing = .stopping (left + 1)
  inhabited : executor.isDeserted = false
  full : executor.hasRoom = false

theorem pollCall_ne_block (id : CallId) (clock : PollClock) (call : Call Content) :
    pollCall id clock call ≠ .block := by
  obtain ⟨kind, stage, mailbox⟩ := call
  intro blocks
  cases stage with
  | pausing =>
    simp only [pollCall] at blocks
    split at blocks
    · cases blocks
    · split at blocks <;> cases blocks
  | waiting =>
    cases mailbox with
    | empty =>
      simp only [pollCall] at blocks
      split at blocks <;> cases blocks
    | filled reply => cases blocks
    | lost => cases blocks
  | missed =>
    simp only [pollCall] at blocks
    split at blocks <;> cases blocks
  | _ => cases blocks

theorem pollShutdown_eq_block {executor : Executor Content} :
    executor.pollShutdown = .block ↔ executor.AwaitsRoom := by
  constructor
  · intro blocks
    unfold pollShutdown at blocks
    split at blocks
    · cases blocks
    · rename_i left stopping
      split at blocks
      · cases blocks
      · rename_i stays
        obtain ⟨inhabited, full⟩ := Bool.or_eq_false_iff.mp (Bool.eq_false_iff.mpr stays)
        exact ⟨⟨left, stopping⟩, inhabited, full⟩
    · split at blocks <;> cases blocks
    · cases blocks
  · rintro ⟨⟨left, stopping⟩, inhabited, full⟩
    simp only [pollShutdown, stopping, inhabited, full]
    rfl

/-- Only the shutdown keeps its thread, and only while a stop message has to wait. -/
theorem poll_eq_block (executor : Executor Content) (clock : PollClock) (task : PolledTask) :
    executor.poll clock task = .block ↔ task = .shutdown ∧ executor.AwaitsRoom := by
  cases task with
  | call id =>
    refine ⟨fun blocks => ?_, fun ⟨isShutdown, _⟩ => by cases isShutdown⟩
    simp only [poll] at blocks
    split at blocks
    · exact absurd blocks (pollCall_ne_block id clock _)
    · cases blocks
  | shutdown => exact pollShutdown_eq_block.trans ⟨fun awaits => ⟨rfl, awaits⟩, fun both => both.2⟩

/-! ### The room in the queue -/

theorem foldl_discards_capacity (messages : List Message) (executor : Executor Content) :
    (messages.foldl
        (fun left message =>
          match message with
          | .run job => (left.setMailbox job .lost).record (.discarded job)
          | .stop => left)
        executor).capacity = executor.capacity := by
  induction messages generalizing executor with
  | nil => rfl
  | cons message rest inductionHypothesis =>
    cases message <;> exact inductionHypothesis _

theorem discard_capacity (executor : Executor Content) :
    executor.discard.capacity = executor.capacity :=
  foldl_discards_capacity executor.queue { executor with queue := [] }

theorem Move.capacity {before after : Executor Content} (move : Move before after) :
    after.capacity = before.capacity := by
  cases move with
  | leftLast index found last => exact discard_capacity _
  | _ => rfl

theorem Reachable.capacity_eq {poolSize capacity : Nat} {executor : Executor Content}
    (reached : Reachable poolSize capacity executor) : executor.capacity = max capacity 1 :=
  reached.move_induction (by rfl) fun _ _ move same => move.capacity.trans same

/-- A queue without room holds a message. -/
theorem Reachable.queue_ne_nil {poolSize capacity : Nat} {executor : Executor Content}
    (reached : Reachable poolSize capacity executor) (full : executor.hasRoom = false) :
    executor.queue ≠ [] := by
  intro empty
  have room : executor.queue.length < executor.capacity := by
    rw [empty, reached.capacity_eq]
    exact Nat.le_max_right capacity 1
  rw [hasRoom, decide_eq_true room] at full
  cases full

end Executor

/-! ### Workers that are held up -/

/-- Whether a worker can do nothing, because it has left or because the gate of its job is shut. -/
def Worker.isHeld (gated : List CallId) : Worker Content → Bool
  | .stopped => true
  | .running job => gated.contains job
  | _ => false

/-- The worker that takes a step. -/
def ExecutorStep.worker? : ExecutorStep Content → Option Nat
  | .receive index | .finish index _ | .judge index | .complete index | .reply index
  | .regret index | .leave index => some index
  | _ => none

theorem Executor.step?_of_worker? {executor : Executor Content} {step : ExecutorStep Content}
    {index : Nat} (own : step.worker? = some index) :
    executor.step? step =
      executor.workers[index]?.bind fun worker => executor.stepWorker index worker step := by
  cases step with
  | receive other | finish other outcome | judge other | complete other | reply other
  | regret other | leave other =>
    obtain rfl : other = index := Option.some.inj own
    simp only [step?]
    cases executor.workers[other]? <;> rfl
  | _ => cases own

namespace PollingThread

theorem worker?_of_isFreeWork {thread : PollingThread Content} {step : ExecutorStep Content}
    (free : thread.isFreeWork step = true) : ∃ index, step.worker? = some index := by
  cases step with
  | receive index | finish index outcome | judge index | complete index | reply index
  | regret index | leave index => exact ⟨index, rfl⟩
  | _ => cases free

/-- A worker that is not held up can do something, when the queue holds a message. -/
theorem freeWork_of_not_held {thread : PollingThread Content} {index : Nat}
    {worker : Worker Content} (found : thread.executor.workers[index]? = some worker)
    (free : worker.isHeld thread.gated = false) (queue : thread.executor.queue ≠ []) :
    ∃ step after, thread.step? (.work step) = some after := by
  have works (step : ExecutorStep Content) (own : step.worker? = some index)
      (isFree : thread.isFreeWork step = true)
      (possible : (thread.executor.stepWorker index worker step).isSome = true) :
      ∃ step after, thread.step? (.work step) = some after := by
    obtain ⟨executor, taken⟩ := Option.isSome_iff_exists.mp possible
    refine ⟨step, { thread with executor := executor }, ?_⟩
    simp only [step?, isFree, if_true, Executor.step?_of_worker? own, found, Option.bind_some,
      taken, Option.map_some]
  cases worker with
  | idle =>
    refine works (.receive index) rfl rfl ?_
    obtain ⟨message, rest, first⟩ := List.exists_cons_of_ne_nil queue
    cases message <;> simp only [Executor.stepWorker, first, Option.isSome_some]
  | running job =>
    refine works (.finish index (.halted ⟨""⟩)) rfl ?_ rfl
    simp only [isFreeWork, found]
    rw [show thread.gated.contains job = false from free]
    rfl
  | ended job outcome => exact works (.judge index) rfl rfl rfl
  | judged job outcome => exact works (.complete index) rfl rfl rfl
  | counted job outcome => exact works (.reply index) rfl rfl rfl
  | unheard job => exact works (.regret index) rfl rfl rfl
  | leaving => exact works (.leave index) rfl rfl rfl
  | stopped => cases free

/-- A worker that is held up has no step that it may take. -/
theorem stepWorker_eq_none {thread : PollingThread Content} {index : Nat}
    {worker : Worker Content} {step : ExecutorStep Content}
    (found : thread.executor.workers[index]? = some worker)
    (held : worker.isHeld thread.gated = true) (own : step.worker? = some index)
    (free : thread.isFreeWork step = true) :
    thread.executor.stepWorker index worker step = none := by
  cases worker with
  | stopped => cases step <;> rfl
  | running job =>
    cases step with
    | finish other outcome =>
      obtain rfl : other = index := Option.some.inj own
      simp only [isFreeWork, found] at free
      rw [show thread.gated.contains job = true from held] at free
      cases free
    | _ => rfl
  | _ => cases held

/-- Workers that are all held up do nothing. -/
theorem step?_work_eq_none {thread : PollingThread Content}
    (held : ∀ worker ∈ thread.executor.workers, worker.isHeld thread.gated = true)
    (step : ExecutorStep Content) : thread.step? (.work step) = none := by
  cases free : thread.isFreeWork step with
  | false => simp only [step?, free, Bool.false_eq_true, if_false]
  | true =>
    obtain ⟨index, own⟩ := worker?_of_isFreeWork free
    simp only [step?, free, if_true, Executor.step?_of_worker? own]
    cases found : thread.executor.workers[index]? with
    | none => rfl
    | some worker =>
      rw [Option.bind_some,
        stepWorker_eq_none found (held worker (List.mem_of_getElem? found)) own free]
      rfl

/-! ### What the thread leads to -/

/-- A step of a thread is a step of its executor, or leaves the executor as it is. -/
theorem executor_of_step? {before after : PollingThread Content} {step : PollingStep Content}
    (taken : before.step? step = some after) :
    after.executor = before.executor ∨
      ∃ own, before.executor.step? own = some after.executor := by
  have mapped {own : ExecutorStep Content} {change : Executor Content → PollingThread Content}
      (same : ∀ executor, (change executor).executor = executor)
      (changed : (before.executor.step? own).map change = some after) :
      after.executor = before.executor ∨
        ∃ own, before.executor.step? own = some after.executor := by
    obtain ⟨executor, stepped, rfl⟩ := Option.map_eq_some_iff.mp changed
    exact .inr ⟨own, by rw [stepped, same]⟩
  cases step with
  | begin | drop | work =>
    simp only [step?] at taken
    split at taken
    · exact mapped (fun _ => rfl) taken
    · cases taken
  | enter | «open» =>
    simp only [step?] at taken
    split at taken <;> cases taken
    exact .inl rfl
  | go clock =>
    simp only [step?, go?] at taken
    split at taken
    · cases taken
    · split at taken
      · exact mapped (fun _ => rfl) taken
      · cases taken
        exact .inl rfl
      · cases taken
        exact .inl rfl
      · cases taken

/-- The executor of a thread is one that steps lead to. -/
theorem Reachable.executor {poolSize capacity : Nat} {thread : PollingThread Content}
    (reached : Reachable poolSize capacity thread) :
    Executor.Reachable poolSize capacity thread.executor := by
  induction reached with
  | new => exact .new
  | step reached taken inductionHypothesis =>
    rcases executor_of_step? taken with same | ⟨own, stepped⟩
    · rw [same]
      exact inductionHypothesis
    · exact inductionHypothesis.step stepped

/-- A poll that does not keep its thread goes on or ends. -/
theorem Reachable.go?_eq_none {poolSize capacity : Nat} {thread : PollingThread Content}
    {task : PolledTask} (reached : Reachable poolSize capacity thread)
    (polling : thread.polling = some task) (clock : PollClock) :
    thread.go? clock = none ↔ task = .shutdown ∧ thread.executor.AwaitsRoom := by
  rw [← thread.executor.poll_eq_block clock task]
  simp only [go?, polling]
  cases next : thread.executor.poll clock task with
  | step step =>
    obtain ⟨after, possible, _⟩ := reached.executor.poll_step next
    simp [possible]
  | suspend => simp
  | block => simp
  | finish => simp

/-- One thread gets stuck exactly when the shutdown waits for room on it, and the workers that have
not left run jobs whose gates are shut. -/
theorem Reachable.isStuck_iff {poolSize capacity : Nat} {thread : PollingThread Content}
    (reached : Reachable poolSize capacity thread) :
    thread.IsStuck ↔ thread.polling = some .shutdown ∧ thread.executor.AwaitsRoom ∧
      ∀ worker ∈ thread.executor.workers, worker.isHeld thread.gated = true := by
  constructor
  · rintro ⟨busy, nothing⟩
    obtain ⟨task, polling⟩ := Option.isSome_iff_exists.mp busy
    obtain ⟨rfl, awaits⟩ := (reached.go?_eq_none polling ⟨false, false⟩).mp (nothing (.go _))
    refine ⟨polling, awaits, fun worker member => ?_⟩
    obtain ⟨index, found⟩ := List.getElem?_of_mem member
    -- A worker that is free would take a step: a queue without room holds a message for it.
    refine (Bool.not_eq_false _).mp fun free => ?_
    have queue := reached.executor.queue_ne_nil awaits.full
    obtain ⟨step, after, taken⟩ := freeWork_of_not_held found free queue
    rw [nothing] at taken
    cases taken
  · rintro ⟨polling, awaits, held⟩
    refine ⟨by rw [polling]; rfl, fun step => ?_⟩
    cases step with
    | go clock => exact (reached.go?_eq_none polling clock).mpr ⟨rfl, awaits⟩
    | work own => exact step?_work_eq_none held own
    | _ => simp only [step?, polling]

/-- What a caller can rely on, in every state that an executor can reach. A poll keeps its thread only
where the shutdown has a stop message to send into a full queue that a worker still empties;
everywhere else its next move is possible at once, whatever the queue holds and whatever the workers
do. It makes a bounded number of moves, whatever others do in between. And a thread that polls all
tasks gets stuck only in such a shutdown, when every worker that has not left waits for the thread
itself. -/
theorem only_crowded_shutdown_keeps_thread (poolSize capacity : Nat) :
    (∀ executor : Executor Content, Executor.Reachable poolSize capacity executor →
      ∀ (clock : PollClock) (task : PolledTask),
        (executor.poll clock task = .block ↔ task = .shutdown ∧ executor.AwaitsRoom) ∧
        ∀ step, executor.poll clock task = .step step →
          ∃ after, executor.step? step = some after) ∧
    (∀ start after : Executor Content, Executor.Reachable poolSize capacity start →
      ∀ (task : PolledTask) (isLate isAwake : Bool) (moves : Nat),
        Executor.DuringPoll task isLate start isAwake moves after → moves ≤ poolSize + 10) ∧
    ∀ thread : PollingThread Content, Reachable poolSize capacity thread →
      (thread.IsStuck ↔ thread.polling = some .shutdown ∧ thread.executor.AwaitsRoom ∧
        ∀ worker ∈ thread.executor.workers, worker.isHeld thread.gated = true) := by
  refine ⟨fun executor reached clock task => ⟨executor.poll_eq_block clock task, ?_⟩, ?_, ?_⟩
  · intro step next
    obtain ⟨after, possible, _⟩ := reached.poll_step next
    exact ⟨after, possible⟩
  · intro start after reached task isLate isAwake moves during
    exact during.moves_le reached
  · intro thread reached
    exact reached.isStuck_iff

/-- Takes steps one after another, when all are possible. -/
def run? (thread : PollingThread Content) :
    List (PollingStep Content) → Option (PollingThread Content)
  | [] => some thread
  | step :: rest => (thread.step? step).bind fun after => after.run? rest

/-- What a run leads to is reachable. -/
theorem Reachable.run {poolSize capacity : Nat} {thread after : PollingThread Content}
    {steps : List (PollingStep Content)} (reached : Reachable poolSize capacity thread)
    (ran : thread.run? steps = some after) : Reachable poolSize capacity after := by
  induction steps generalizing thread with
  | nil => exact Option.some.inj ran ▸ reached
  | cons step rest inductionHypothesis =>
    obtain ⟨between, taken, ranRest⟩ := Option.bind_eq_some_iff.mp ran
    exact inductionHypothesis (reached.step taken) ranRest

/-- A call that queues its job at once and waits for the reply. -/
def queueingSteps (call : CallId) (isGated : Bool) : List (PollingStep Nat) :=
  [.begin .immediate isGated, .enter (.call call)] ++ List.replicate 4 (.go ⟨false, false⟩)

/-- The only worker runs a job whose gate is shut, and another job fills the queue. -/
def crowdingSteps : List (PollingStep Nat) :=
  queueingSteps 0 true ++ [.work (.receive 0)] ++ queueingSteps 1 false

/-- A call that finds the queue full comes to its next pause, and the thread is not stuck. -/
theorem only_crowded_shutdown_keeps_thread_patient :
    ∃ (thread : PollingThread Nat) (isAwake : Bool) (after : Executor Nat),
      (PollingThread.new 1 1).run? (crowdingSteps ++ [.begin .patient false, .enter (.call 2)]) =
          some thread ∧
        thread.executor.hasRoom = false ∧
        thread.executor.poll ⟨true, false⟩ (.call 2) ≠ .block ∧
        Executor.DuringPoll (.call 2) false thread.executor isAwake 6 after ∧ 6 ≤ 1 + 10 ∧
        ¬thread.IsStuck := by
  obtain ⟨thread, ran, full, polling⟩ :
      ∃ thread : PollingThread Nat,
        (PollingThread.new 1 1).run?
            (crowdingSteps ++ [.begin .patient false, .enter (.call 2)]) = some thread ∧
          thread.executor.hasRoom = false ∧ thread.polling = some (.call 2) :=
    ⟨_, rfl, rfl, rfl⟩
  -- It is admitted, finds the queue full, pauses, and does so once more after the pause.
  obtain ⟨isAwake, after, during⟩ :
      ∃ isAwake after,
        Executor.DuringPoll (.call 2) false thread.executor isAwake 6 after := by
    cases ran
    exact ⟨_, _, .wentOn (.wentOn (.wentOn (.wentOn (.wentOn (.wentOn (.begun true) rfl rfl)
      rfl rfl) rfl rfl) rfl rfl) rfl rfl) rfl rfl⟩
  have reached : Reachable 1 1 thread := Reachable.new.run ran
  obtain ⟨keeps, ends, sticks⟩ := only_crowded_shutdown_keeps_thread 1 1
  refine ⟨thread, isAwake, after, ran, full, fun blocks => ?_, during,
    ends thread.executor after reached.executor (.call 2) false isAwake 6 during, fun stuck => ?_⟩
  · obtain ⟨isShutdown, _⟩ :=
      (keeps thread.executor reached.executor ⟨true, false⟩ (.call 2)).1.mp blocks
    cases isShutdown
  · obtain ⟨isShutdown, _⟩ := (sticks thread reached).mp stuck
    rw [polling] at isShutdown
    cases isShutdown

/-- A shutdown that is polled while the queue is full keeps the only thread that could open the gate
of the job that the only worker runs. -/
theorem crowded_shutdown_sticks :
    ∃ thread : PollingThread Nat, Reachable 1 1 thread ∧ thread.gated = [0] ∧
      (∀ clock, thread.executor.poll clock .shutdown = .block) ∧ thread.IsStuck := by
  obtain ⟨thread, ran, gated, polling, closing, inhabited, full, workers⟩ :
      ∃ thread : PollingThread Nat,
        (PollingThread.new 1 1).run? (crowdingSteps ++ [.enter .shutdown, .go ⟨false, false⟩]) =
            some thread ∧
          thread.gated = [0] ∧ thread.polling = some .shutdown ∧
          thread.executor.closing = .stopping 1 ∧ thread.executor.isDeserted = false ∧
          thread.executor.hasRoom = false ∧ thread.executor.workers = [.running 0] :=
    ⟨_, rfl, rfl, rfl, rfl, rfl, rfl, rfl⟩
  have reached : Reachable 1 1 thread := Reachable.new.run ran
  have awaits : thread.executor.AwaitsRoom := ⟨⟨0, closing⟩, inhabited, full⟩
  refine ⟨thread, reached, gated, fun clock => ?_, ?_⟩
  · exact (thread.executor.poll_eq_block clock .shutdown).mpr ⟨rfl, awaits⟩
  · refine reached.isStuck_iff.mpr ⟨polling, awaits, fun worker member => ?_⟩
    rw [workers, List.mem_singleton] at member
    rw [member, gated]
    rfl

end PollingThread

end WalletBridge
