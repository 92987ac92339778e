/-
This file follows the stop messages of a shutdown from the one who sends them to the workers who
take them. The queue passes messages on in the order in which they entered it, and none is lost as
long as a worker is left. Each worker leaves at the first stop message that it takes, and there is
one for each. So when the last worker has left, all of them were taken, and so was every job before
the last of them. Until then somebody can go on: a worker that has a job or finds a message, or the
shutdown, because an empty queue has room for the next stop message.
-/

import WalletBridge.Proofs.WorkerTurns

namespace WalletBridge

variable {Content : Type}

/-- Who takes messages is a worker. -/
theorem ExecutorStep.taker?_eq_none {step : ExecutorStep Content} (others : step.worker? = none) :
    step.taker? = none := by
  cases step with
  | receive index => cases others
  | _ => rfl

namespace Executor

open JobEvent (times)

/-! ### Messages that pass the queue -/

/-- The message that a step takes from the queue, with the worker who takes it. -/
def delivery? (executor : Executor Content) (step : ExecutorStep Content) :
    Option (Nat × Message) :=
  step.taker?.bind fun index => executor.queue.head?.map fun message => (index, message)

/-- The messages that workers take in a run, with the workers, the first one first. -/
def deliveries (executor : Executor Content) : List (ExecutorStep Content) → List (Nat × Message)
  | [] => []
  | step :: rest =>
    match executor.step? step with
    | some after => (executor.delivery? step).toList ++ after.deliveries rest
    | none => []

/-- The messages that enter the queue in a run, the first one first: each step adds what is in the
queue behind the former messages. -/
def entered (executor : Executor Content) : List (ExecutorStep Content) → List Message
  | [] => []
  | step :: rest =>
    match executor.step? step with
    | some after => after.queue.drop executor.queue.length ++ after.entered rest
    | none => []

/-! ### What holds of messages -/

/-- What always holds of the messages that entered the queue and of those that workers took. -/
structure Passed (executor : Executor Content) (sent : List Message)
    (taken : List (Nat × Message)) : Prop where
  /-- Messages are taken in the order in which they entered. Only jobs are thrown away, and only
  when no worker is left. -/
  order : ∃ thrown, sent = taken.map Prod.snd ++ (thrown ++ executor.queue) ∧
    .stop ∉ thrown ∧ (thrown = [] ∨ executor.isDeserted = true)
  /-- A worker has taken one stop message when it serves no more. -/
  stops : ∀ index worker, executor.workers[index]? = some worker →
    taken.count (index, .stop) = if worker.serves then 0 else 1
  allStops : (taken.map Prod.snd).count .stop + executor.serving = executor.workers.length
  /-- A job that was taken was started. -/
  started : ∀ id, .run id ∈ taken.map Prod.snd → 0 < times .started id executor.journal

theorem Passed.new (poolSize capacity : Nat) :
    Passed (Executor.new poolSize capacity : Executor Content) [] [] := by
  refine ⟨⟨[], rfl, List.not_mem_nil, .inl rfl⟩, fun index worker found => ?_, ?_,
    fun id member => ?_⟩
  · cases List.eq_of_mem_replicate (List.mem_of_getElem? found)
    rfl
  · simp [Executor.new, serving, List.countP_replicate, Worker.serves]
  · cases member

/-- Nothing is taken by a step that takes no message. -/
theorem delivery?_eq_none {executor : Executor Content} {step : ExecutorStep Content}
    (takesNone : step.taker? = none) : executor.delivery? step = none := by
  rw [delivery?, takesNone]
  rfl

/-- A step of somebody who is not a worker. -/
theorem Passed.aside {before after : Executor Content} {sent messages : List Message}
    {taken : List (Nat × Message)} (passed : Passed before sent taken)
    (workers : after.workers = before.workers) (queue : after.queue = before.queue ++ messages)
    (grows : ∀ id, times .started id before.journal ≤ times .started id after.journal) :
    Passed after (sent ++ messages) taken := by
  obtain ⟨⟨thrown, order, noStop, kept⟩, stops, allStops, started⟩ := passed
  refine ⟨⟨thrown, ?_, noStop, ?_⟩, ?_, ?_, fun id member => ?_⟩
  · rw [queue, order, List.append_assoc, List.append_assoc]
  · rw [isDeserted, workers]
    exact kept
  · rw [workers]
    exact stops
  · rw [serving, workers]
    exact allStops
  · exact Nat.lt_of_lt_of_le (started id member) (grows id)

/-- A worker that serves takes the first message. -/
theorem Passed.took {before after : Executor Content} {sent : List Message}
    {taken : List (Nat × Message)} {index : Nat} {message : Message}
    (passed : Passed before sent taken) (found : before.workers[index]? = some .idle)
    (first : before.queue = message :: after.queue)
    (workers : after.workers = before.workers.set index (.taking message))
    (grows : ∀ id, times .started id before.journal ≤ times .started id after.journal)
    (begun : ∀ job, message = .run job → 0 < times .started job after.journal) :
    Passed after sent (taken ++ [(index, message)]) := by
  obtain ⟨⟨thrown, order, _, kept⟩, stops, allStops, started⟩ := passed
  have nothing : thrown = [] := by
    refine kept.resolve_right fun deserted => ?_
    rw [isDeserted_eq_false found rfl] at deserted
    cases deserted
  have bound := (List.getElem?_eq_some_iff.mp found).1
  refine ⟨⟨[], ?_, List.not_mem_nil, .inl rfl⟩, fun other worker there => ?_, ?_,
    fun id member => ?_⟩
  · rw [order, nothing, first, List.map_append, List.append_assoc]
    rfl
  · rw [workers, List.getElem?_set] at there
    rw [List.count_append, List.count_singleton]
    by_cases own : index = other
    · subst own
      rw [if_pos rfl, if_pos bound] at there
      cases there
      rw [stops index .idle found]
      cases message <;> simp [Worker.taking, Worker.serves]
    · rw [if_neg own] at there
      simp [stops other worker there, own]
  · have served := countP_set_add (.taking message) found Worker.serves
    have length : after.workers.length = before.workers.length := by
      rw [workers, List.length_set]
    rw [← workers] at served
    rw [List.map_append, List.count_append, length]
    cases message with
    | run job =>
      have kept : after.serving = before.serving := Nat.add_right_cancel served
      rw [kept]
      exact allStops
    | stop =>
      have fewer : after.serving + 1 = before.serving := served
      have one : ([(index, Message.stop)].map Prod.snd).count .stop = 1 := rfl
      omega
  · rw [List.map_append, List.mem_append] at member
    rcases member with former | last
    · exact Nat.lt_of_lt_of_le (started id former) (grows id)
    · exact begun id (List.mem_singleton.mp last).symm

/-- A worker goes on, and throws the queue away when it is the last one and leaves. -/
theorem Passed.wentOn {before after : Executor Content} {sent : List Message}
    {taken : List (Nat × Message)} {index : Nat} {old new : Worker Content}
    (passed : Passed before sent taken) (staffed : Staffed before)
    (found : before.workers[index]? = some old)
    (workers : after.workers = before.workers.set index new)
    (fewer : new.chores < old.chores) (serves : new.serves = old.serves)
    (queue : after.queue = before.queue ∨ after.queue = [] ∧ after.isDeserted = true)
    (grows : ∀ id, times .started id before.journal ≤ times .started id after.journal) :
    Passed after sent taken := by
  obtain ⟨⟨thrown, order, _, kept⟩, stops, allStops, started⟩ := passed
  have present : old.isStopped = false :=
    Worker.not_stopped_of_chores (Nat.lt_of_le_of_lt (Nat.zero_le _) fewer)
  have nothing : thrown = [] := by
    refine kept.resolve_right fun deserted => ?_
    rw [isDeserted_eq_false found present] at deserted
    cases deserted
  have bound := (List.getElem?_eq_some_iff.mp found).1
  have sameServing : after.serving = before.serving := by
    have counted := countP_set_add new found Worker.serves
    rw [serves] at counted
    rw [serving, workers]
    exact Nat.add_right_cancel counted
  refine ⟨?_, fun other worker there => ?_, ?_, fun id member => ?_⟩
  · rcases queue with same | ⟨empty, deserted⟩
    · exact ⟨[], by rw [order, nothing, same], List.not_mem_nil, .inl rfl⟩
    · refine ⟨before.queue, by rw [order, nothing, empty, List.append_nil, List.nil_append], ?_,
        .inr deserted⟩
      have account := staffed.stops
      rw [← sameServing, serving_eq_zero deserted] at account
      exact List.count_eq_zero.mp (by omega)
  · rw [workers, List.getElem?_set] at there
    by_cases own : index = other
    · subst own
      rw [if_pos rfl, if_pos bound] at there
      cases there
      rw [serves]
      exact stops index old found
    · rw [if_neg own] at there
      exact stops other worker there
  · rw [sameServing, workers, List.length_set]
    exact allStops
  · exact Nat.lt_of_lt_of_le (started id member) (grows id)

theorem Passed.step {before after : Executor Content} {step : ExecutorStep Content}
    {sent : List Message} {taken : List (Nat × Message)} (passed : Passed before sent taken)
    (staffed : Staffed before) (stepped : before.step? step = some after) :
    Passed after (sent ++ after.queue.drop before.queue.length)
      (taken ++ (before.delivery? step).toList) := by
  have grows (id : CallId) := (step?_move stepped).times_le .started id
  cases step?_turn stepped with
  | aside others workers messages queue =>
    rw [delivery?_eq_none (ExecutorStep.taker?_eq_none others), Option.toList_none,
      List.append_nil, queue, List.drop_left]
    exact passed.aside workers queue grows
  | took index message found first workers begun =>
    have delivered : before.delivery? (.receive index) = some (index, message) := by
      simp only [delivery?, ExecutorStep.taker?, first, List.head?_cons, Option.bind_some,
        Option.map_some]
    have nothing : after.queue.drop before.queue.length = [] := by
      rw [first]
      exact List.drop_eq_nil_of_le (Nat.le_succ _)
    rw [delivered, nothing, List.append_nil]
    exact passed.took found first workers grows begun
  | wentOn index old new own takesNone found workers fewer serves queue =>
    have nothing : after.queue.drop before.queue.length = [] := by
      rcases queue with same | ⟨empty, _⟩
      · rw [same]
        exact List.drop_length
      · rw [empty]
        exact List.drop_nil
    rw [delivery?_eq_none takesNone, nothing, Option.toList_none, List.append_nil,
      List.append_nil]
    exact passed.wentOn staffed found workers fewer serves queue grows

theorem Passed.run {poolSize capacity : Nat} {before after : Executor Content}
    {steps : List (ExecutorStep Content)} {sent : List Message} {taken : List (Nat × Message)}
    (passed : Passed before sent taken) (reached : Reachable poolSize capacity before)
    (ran : before.run? steps = some after) :
    Passed after (sent ++ before.entered steps) (taken ++ before.deliveries steps) := by
  induction steps generalizing before sent taken with
  | nil =>
    cases ran
    rw [entered, deliveries, List.append_nil, List.append_nil]
    exact passed
  | cons step rest inductionHypothesis =>
    obtain ⟨between, stepped, ranRest⟩ := Option.bind_eq_some_iff.mp ran
    have later := inductionHypothesis (passed.step reached.staffed stepped)
      (reached.step stepped) ranRest
    rw [List.append_assoc, List.append_assoc] at later
    simp only [entered, deliveries, stepped]
    exact later

/-! ### Somebody can go on -/

/-- When no worker is left, the shutdown has a step to take. -/
theorem closing_goesOn {executor : Executor Content} {left : Nat}
    (stopping : executor.closing = .stopping left) (deserted : executor.isDeserted = true) :
    ∃ step after, step.task? = some .shutdown ∧ executor.step? step = some after := by
  cases left with
  | zero =>
    refine ⟨.join, { executor with closing := .closed }, rfl, ?_⟩
    simp only [step?, stepClosing, stopping, deserted, if_true]
  | succ left =>
    refine ⟨.stop, { executor with closing := .stopping left }, rfl, ?_⟩
    simp only [step?, stepClosing, stopping, deserted, if_true]

/-- When the queue is empty and a worker waits in front of it, a stop message can be sent. -/
theorem stop_goesOn {poolSize capacity : Nat} {executor : Executor Content} {left index : Nat}
    (reached : Reachable poolSize capacity executor) (stopping : executor.closing = .stopping left)
    (found : executor.workers[index]? = some .idle) (empty : executor.queue = []) :
    ∃ after, executor.step? .stop = some after := by
  have served : 0 < executor.serving :=
    List.countP_pos_iff.mpr ⟨.idle, List.mem_of_getElem? found, rfl⟩
  have stops := reached.staffed.stops
  simp only [stopsToCome, stopping, empty, List.count_nil] at stops
  obtain ⟨fewer, rfl⟩ : ∃ fewer, left = fewer + 1 := Nat.exists_eq_succ_of_ne_zero (by omega)
  have room : executor.hasRoom = true :=
    (Bool.not_eq_false _).mp fun full => reached.queue_ne_nil full empty
  refine ⟨{ executor.push .stop with closing := .stopping fewer }, ?_⟩
  simp only [step?, stepClosing, stopping, isDeserted_eq_false found rfl, room,
    Bool.false_eq_true, if_false, if_true]

/-- From the beginning of the shutdown to its end, it has a step to take or a worker has one. -/
theorem Reachable.shutdown_goesOn {poolSize capacity : Nat} {executor : Executor Content}
    {left : Nat} (reached : Reachable poolSize capacity executor)
    (stopping : executor.closing = .stopping left) :
    ∃ step after, (step.task? = some .shutdown ∨ step.isWork = true) ∧
      executor.step? step = some after := by
  cases deserted : executor.isDeserted with
  | true =>
    obtain ⟨step, after, own, possible⟩ := closing_goesOn stopping deserted
    exact ⟨step, after, .inl own, possible⟩
  | false =>
    obtain ⟨worker, member, stays⟩ := List.all_eq_false.mp deserted
    obtain ⟨index, found⟩ := List.getElem?_of_mem member
    have present : worker.isStopped = false := Bool.eq_false_iff.mpr stays
    by_cases fed : 0 < worker.chores ∨ executor.queue ≠ []
    · obtain ⟨step, after, own, possible⟩ := exists_work found present fed
      exact ⟨step, after, .inr (by rw [ExecutorStep.isWork, own]; rfl), possible⟩
    · obtain ⟨unoccupied, empty⟩ := not_or.mp fed
      have waits : worker = .idle := by
        cases worker with
        | idle => rfl
        | stopped => cases present
        | _ => exact absurd (Nat.succ_pos _) unoccupied
      subst waits
      obtain ⟨after, possible⟩ := stop_goesOn reached stopping found (Decidable.not_not.mp empty)
      exact ⟨.stop, after, .inl rfl, possible⟩

/-! ### The end of the shutdown -/

/-- When no worker is left, a job in front of a stop message was taken from the queue. -/
theorem Passed.taken_of_ahead {executor : Executor Content} {sent front rest : List Message}
    {taken : List (Nat × Message)} {id : CallId} (passed : Passed executor sent taken)
    (empty : executor.queue = []) (split : sent = front ++ .stop :: rest)
    (ahead : .run id ∈ front) : .run id ∈ taken.map Prod.snd := by
  obtain ⟨⟨thrown, order, noStop, _⟩, _, _, _⟩ := passed
  rw [split, empty, List.append_nil] at order
  rcases List.append_eq_append_iff.mp order with ⟨more, same, _⟩ | ⟨more, _, same⟩
  · rw [same]
    exact List.mem_append_left _ ahead
  · refine absurd ?_ noStop
    rw [same]
    exact List.mem_append_right _ List.mem_cons_self

/-- What a shutdown can rely on, after every run from a new executor. From its beginning to its end
it has a step to take or a worker has one. A worker has taken one stop message once it serves no
more, and none before. And when the last worker has left, as many stop messages have been sent as
there are workers, all of them were taken, and every job that entered the queue before any of them
has run to its end, once. -/
theorem shutdown_reaches_workers {poolSize capacity : Nat} {executor : Executor Content}
    {steps : List (ExecutorStep Content)}
    (ran : (Executor.new poolSize capacity).run? steps = some executor) :
    (∀ left, executor.closing = .stopping left →
      ∃ step after, (step.task? = some .shutdown ∨ step.isWork = true) ∧
        executor.step? step = some after) ∧
    (∀ index worker, executor.workers[index]? = some worker →
      ((Executor.new poolSize capacity).deliveries steps).count (index, .stop) =
        if worker.serves then 0 else 1) ∧
    (executor.isDeserted = true →
      executor.workers.length = max poolSize 1 ∧
        ((Executor.new poolSize capacity).entered steps).count .stop = max poolSize 1 ∧
        (((Executor.new poolSize capacity).deliveries steps).map Prod.snd).count .stop =
          max poolSize 1 ∧
        ∀ front rest, (Executor.new poolSize capacity).entered steps = front ++ .stop :: rest →
          ∀ id, .run id ∈ front →
            times .started id executor.journal = 1 ∧ times .ended id executor.journal = 1 ∧
              times .completed id executor.journal = 1) := by
  have reached : Reachable poolSize capacity executor := Reachable.new.run ran
  have passed := (Passed.new poolSize capacity).run .new ran
  rw [List.nil_append, List.nil_append] at passed
  refine ⟨fun left stopping => reached.shutdown_goesOn stopping, passed.stops, fun deserted => ?_⟩
  have length := reached.workers_length
  have empty := reached.staffed.empty deserted
  have allStops := passed.allStops
  rw [serving_eq_zero deserted, Nat.add_zero, length] at allStops
  refine ⟨length, ?_, allStops, fun front rest split id ahead => ?_⟩
  · obtain ⟨thrown, order, noStop, _⟩ := passed.order
    rw [order, empty, List.append_nil, List.count_append, List.count_eq_zero.mpr noStop,
      Nat.add_zero]
    exact allStops
  · have begun := passed.started id (passed.taken_of_ahead empty split ahead)
    have accounted := reached.accounted id
    have once := (reached.entersOnce id).once
    have queued := accounted.queued
    obtain ⟨ended, completed⟩ := accounted.ended_of_deserted deserted
    exact ⟨by omega, by omega, by omega⟩

/-- Two workers share a queue with room for one message. The second job is in it when the shutdown
begins, and the third one enters it between the two stop messages. -/
def crowdedShutdownSteps : List (ExecutorStep Nat) :=
  [.begin .immediate, .check 0, .offer 0, .count 0, .receive 0, .begin .patient, .check 1,
   .offer 1, .count 1, .begin .patient, .check 2, .shut, .receive 1, .stop, .finish 0 (.value 7),
   .complete 0, .reply 0, .receive 0, .offer 2, .count 2]

/-- The second worker runs the third job, and both leave. -/
def leavingSteps : List (ExecutorStep Nat) :=
  [.finish 1 (.halted ⟨"out of reach"⟩), .judge 1, .complete 1, .reply 1, .receive 1, .stop,
   .finish 1 (.value 9), .complete 1, .reply 1, .receive 1, .leave 1, .leave 0]

theorem shutdown_reaches_workers_crowded :
    ∃ executor after : Executor Nat,
      (Executor.new 2 1).run? crowdedShutdownSteps = some executor ∧
        executor.closing = .stopping 1 ∧ executor.hasRoom = false ∧
        (∃ step next, (step.task? = some .shutdown ∨ step.isWork = true) ∧
          executor.step? step = some next) ∧
        (Executor.new 2 1).run? (crowdedShutdownSteps ++ leavingSteps) = some after ∧
        after.isDeserted = true ∧
        ((Executor.new 2 1).entered (crowdedShutdownSteps ++ leavingSteps)).count .stop = 2 ∧
        times .completed 2 after.journal = 1 := by
  obtain ⟨executor, after, ran, stopping, full, ranOn, deserted, split⟩ :
      ∃ executor after : Executor Nat,
        (Executor.new 2 1).run? crowdedShutdownSteps = some executor ∧
          executor.closing = .stopping 1 ∧ executor.hasRoom = false ∧
          (Executor.new 2 1).run? (crowdedShutdownSteps ++ leavingSteps) = some after ∧
          after.isDeserted = true ∧
          (Executor.new 2 1).entered (crowdedShutdownSteps ++ leavingSteps) =
            [.run 0, .run 1, .stop, .run 2] ++ .stop :: [] :=
    ⟨_, _, rfl, rfl, rfl, rfl, rfl, rfl⟩
  obtain ⟨goesOn, _, _⟩ := shutdown_reaches_workers ran
  obtain ⟨_, _, ends⟩ := shutdown_reaches_workers ranOn
  obtain ⟨_, stops, _, jobs⟩ := ends deserted
  obtain ⟨_, _, completed⟩ := jobs _ _ split 2 (by decide)
  exact ⟨executor, after, ran, stopping, full, goesOn 1 stopping, ranOn, deserted, stops, completed⟩

end Executor

end WalletBridge
