/-
This file bounds what a task does in one poll. A call passes its stages in one direction, and only a
pause that is over takes it back, which happens once in a poll at most. The shutdown has one stop
message to send for each worker. Others take their steps in between, but none of them changes where
the call stands or how many stop messages are left, so none of them keeps a poll from its end.
-/

import WalletBridge.Executor.Polling
import WalletBridge.Proofs.JobReplies
import WalletBridge.Proofs.ShutdownQueue

namespace WalletBridge

variable {Content : Type}

/-! ### Whose step it is -/

/-- The task that takes a step. The others are those of workers, and of callers that begin. -/
def ExecutorStep.task? : ExecutorStep Content → Option PolledTask
  | .check id | .offer id | .recheck id | .retry id | .count id | .take id | .miss id
  | .resume id | .expire id | .giveUp id | .abandon id => some (.call id)
  | .shut | .stop | .join => some .shutdown
  | _ => none

/-- Whether a step ends a pause. -/
def ExecutorStep.endsPause : ExecutorStep Content → Bool
  | .retry _ => true
  | _ => false

/-- Whether a call in this stage looks at its clock, or has found its time over. -/
def CallStage.isAtClock : CallStage Content → Bool
  | .missed | .expired => true
  | _ => false

namespace Executor

/-- What a poll of a task can come to after so many moves of its own, while others take their steps
in between. It reads the clock once: whether the time of the call is over stays as it is, and one
pause at most is found to be over, because the next one begins in the poll. -/
inductive DuringPoll (task : PolledTask) (isLate : Bool) (start : Executor Content) :
    Bool → Nat → Executor Content → Prop where
  | begun (isAwake : Bool) : DuringPoll task isLate start isAwake 0 start
  | wentOn {isAwake : Bool} {moves : Nat} {before after : Executor Content}
      {step : ExecutorStep Content} (during : DuringPoll task isLate start isAwake moves before)
      (next : before.poll ⟨isAwake, isLate⟩ task = .step step)
      (taken : before.step? step = some after) :
    DuringPoll task isLate start (!step.endsPause && isAwake) (moves + 1) after
  | meanwhile {isAwake : Bool} {moves : Nat} {before after : Executor Content}
      {step : ExecutorStep Content} (during : DuringPoll task isLate start isAwake moves before)
      (other : step.task? ≠ some task) (taken : before.step? step = some after) :
    DuringPoll task isLate start isAwake moves after

theorem DuringPoll.reachable {poolSize capacity : Nat} {task : PolledTask} {isLate isAwake : Bool}
    {moves : Nat} {start after : Executor Content}
    (during : DuringPoll task isLate start isAwake moves after)
    (reached : Reachable poolSize capacity start) : Reachable poolSize capacity after := by
  induction during with
  | begun => exact reached
  | wentOn during next taken inductionHypothesis => exact inductionHypothesis.step taken
  | meanwhile during other taken inductionHypothesis => exact inductionHypothesis.step taken

/-! ### What steps leave alone -/

/-- A step of a call changes where that call stands, and neither the workers nor the shutdown. Only
one step drops the call. -/
theorem stepCall_leaves {before after : Executor Content} {id : CallId} {call : Call Content}
    {step : ExecutorStep Content} (taken : before.stepCall id call step = some after) :
    (∃ stage, after.calls = (before.setStage id stage).calls ∧
        (stage = .abandoned → ∃ other, step = .abandon other)) ∧
      after.workers = before.workers ∧ after.closing = before.closing := by
  cases step with
  | check _ | recheck _ =>
    simp only [stepCall] at taken
    split at taken
    · cases taken
      cases before.isRunning <;> exact ⟨⟨_, rfl, fun same => by cases same⟩, rfl, rfl⟩
    · cases taken
  | offer _ =>
    simp only [stepCall] at taken
    split at taken
    · cases taken
      unfold offer
      cases before.isDeserted with
      | true => exact ⟨⟨_, rfl, fun same => by cases same⟩, rfl, rfl⟩
      | false =>
        cases before.hasRoom with
        | true => exact ⟨⟨_, rfl, fun same => by cases same⟩, rfl, rfl⟩
        | false => cases call.kind <;> exact ⟨⟨_, rfl, fun same => by cases same⟩, rfl, rfl⟩
    · cases taken
  | retry _ | count _ | take _ | miss _ | resume _ | expire _ | giveUp _ =>
    simp only [stepCall] at taken
    split at taken <;> cases taken <;> exact ⟨⟨_, rfl, fun same => by cases same⟩, rfl, rfl⟩
  | abandon other =>
    simp only [stepCall] at taken
    split at taken <;> cases taken <;> exact ⟨⟨_, rfl, fun _ => ⟨other, rfl⟩⟩, rfl, rfl⟩
  | _ => cases taken

/-- A step of a worker changes neither where a call stands, nor its kind, nor how many workers there
are, nor the shutdown. -/
theorem stepWorker_leaves {before after : Executor Content} {index : Nat} {worker : Worker Content}
    {step : ExecutorStep Content} (taken : before.stepWorker index worker step = some after) :
    (∀ id, Call.stage? after.calls id = Call.stage? before.calls id) ∧
      after.calls.map (·.kind) = before.calls.map (·.kind) ∧
        after.workers.length = before.workers.length ∧ after.closing = before.closing := by
  cases step with
  | receive _ | finish _ _ | judge _ | complete _ | regret _ =>
    simp only [stepWorker] at taken
    split at taken <;> cases taken <;> exact ⟨fun _ => rfl, rfl, List.length_set, rfl⟩
  | reply _ =>
    simp only [stepWorker] at taken
    split at taken
    · rename_i job outcome
      cases taken
      split
      · split
        · exact ⟨fun id => Call.stage?_setMailbox before.calls id job _,
            map_modify_of_keeps before.calls job fun _ => rfl, List.length_set, rfl⟩
        · exact ⟨fun _ => rfl, rfl, List.length_set, rfl⟩
      · exact ⟨fun _ => rfl, rfl, List.length_set, rfl⟩
    · cases taken
  | leave _ =>
    simp only [stepWorker] at taken
    split at taken
    · cases taken
      cases (before.setWorker index .stopped).isDeserted with
      | true =>
        refine ⟨fun id => discard_stage? _ id, (discard_discards _).kinds, ?_,
          discard_closing _⟩
        rw [if_pos rfl, discard_workers]
        exact List.length_set
      | false => exact ⟨fun _ => rfl, rfl, List.length_set, rfl⟩
    · cases taken
  | _ => cases taken

/-- A step of the shutdown leaves the calls alone. -/
theorem stepClosing_calls {before after : Executor Content} {step : ExecutorStep Content}
    (taken : before.stepClosing step = some after) : after.calls = before.calls := by
  cases step with
  | shut =>
    simp only [stepClosing] at taken
    split at taken <;> cases taken
    rfl
  | stop =>
    simp only [stepClosing] at taken
    split at taken
    · split at taken
      · cases taken
        rfl
      · split at taken <;> cases taken
        rfl
    · cases taken
  | join =>
    simp only [stepClosing] at taken
    split at taken
    · split at taken <;> cases taken
      rfl
    · cases taken
  | _ => cases taken

/-! ### Calls whose time is limited -/

/-- Only a call with a limited time looks at its clock. -/
def Punctual (executor : Executor Content) : Prop :=
  ∀ (id : CallId) (call : Call Content), executor.calls[id]? = some call →
    call.stage.isAtClock = true → call.kind.isTimed = true

theorem Punctual.new (poolSize capacity : Nat) :
    Punctual (Executor.new poolSize capacity : Executor Content) := by
  intro id call known
  cases known

theorem Punctual.setStage {before after : Executor Content} {id : CallId} {former : Call Content}
    (next : CallStage Content) (punctual : Punctual before)
    (found : before.calls[id]? = some former)
    (timed : next.isAtClock = true → former.kind.isTimed = true)
    (calls : after.calls = (before.setStage id next).calls) : Punctual after := by
  intro other call known looks
  rw [calls, Executor.setStage, List.getElem?_modify] at known
  obtain ⟨old, foundOld, changed⟩ := Option.map_eq_some_iff.mp known
  by_cases same : id = other
  · rw [if_pos same] at changed
    subst same changed
    rw [found] at foundOld
    cases foundOld
    exact timed looks
  · rw [if_neg same] at changed
    subst changed
    exact punctual other old foundOld looks

/-- What happens to mailboxes does not matter. -/
theorem Punctual.deliver {before after : Executor Content} (punctual : Punctual before)
    (calls : ∀ (id : CallId) (call : Call Content), after.calls[id]? = some call →
      ∃ mailbox, before.calls[id]? = some { call with mailbox := mailbox }) : Punctual after := by
  intro id call known looks
  obtain ⟨mailbox, former⟩ := calls id call known
  exact punctual id { call with mailbox := mailbox } former looks

theorem CallShift.isTimed {executor : Executor Content} {call : Call Content}
    {next : CallStage Content} (shift : CallShift executor call next)
    (looks : next.isAtClock = true) : call.kind.isTimed = true := by
  cases shift with
  | missed milliseconds => rfl
  | expiredWaiting milliseconds mailbox => rfl
  | expiredPausing milliseconds mailbox => rfl
  | _ => cases looks

theorem Punctual.move {before after : Executor Content} (punctual : Punctual before)
    (move : Move before after) : Punctual after := by
  cases move with
  | begun kind =>
    intro id call known looks
    rw [List.getElem?_append] at known
    split at known
    · exact punctual id call known looks
    · obtain ⟨_, fresh⟩ := List.getElem?_eq_some_iff.mp known
      rw [List.getElem_singleton] at fresh
      cases fresh
      cases looks
  | shifted id former next found shift => exact punctual.setStage next found shift.isTimed rfl
  | accepted id kind mailbox found inhabited room =>
    exact punctual.setStage .queued found nofun rfl
  | submitted id kind mailbox found =>
    exact punctual.setStage .waiting found nofun rfl
  | replied index job outcome found heard =>
    refine punctual.deliver fun id call known => ?_
    simp only [setWorker, setMailbox, List.getElem?_modify] at known
    obtain ⟨former, foundOld, changed⟩ := Option.map_eq_some_iff.mp known
    split at changed <;> exact ⟨former.mailbox, by rw [foundOld, ← changed]⟩
  | leftLast index found last =>
    refine punctual.deliver fun id call known => ?_
    rw [discard_call?] at known
    obtain ⟨former, foundOld, changed⟩ := Option.map_eq_some_iff.mp known
    refine ⟨former.mailbox, foundOld.trans ?_⟩
    split at changed <;> rw [← changed]
  | _ => exact fun id call known => punctual id call known

theorem Reachable.punctual {poolSize capacity : Nat} {executor : Executor Content}
    (reached : Reachable poolSize capacity executor) : Punctual executor :=
  reached.move_induction (.new poolSize capacity) fun _ _ move punctual => punctual.move move

/-! ### How many moves a poll has left -/

end Executor

/-- How many moves a poll has left at most when its call is in this stage and no pause is over. -/
def CallStage.movesLeft (isLate : Bool) : CallStage Content → Nat
  | .fresh => 6
  | .offering => 5
  | .queued => 4
  | .crowded => 3
  | .waiting => 3
  | .missed => if isLate then 2 else 4
  | .pausing => 2
  | .expired => 1
  | .done _ => 0
  | .abandoned => 0

theorem CallStage.movesLeft_le (isLate : Bool) (stage : CallStage Content) :
    stage.movesLeft isLate ≤ 6 := by
  cases stage <;> cases isLate <;> exact Nat.le_of_ble_eq_true rfl

namespace Executor

/-- How many moves a poll of a task has left at most when no pause is over. A call that has not
begun may begin meanwhile. -/
def movesLeft (executor : Executor Content) (isLate : Bool) : PolledTask → Nat
  | .call id => ((Call.stage? executor.calls id).getD .fresh).movesLeft isLate
  | .shutdown =>
    match executor.closing with
    | .open => executor.workers.length + 2
    | .stopping left => left + 1
    | .closed => 0

theorem movesLeft_call_congr {before after : Executor Content} {id : CallId}
    (stage : Call.stage? after.calls id = Call.stage? before.calls id) (isLate : Bool) :
    after.movesLeft isLate (.call id) = before.movesLeft isLate (.call id) := by
  simp only [movesLeft, stage]

theorem movesLeft_shutdown_congr {before after : Executor Content}
    (workers : after.workers.length = before.workers.length)
    (closing : after.closing = before.closing) (isLate : Bool) :
    after.movesLeft isLate .shutdown = before.movesLeft isLate .shutdown := by
  simp only [movesLeft, workers, closing]

theorem movesLeft_begin (before : Executor Content) (kind : CallKind) (isLate : Bool)
    (task : PolledTask) :
    movesLeft { before with calls := before.calls ++ [⟨kind, .fresh, .empty⟩] } isLate task =
      before.movesLeft isLate task := by
  cases task with
  | shutdown => rfl
  | call id =>
    simp only [movesLeft, Call.stage?, List.getElem?_append]
    split
    · rfl
    · rename_i beyond
      rw [List.getElem?_eq_none (Nat.le_of_not_lt beyond), List.getElem?_singleton]
      split <;> rfl

/-- The steps of others leave a poll as many moves as it had. -/
theorem movesLeft_of_other {before after : Executor Content} {step : ExecutorStep Content}
    {task : PolledTask} (other : step.task? ≠ some task) (taken : before.step? step = some after)
    (isLate : Bool) : after.movesLeft isLate task = before.movesLeft isLate task := by
  cases step with
  | begin kind =>
    cases taken
    exact before.movesLeft_begin kind isLate task
  | check id | offer id | recheck id | retry id | count id | take id | miss id | resume id
  | expire id | giveUp id | abandon id =>
    simp only [step?] at taken
    split at taken
    · obtain ⟨⟨stage, calls, -⟩, workers, closing⟩ := stepCall_leaves taken
      cases task with
      | shutdown => exact movesLeft_shutdown_congr (by rw [workers]) closing isLate
      | call polled =>
        refine movesLeft_call_congr ?_ isLate
        rw [calls, setStage, Call.stage?_setStage, if_neg]
        rintro rfl
        exact other rfl
    · cases taken
  | receive index | finish index outcome | judge index | complete index | reply index
  | regret index | leave index =>
    simp only [step?] at taken
    split at taken
    · obtain ⟨stages, -, workers, closing⟩ := stepWorker_leaves taken
      cases task with
      | shutdown => exact movesLeft_shutdown_congr workers closing isLate
      | call polled => exact movesLeft_call_congr (stages polled) isLate
    · cases taken
  | shut | stop | join =>
    simp only [step?] at taken
    cases task with
    | shutdown => exact absurd rfl other
    | call polled => exact movesLeft_call_congr (by rw [stepClosing_calls taken]) isLate

/-- Where a call can stand when it has offered its job. -/
theorem offer_stage (before : Executor Content) (id : CallId) (kind : CallKind) (isLate : Bool) :
    ∃ stage, (before.offer id kind).calls = (before.setStage id stage).calls ∧
      stage.movesLeft isLate ≤ 4 := by
  unfold offer
  cases before.isDeserted with
  | true => exact ⟨.done (.error .shutDown), rfl, Nat.zero_le 4⟩
  | false =>
    cases before.hasRoom with
    | true => exact ⟨.queued, rfl, Nat.le_refl 4⟩
    | false =>
      cases kind with
      | immediate => exact ⟨.done (.error .queueFull), rfl, Nat.zero_le 4⟩
      | patient => exact ⟨.crowded, rfl, Nat.le_succ 3⟩
      | timed milliseconds => exact ⟨.crowded, rfl, Nat.le_succ 3⟩

/-- The next move of a call is possible, and leaves fewer moves, where a pause that may be over
counts for four. -/
theorem pollCall_step {before : Executor Content} {id : CallId} {call : Call Content}
    {clock : PollClock} {step : ExecutorStep Content} (found : before.calls[id]? = some call)
    (timed : call.stage.isAtClock = true → call.kind.isTimed = true)
    (next : pollCall id clock call = .step step) :
    ∃ stage, (before.step? step).map (·.calls) = some (before.setStage id stage).calls ∧
      stage.movesLeft clock.isLate + (if !step.endsPause && clock.isAwake then 4 else 0) <
        call.stage.movesLeft clock.isLate + (if clock.isAwake then 4 else 0) := by
  obtain ⟨kind, stage, mailbox⟩ := call
  cases stage with
  | fresh =>
    cases next
    cases running : before.isRunning with
    | true =>
      exact ⟨.offering, by simp only [step?, found, stepCall, running]; rfl,
        Nat.add_lt_add_right (by decide : 5 < 6) _⟩
    | false =>
      exact ⟨.done _, by simp only [step?, found, stepCall, running]; rfl,
        Nat.add_lt_add_right (by decide : 0 < 6) _⟩
  | offering =>
    cases next
    obtain ⟨stage, calls, fewer⟩ := before.offer_stage id kind clock.isLate
    exact ⟨stage, by simp only [step?, found, stepCall, Option.map_some, calls],
      Nat.add_lt_add_right (Nat.lt_succ_of_le fewer) _⟩
  | crowded =>
    cases next
    cases running : before.isRunning with
    | true =>
      exact ⟨.pausing, by simp only [step?, found, stepCall, running]; rfl,
        Nat.add_lt_add_right (by decide : 2 < 3) _⟩
    | false =>
      exact ⟨.done _, by simp only [step?, found, stepCall, running]; rfl,
        Nat.add_lt_add_right (by decide : 0 < 3) _⟩
  | queued =>
    cases next
    exact ⟨.waiting, by simp only [step?, found, stepCall]; rfl,
      Nat.add_lt_add_right (by decide : 3 < 4) _⟩
  | pausing =>
    simp only [pollCall] at next
    split at next
    · -- The only way back: the four moves are those that the pause was worth.
      rename_i awake
      cases next
      refine ⟨.offering, by simp only [step?, found, stepCall]; rfl, ?_⟩
      rw [awake]
      exact (by decide : 5 < 6)
    · split at next
      · rename_i late
        cases next
        cases kind with
        | timed milliseconds =>
          exact ⟨.expired, by simp only [step?, found, stepCall]; rfl,
            Nat.add_lt_add_right (by decide : 1 < 2) _⟩
        | patient | immediate => simp [CallKind.isTimed] at late
      · cases next
  | waiting =>
    cases mailbox with
    | empty =>
      simp only [pollCall] at next
      split at next
      · rename_i late
        cases next
        cases kind with
        | timed milliseconds =>
          have isLate : clock.isLate = true := (Bool.and_eq_true_iff.mp late).1
          refine ⟨.missed, by simp only [step?, found, stepCall]; rfl, ?_⟩
          rw [isLate]
          exact Nat.add_lt_add_right (by decide : 2 < 3) _
        | patient | immediate => simp [CallKind.isTimed] at late
      · cases next
    | filled reply =>
      cases next
      exact ⟨.done reply, by simp only [step?, found, stepCall]; rfl,
        Nat.add_lt_add_right (by decide : 0 < 3) _⟩
    | lost =>
      cases next
      exact ⟨.done _, by simp only [step?, found, stepCall]; rfl,
        Nat.add_lt_add_right (by decide : 0 < 3) _⟩
  | missed =>
    cases kind with
    | timed milliseconds =>
      cases isLate : clock.isLate with
      | true =>
        simp only [pollCall, isLate] at next
        cases next
        exact ⟨.expired, by simp only [step?, found, stepCall]; rfl,
          Nat.add_lt_add_right (by decide : 1 < 2) _⟩
      | false =>
        simp only [pollCall, isLate] at next
        cases next
        exact ⟨.waiting, by simp only [step?, found, stepCall]; rfl,
          Nat.add_lt_add_right (by decide : 3 < 4) _⟩
    | patient | immediate => cases timed rfl
  | expired =>
    cases next
    cases kind with
    | timed milliseconds =>
      exact ⟨.done _, by simp only [step?, found, stepCall]; rfl,
        Nat.add_lt_add_right (by decide : 0 < 1) _⟩
    | patient | immediate => cases timed rfl
  | done reply => cases next
  | abandoned => cases next

/-- The next move of the shutdown is possible, and leaves fewer moves. -/
theorem pollShutdown_step {before : Executor Content} {step : ExecutorStep Content}
    (next : before.pollShutdown = .step step) (isLate : Bool) :
    ∃ after, before.step? step = some after ∧
      after.movesLeft isLate .shutdown < before.movesLeft isLate .shutdown := by
  unfold pollShutdown at next
  cases closing : before.closing with
  | «open» =>
    rw [closing] at next
    cases next
    refine ⟨{ before with closing := .stopping before.workers.length },
      by simp only [step?, stepClosing, closing], ?_⟩
    simp only [movesLeft, closing]
    exact Nat.lt_succ_self _
  | stopping left =>
    cases left with
    | zero =>
      cases deserted : before.isDeserted with
      | true =>
        simp only [closing, deserted] at next
        cases next
        refine ⟨{ before with closing := .closed },
          by simp only [step?, stepClosing, closing, deserted, if_true], ?_⟩
        simp only [movesLeft, closing]
        exact Nat.lt_succ_self _
      | false =>
        simp only [closing, deserted] at next
        cases next
    | succ left =>
      have fewer : Nat.succ left < before.movesLeft isLate .shutdown := by
        simp only [movesLeft, closing]
        exact Nat.lt_succ_self _
      cases deserted : before.isDeserted with
      | true =>
        simp only [closing, deserted] at next
        cases next
        exact ⟨{ before with closing := .stopping left },
          by simp only [step?, stepClosing, closing, deserted, if_true], fewer⟩
      | false =>
        cases room : before.hasRoom with
        | true =>
          simp only [closing, deserted, room] at next
          cases next
          exact ⟨{ before.push .stop with closing := .stopping left },
            by simp only [step?, stepClosing, closing, deserted, room, if_true,
              Bool.false_eq_true, if_false], fewer⟩
        | false =>
          simp only [closing, deserted, room] at next
          cases next
  | closed =>
    rw [closing] at next
    cases next

/-- The next move of a poll is possible, and leaves fewer moves, where a pause that may be over
counts for four. -/
theorem Reachable.poll_step {poolSize capacity : Nat} {before : Executor Content}
    {task : PolledTask} {clock : PollClock} {step : ExecutorStep Content}
    (reached : Reachable poolSize capacity before) (next : before.poll clock task = .step step) :
    ∃ after, before.step? step = some after ∧
      after.movesLeft clock.isLate task + (if !step.endsPause && clock.isAwake then 4 else 0) <
        before.movesLeft clock.isLate task + (if clock.isAwake then 4 else 0) := by
  cases task with
  | call id =>
    simp only [poll] at next
    split at next
    · rename_i call found
      obtain ⟨stage, taken, fewer⟩ := pollCall_step found (reached.punctual id call found) next
      obtain ⟨after, possible, calls⟩ := Option.map_eq_some_iff.mp taken
      have old : Call.stage? before.calls id = some call.stage := by rw [Call.stage?, found]; rfl
      have new : Call.stage? after.calls id = some stage := by
        rw [calls, setStage, Call.stage?_setStage, if_pos rfl, old]
        rfl
      refine ⟨after, possible, ?_⟩
      simp only [movesLeft, old, new]
      exact fewer
    · cases next
  | shutdown =>
    obtain ⟨after, possible, fewer⟩ := pollShutdown_step next clock.isLate
    refine ⟨after, possible, Nat.add_lt_add_of_lt_of_le fewer ?_⟩
    cases step.endsPause with
    | true => exact Nat.zero_le _
    | false => exact Nat.le_refl _

/-! ### The bound -/

theorem Move.workers_length {before after : Executor Content} (move : Move before after) :
    after.workers.length = before.workers.length := by
  cases move with
  | leftLast index found last =>
    rw [discard_workers]
    exact List.length_set
  | received | told | finished | judged | completed | replied | unheard | regretted | left =>
    exact List.length_set
  | _ => rfl

theorem Reachable.workers_length {poolSize capacity : Nat} {executor : Executor Content}
    (reached : Reachable poolSize capacity executor) :
    executor.workers.length = max poolSize 1 :=
  reached.move_induction (by simp [Executor.new])
    fun _ _ move length => move.workers_length.trans length

theorem Reachable.movesLeft_le {poolSize capacity : Nat} {executor : Executor Content}
    (reached : Reachable poolSize capacity executor) (isLate : Bool) (task : PolledTask) :
    executor.movesLeft isLate task ≤ poolSize + 6 := by
  cases task with
  | call id =>
    exact Nat.le_trans (CallStage.movesLeft_le isLate _) (Nat.le_add_left 6 poolSize)
  | shutdown =>
    have length := reached.workers_length
    have stops := reached.staffed.stops
    have serving : executor.serving ≤ executor.workers.length := List.countP_le_length
    cases closing : executor.closing with
    | «open» =>
      simp only [movesLeft, closing]
      omega
    | stopping left =>
      simp only [stopsToCome, closing] at stops
      simp only [movesLeft, closing]
      omega
    | closed =>
      simp only [movesLeft, closing]
      exact Nat.zero_le _

/-- What a poll has done and what it has left are no more than what it had at its beginning. -/
theorem DuringPoll.moves_add_movesLeft_le {poolSize capacity : Nat} {task : PolledTask}
    {isLate isAwake : Bool} {moves : Nat} {start after : Executor Content}
    (during : DuringPoll task isLate start isAwake moves after)
    (reached : Reachable poolSize capacity start) :
    moves + (after.movesLeft isLate task + if isAwake then 4 else 0) ≤
      start.movesLeft isLate task + 4 := by
  induction during with
  | begun isAwake => cases isAwake <;> simp
  | wentOn during next taken inductionHypothesis =>
    obtain ⟨after, possible, fewer⟩ := (during.reachable reached).poll_step next
    rw [taken] at possible
    cases possible
    simp only at fewer
    omega
  | meanwhile during other taken inductionHypothesis =>
    rw [movesLeft_of_other other taken isLate]
    exact inductionHypothesis

/-- A poll makes so many moves at most, whatever the queue holds and whatever others do. -/
theorem DuringPoll.moves_le {poolSize capacity : Nat} {task : PolledTask} {isLate isAwake : Bool}
    {moves : Nat} {start after : Executor Content}
    (during : DuringPoll task isLate start isAwake moves after)
    (reached : Reachable poolSize capacity start) : moves ≤ poolSize + 10 := by
  have spent := during.moves_add_movesLeft_le reached
  have budget := reached.movesLeft_le isLate task
  omega

end Executor

end WalletBridge
