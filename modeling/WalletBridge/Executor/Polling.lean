/-
This file divides the work of an executor's tasks into polls. A task is a call, or the shutdown. A
poll takes the steps of its task until the task is over or has to wait; a task that waits well
gives its thread back until it is woken. Only the sending of a stop message into a full queue keeps
the thread.

Where one thread polls all tasks, a job may wait for something that another task would do on that
same thread.
-/

import WalletBridge.Executor.Machine

namespace WalletBridge

/-- Something that is polled. -/
inductive PolledTask where
  | call (id : CallId)
  | shutdown
  deriving Repr, DecidableEq

/-- What the poll of a task does next. -/
inductive PollMove (Content : Type) where
  /-- Takes a step. -/
  | step (step : ExecutorStep Content)
  /-- Ends, because the task has to wait. -/
  | suspend
  /-- Keeps the thread until somebody else acts. -/
  | block
  /-- Ends, because the task is over. -/
  | finish

/-- What a poll learns from the clock: whether the pause of its call is over, and whether the time
of its call is. -/
structure PollClock where
  isAwake : Bool
  isLate : Bool
  deriving Repr, DecidableEq

/-- Whether a call has a limited time. -/
def CallKind.isTimed : CallKind → Bool
  | .timed _ => true
  | _ => false

namespace Executor

variable {Content : Type}

/-- What the poll of a call does next. It tries to go on first, and looks at the clock only where it
cannot. -/
def pollCall (id : CallId) (clock : PollClock) (call : Call Content) : PollMove Content :=
  let isLate := clock.isLate && call.kind.isTimed
  match call.stage with
  | .fresh => .step (.check id)
  | .offering => .step (.offer id)
  | .crowded => .step (.recheck id)
  | .pausing =>
    if clock.isAwake then .step (.retry id)
    else if isLate then .step (.expire id)
    else .suspend
  | .queued => .step (.count id)
  | .waiting =>
    match call.mailbox with
    | .empty => if isLate then .step (.miss id) else .suspend
    | _ => .step (.take id)
  | .missed => if isLate then .step (.expire id) else .step (.resume id)
  | .expired => .step (.giveUp id)
  | .done _ => .finish
  | .abandoned => .finish

/-- What the poll of the shutdown does next. Waiting for the workers to leave is given to another
thread. -/
def pollShutdown (executor : Executor Content) : PollMove Content :=
  match executor.closing with
  | .open => .step .shut
  | .stopping (_ + 1) =>
    if executor.isDeserted || executor.hasRoom then .step .stop else .block
  | .stopping 0 => if executor.isDeserted then .step .join else .suspend
  | .closed => .finish

/-- What the poll of a task does next. -/
def poll (executor : Executor Content) (clock : PollClock) : PolledTask → PollMove Content
  | .call id =>
    match executor.calls[id]? with
    | some call => pollCall id clock call
    | none => .finish
  | .shutdown => executor.pollShutdown

end Executor

/-! ### One thread -/

/-- An executor whose tasks are all polled on one thread. Some jobs run until that thread opens
their gates, which it does between two polls. -/
structure PollingThread (Content : Type) where
  executor : Executor Content
  /-- The task whose poll is in progress. -/
  polling : Option PolledTask
  /-- The jobs whose gates are shut. -/
  gated : List CallId

/-- One step of somebody. -/
inductive PollingStep (Content : Type) where
  /-- The thread begins a call. -/
  | begin (kind : CallKind) (isGated : Bool)
  /-- The thread begins to poll a task. -/
  | enter (task : PolledTask)
  /-- The poll in progress goes on. -/
  | go (clock : PollClock)
  /-- The thread drops a call. -/
  | drop (call : CallId)
  /-- The thread opens the gate of a job. -/
  | open (job : CallId)
  /-- A worker takes a step. -/
  | work (step : ExecutorStep Content)

namespace PollingThread

variable {Content : Type}

/-- A new executor, and a thread that does nothing. -/
def new (poolSize capacity : Nat) : PollingThread Content :=
  ⟨Executor.new poolSize capacity, none, []⟩

/-- Whether a step is one of a worker, and one that does not wait for a gate. -/
def isFreeWork (thread : PollingThread Content) : ExecutorStep Content → Bool
  | .receive _ | .judge _ | .complete _ | .reply _ | .regret _ | .leave _ => true
  | .finish index _ =>
    match thread.executor.workers[index]? with
    | some (.running job) => !thread.gated.contains job
    | _ => false
  | _ => false

/-- Goes on with the poll in progress. -/
def go? (thread : PollingThread Content) (clock : PollClock) : Option (PollingThread Content) :=
  match thread.polling with
  | none => none
  | some task =>
    match thread.executor.poll clock task with
    | .step step =>
      (thread.executor.step? step).map fun after => { thread with executor := after }
    | .suspend => some { thread with polling := none }
    | .finish => some { thread with polling := none }
    | .block => none

/-- Takes a step, when it is possible. -/
def step? (thread : PollingThread Content) :
    PollingStep Content → Option (PollingThread Content)
  | .begin kind isGated =>
    match thread.polling with
    | none =>
      let gated := if isGated then thread.executor.calls.length :: thread.gated else thread.gated
      (thread.executor.step? (.begin kind)).map fun after =>
        { thread with executor := after, gated := gated }
    | some _ => none
  | .enter task =>
    match thread.polling with
    | none => some { thread with polling := some task }
    | some _ => none
  | .go clock => thread.go? clock
  | .drop call =>
    match thread.polling with
    | none =>
      (thread.executor.step? (.abandon call)).map fun after => { thread with executor := after }
    | some _ => none
  | .open job =>
    match thread.polling with
    | none => some { thread with gated := thread.gated.filter (· != job) }
    | some _ => none
  | .work step =>
    if thread.isFreeWork step then
      (thread.executor.step? step).map fun after => { thread with executor := after }
    else none

/-- The states that the steps lead to from a new executor. -/
inductive Reachable (poolSize capacity : Nat) : PollingThread Content → Prop where
  | new : Reachable poolSize capacity (PollingThread.new poolSize capacity)
  | step {before after : PollingThread Content} {step : PollingStep Content}
      (reached : Reachable poolSize capacity before) (taken : before.step? step = some after) :
      Reachable poolSize capacity after

/-- Whether nobody can do anything any more although a poll is in progress. -/
def IsStuck (thread : PollingThread Content) : Prop :=
  thread.polling.isSome ∧ ∀ step, thread.step? step = none

end PollingThread

end WalletBridge
