/-
This file holds the executor as a machine: callers, workers and the one who shuts it down take
turns in any order, and each turn is one atomic step on the shared state.

A call offers its job to a bounded queue, counts it, and waits for the reply in its own mailbox.
While the queue is full it pauses and offers again. A worker takes the first message of the queue.
It runs a job to its end, counts it, and puts the outcome into the mailbox, unless the caller has
left. Shutting down means: calls that begin later are refused, one stop message per worker goes
through the same queue, and each worker leaves at the stop message it takes. What is still in the
queue when the last worker leaves is thrown away, and its callers find their mailboxes lost.
-/

import WalletBridge.Executor.Failure
import WalletBridge.Executor.Stats

namespace WalletBridge

/-! ### Calls -/

/-- The number of a call: calls are numbered as they begin, and a job has the number of its
call. -/
abbrev CallId := Nat

/-- How a call deals with a full queue and with a late reply. -/
inductive CallKind where
  /-- Pauses and offers again, and waits as long as it takes. -/
  | patient
  /-- Like a patient call, up to this many milliseconds in all. -/
  | timed (milliseconds : Nat)
  /-- Fails at once when the queue is full. -/
  | immediate
  deriving Repr, DecidableEq

/-- Where a call stands. -/
inductive CallStage (Content : Type) where
  /-- Has done nothing yet. -/
  | fresh
  /-- Found the executor open, and offers its job next. -/
  | offering
  /-- Found the queue full, and looks next whether the executor is still open. -/
  | crowded
  /-- Pauses before it offers its job again. -/
  | pausing
  /-- Has put its job into the queue, and counts it next. -/
  | queued
  /-- Waits for the reply. -/
  | waiting
  /-- Looked for the reply and found none, and looks at its clock next. -/
  | missed
  /-- Found its time over, and leaves next. -/
  | expired
  /-- Is over, with what its caller got. -/
  | done (reply : Except ExecutorError Content)
  /-- Was dropped by its caller. -/
  | abandoned

/-- The place where a call waits for the reply to its job. -/
inductive Mailbox (Content : Type) where
  | empty
  | filled (reply : Except ExecutorError Content)
  /-- The job is gone and will never reply. -/
  | lost

/-- A call. -/
structure Call (Content : Type) where
  kind : CallKind
  stage : CallStage Content
  mailbox : Mailbox Content

/-- Whether somebody would still take a reply. -/
def CallStage.isListening {Content : Type} : CallStage Content → Bool
  | .done _ => false
  | .abandoned => false
  | _ => true

/-! ### Workers and the queue -/

/-- What the queue holds. -/
inductive Message where
  | run (job : CallId)
  | stop
  deriving Repr, DecidableEq

/-- What a worker is doing. -/
inductive Worker (Content : Type) where
  /-- Waits for a message. -/
  | idle
  /-- Runs a job. -/
  | running (job : CallId)
  /-- Its job ended without a value, which it counts next. -/
  | ended (job : CallId) (outcome : Outcome Content)
  /-- Counts its job as completed next. -/
  | judged (job : CallId) (outcome : Outcome Content)
  /-- Sends the reply next. -/
  | counted (job : CallId) (outcome : Outcome Content)
  /-- Found that the caller had left, which it counts next. -/
  | unheard (job : CallId)
  /-- Took a stop message, and leaves next. -/
  | leaving
  /-- Has left. -/
  | stopped

/-- Whether a worker has left. -/
def Worker.isStopped {Content : Type} : Worker Content → Bool
  | .stopped => true
  | _ => false

/-- How far the shutdown is. -/
inductive Closing where
  | open
  /-- Calls are refused; this many stop messages are still to be sent. -/
  | stopping (left : Nat)
  /-- All workers have left. -/
  | closed
  deriving Repr, DecidableEq

/-- What happens to a job. -/
inductive JobEvent (Content : Type) where
  /-- Enters the queue. -/
  | queued (job : CallId)
  /-- Is counted as submitted. -/
  | submitted (job : CallId)
  /-- Begins to run. -/
  | started (job : CallId)
  /-- Has run to its end. -/
  | ended (job : CallId) (outcome : Outcome Content)
  /-- Is counted as failed. -/
  | failed (job : CallId)
  /-- Is counted as completed. -/
  | completed (job : CallId)
  /-- Is counted as cancelled. -/
  | cancelled (job : CallId)
  /-- Is thrown away without having run. -/
  | discarded (job : CallId)

/-- The state of an executor. -/
structure Executor (Content : Type) where
  /-- How many messages fit in the queue. -/
  capacity : Nat
  /-- The messages, the first one first. -/
  queue : List Message
  workers : List (Worker Content)
  calls : List (Call Content)
  closing : Closing
  stats : ExecutorStats
  /-- What happened to the jobs, the last first. -/
  journal : List (JobEvent Content)

namespace Executor

variable {Content : Type}

/-- A new executor with this many workers and this much room; both are at least one. -/
def new (poolSize capacity : Nat) : Executor Content :=
  { capacity := max capacity 1
    queue := []
    workers := List.replicate (max poolSize 1) .idle
    calls := []
    closing := .open
    stats := .zero
    journal := [] }

/-- Whether calls are accepted. -/
def isRunning (executor : Executor Content) : Bool := executor.closing == .open

/-- Whether all workers have left. -/
def isDeserted (executor : Executor Content) : Bool := executor.workers.all Worker.isStopped

/-- Whether the queue has room. -/
def hasRoom (executor : Executor Content) : Bool := executor.queue.length < executor.capacity

/-- Puts a worker into another phase. -/
def setWorker (executor : Executor Content) (index : Nat) (worker : Worker Content) :
    Executor Content :=
  { executor with workers := executor.workers.set index worker }

/-- Puts a call into another stage. -/
def setStage (executor : Executor Content) (call : CallId) (stage : CallStage Content) :
    Executor Content :=
  { executor with calls := executor.calls.modify call fun former => { former with stage := stage } }

/-- Puts something into the mailbox of a call. -/
def setMailbox (executor : Executor Content) (call : CallId) (mailbox : Mailbox Content) :
    Executor Content :=
  { executor with
    calls := executor.calls.modify call fun former => { former with mailbox := mailbox } }

/-- Writes an event into the journal. -/
def record (executor : Executor Content) (event : JobEvent Content) : Executor Content :=
  { executor with journal := event :: executor.journal }

/-- Appends a message to the queue. -/
def push (executor : Executor Content) (message : Message) : Executor Content :=
  { executor with queue := executor.queue ++ [message] }

/-- Throws the messages of the queue away: the mailboxes of their jobs are lost. -/
def discard (executor : Executor Content) : Executor Content :=
  executor.queue.foldl
    (fun left message =>
      match message with
      | .run job => (left.setMailbox job .lost).record (.discarded job)
      | .stop => left)
    { executor with queue := [] }

/-- Refuses a call. -/
def refuse (executor : Executor Content) (call : CallId) (error : ExecutorError) :
    Executor Content :=
  executor.setStage call (.done (.error error))

end Executor

/-! ### Steps -/

/-- One atomic step of somebody. -/
inductive ExecutorStep (Content : Type) where
  /-- A call begins. -/
  | begin (kind : CallKind)
  /-- A fresh call looks whether the executor is open. -/
  | check (call : CallId)
  /-- A call offers its job to the queue. -/
  | offer (call : CallId)
  /-- A call that found the queue full looks whether the executor is still open. -/
  | recheck (call : CallId)
  /-- A pause ends. -/
  | retry (call : CallId)
  /-- A call counts the job it has queued. -/
  | count (call : CallId)
  /-- A call takes what is in its mailbox. -/
  | take (call : CallId)
  /-- A timed call looks into its mailbox and finds nothing. -/
  | miss (call : CallId)
  /-- A timed call looks at its clock and has time left. -/
  | resume (call : CallId)
  /-- A timed call looks at its clock and has no time left. -/
  | expire (call : CallId)
  /-- A timed call leaves. -/
  | giveUp (call : CallId)
  /-- A caller drops its call. -/
  | abandon (call : CallId)
  /-- A worker takes the first message. -/
  | receive (worker : Nat)
  /-- A job ends. -/
  | finish (worker : Nat) (outcome : Outcome Content)
  /-- A worker counts that its job failed. -/
  | judge (worker : Nat)
  /-- A worker counts that its job is completed. -/
  | complete (worker : Nat)
  /-- A worker sends the reply. -/
  | reply (worker : Nat)
  /-- A worker counts that nobody took the reply. -/
  | regret (worker : Nat)
  /-- A worker leaves. -/
  | leave (worker : Nat)
  /-- The shutdown begins. -/
  | shut
  /-- The shutdown sends a stop message. -/
  | stop
  /-- The shutdown ends. -/
  | join

namespace Executor

variable {Content : Type}

/-- Offers the job of a call to the queue. -/
def offer (executor : Executor Content) (id : CallId) (kind : CallKind) : Executor Content :=
  if executor.isDeserted then executor.refuse id .shutDown
  else if executor.hasRoom then 
    ((executor.push (.run id)).setStage id .queued).record (.queued id)
  else
    match kind with
    | .immediate => executor.refuse id .queueFull
    | _ => executor.setStage id .crowded

/-- What a call does in its stage, when that is the step it takes. -/
def stepCall (executor : Executor Content) (id : CallId) (call : Call Content) :
    ExecutorStep Content → Option (Executor Content)
  | .check _ =>
    match call.stage with
    | .fresh =>
      some (if executor.isRunning then executor.setStage id .offering
        else executor.refuse id .shutDown)
    | _ => none
  | .offer _ =>
    match call.stage with
    | .offering => some (executor.offer id call.kind)
    | _ => none
  | .recheck _ =>
    match call.stage with
    | .crowded =>
      some (if executor.isRunning then executor.setStage id .pausing
        else executor.refuse id .shutDown)
    | _ => none
  | .retry _ =>
    match call.stage with
    | .pausing => some (executor.setStage id .offering)
    | _ => none
  | .count _ =>
    match call.stage with
    | .queued =>
      some (({ executor with stats := executor.stats.countSubmitted }.setStage id .waiting).record
        (.submitted id))
    | _ => none
  | .take _ =>
    match call.stage, call.mailbox with
    | .waiting, .filled reply => some (executor.setStage id (.done reply))
    | .waiting, .lost => some (executor.refuse id .shutDown)
    | _, _ => none
  | .miss _ =>
    match call.kind, call.stage, call.mailbox with
    | .timed _, .waiting, .empty => some (executor.setStage id .missed)
    | _, _, _ => none
  | .resume _ =>
    match call.stage with
    | .missed => some (executor.setStage id .waiting)
    | _ => none
  | .expire _ =>
    match call.kind, call.stage with
    | .timed _, .missed => some (executor.setStage id .expired)
    | .timed _, .pausing => some (executor.setStage id .expired)
    | _, _ => none
  | .giveUp _ =>
    match call.kind, call.stage with
    | .timed milliseconds, .expired => some (executor.refuse id (.timeout milliseconds))
    | _, _ => none
  | .abandon _ =>
    match call.stage with
    | .fresh | .pausing | .waiting => some (executor.setStage id .abandoned)
    | _ => none
  | _ => none

/-- What a worker does in its phase, when that is the step it takes. -/
def stepWorker (executor : Executor Content) (index : Nat) (worker : Worker Content) :
    ExecutorStep Content → Option (Executor Content)
  | .receive _ =>
    match worker, executor.queue with
    | .idle, .run job :: rest =>
      some (({ executor with queue := rest }.setWorker index (.running job)).record (.started job))
    | .idle, .stop :: rest => some ({ executor with queue := rest }.setWorker index .leaving)
    | _, _ => none
  | .finish _ outcome =>
    match worker with
    | .running job =>
      let phase := if outcome.isFailed then .ended job outcome else .judged job outcome
      some ((executor.setWorker index phase).record (.ended job outcome))
    | _ => none
  | .judge _ =>
    match worker with
    | .ended job outcome =>
      let counted := { executor with stats := executor.stats.countFailed }
      some ((counted.setWorker index (.judged job outcome)).record (.failed job))
    | _ => none
  | .complete _ =>
    match worker with
    | .judged job outcome =>
      let counted := { executor with stats := executor.stats.countCompleted }
      some ((counted.setWorker index (.counted job outcome)).record (.completed job))
    | _ => none
  | .reply _ =>
    match worker with
    | .counted job outcome =>
      some (
        match executor.calls[job]? with
        | some call =>
          if call.stage.isListening then
            (executor.setMailbox job (.filled outcome.reply)).setWorker index .idle
          else executor.setWorker index (.unheard job)
        | none => executor.setWorker index (.unheard job))
    | _ => none
  | .regret _ =>
    match worker with
    | .unheard job =>
      let counted := { executor with stats := executor.stats.countCancelled }
      some ((counted.setWorker index .idle).record (.cancelled job))
    | _ => none
  | .leave _ =>
    match worker with
    | .leaving =>
      let left := executor.setWorker index .stopped
      some (if left.isDeserted then left.discard else left)
    | _ => none
  | _ => none

/-- What the shutdown does, when that is the step it takes. -/
def stepClosing (executor : Executor Content) : ExecutorStep Content → Option (Executor Content)
  | .shut =>
    match executor.closing with
    | .open => some { executor with closing := .stopping executor.workers.length }
    | _ => none
  | .stop =>
    match executor.closing with
    | .stopping (left + 1) =>
      if executor.isDeserted then some { executor with closing := .stopping left }
      else if executor.hasRoom then
        some { executor.push .stop with closing := .stopping left }
      else none
    | _ => none
  | .join =>
    match executor.closing with
    | .stopping 0 =>
      if executor.isDeserted then some { executor with closing := .closed } else none
    | _ => none
  | _ => none

/-- Takes a step, when it is possible. -/
def step? (executor : Executor Content) (step : ExecutorStep Content) :
    Option (Executor Content) :=
  match step with
  | .begin kind =>
    some { executor with calls := executor.calls ++ [⟨kind, .fresh, .empty⟩] }
  | .check id | .offer id | .recheck id | .retry id | .count id | .take id | .miss id
  | .resume id | .expire id | .giveUp id | .abandon id =>
    match executor.calls[id]? with
    | some call => executor.stepCall id call step
    | none => none
  | .receive index | .finish index _ | .judge index | .complete index | .reply index
  | .regret index | .leave index =>
    match executor.workers[index]? with
    | some worker => executor.stepWorker index worker step
    | none => none
  | .shut | .stop | .join => executor.stepClosing step

/-- The executors that the steps lead to from a new one. -/
inductive Reachable (poolSize capacity : Nat) : Executor Content → Prop where
  | new : Reachable poolSize capacity (Executor.new poolSize capacity)
  | step {before after : Executor Content} {step : ExecutorStep Content}
      (reached : Reachable poolSize capacity before) (taken : before.step? step = some after) :
      Reachable poolSize capacity after

end Executor

end WalletBridge
