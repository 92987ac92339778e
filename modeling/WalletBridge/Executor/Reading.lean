/-
This file reads how many jobs an executor has in flight while the executor goes on. The reader
takes the number of submitted jobs first and the number of completed ones later, and the executor
may take any steps in between. Both numbers are words. What matters afterwards is which jobs were
queued or running all the time, and which had been counted as submitted when the reader took that
number.
-/

import WalletBridge.Executor.Machine

namespace WalletBridge

/-- How far a reader is, with what it has read. -/
inductive InFlightReader where
  | idle
  | started
  | readSubmitted (submitted : UInt64)
  | finished (inFlight : UInt64)
  deriving Repr, DecidableEq

/-- An executor and a reader of its counters. -/
structure InFlightReading (Content : Type) where
  executor : Executor Content
  reader : InFlightReader
  /-- The jobs that have been queued or running since the reader started. -/
  steady : List CallId
  /-- The executor as it was when the reader took the number of submitted jobs. -/
  past : Executor Content

/-- One step of somebody. -/
inductive InFlightStep (Content : Type) where
  /-- The executor takes a step. -/
  | act (step : ExecutorStep Content)
  /-- The reader starts, or takes the next number. -/
  | read

namespace Executor

variable {Content : Type}

/-- The job that a worker runs, until it is counted as completed. -/
def runningJob? : Worker Content → Option CallId
  | .running job | .ended job _ | .judged job _ => some job
  | _ => none

/-- The job that a message brings. -/
def queuedJob? : Message → Option CallId
  | .run job => some job
  | .stop => none

/-- The jobs that are queued or running. -/
def busyJobs (executor : Executor Content) : List CallId :=
  executor.queue.filterMap queuedJob? ++ executor.workers.filterMap runningJob?

end Executor

namespace InFlightReading

variable {Content : Type}

/-- An executor before anybody reads. -/
def new (executor : Executor Content) : InFlightReading Content := ⟨executor, .idle, [], executor⟩

/-- Lets the executor take a step. -/
def act? (reading : InFlightReading Content) (step : ExecutorStep Content) :
    Option (InFlightReading Content) :=
  (reading.executor.step? step).map fun after =>
    { reading with
      executor := after
      steady := reading.steady.filter after.busyJobs.contains }

/-- Lets the reader take a step. -/
def read? (reading : InFlightReading Content) : Option (InFlightReading Content) :=
  match reading.reader with
  | .idle => some { reading with reader := .started, steady := reading.executor.busyJobs }
  | .started =>
    some { reading with
      reader := .readSubmitted reading.executor.stats.snapshot.submitted
      past := reading.executor }
  | .readSubmitted submitted =>
    some { reading with
      reader := .finished
        { reading.executor.stats.snapshot with submitted := submitted }.inFlight }
  | .finished _ => none

/-- Takes a step, when it is possible. -/
def step? (reading : InFlightReading Content) :
    InFlightStep Content → Option (InFlightReading Content)
  | .act step => reading.act? step
  | .read => reading.read?

/-- Takes steps one after another, when all are possible. -/
def run? (reading : InFlightReading Content) :
    List (InFlightStep Content) → Option (InFlightReading Content)
  | [] => some reading
  | step :: rest => (reading.step? step).bind fun after => after.run? rest

/-- The states that the steps of an executor and of a reader lead to. -/
inductive Reachable (poolSize capacity : Nat) : InFlightReading Content → Prop where
  | new : Reachable poolSize capacity (InFlightReading.new (Executor.new poolSize capacity))
  | step {before after : InFlightReading Content} {step : InFlightStep Content}
      (reached : Reachable poolSize capacity before) (taken : before.step? step = some after) :
      Reachable poolSize capacity after

end InFlightReading

end WalletBridge
