/-
This file lists what a caller of the executor can get instead of a result: the job's own error, a
wait that was given up, a full queue, an executor that is shut down, a job that halted, or a worker
that could not be started.
-/

import WalletBridge.Host.Run

namespace WalletBridge

/-- Why a call of the executor gave no result. -/
inductive ExecutorError where
  /-- The job ran and failed. -/
  | bridge (error : BridgeError)
  /-- The caller waited this long; the job may still be running. -/
  | timeout (milliseconds : Nat)
  | queueFull
  | shutDown
  /-- The job halted. -/
  | workerHalted (message : String)
  /-- A worker could not be started. -/
  | spawn (message : String)
  deriving Repr, DecidableEq

namespace ExecutorError

/-- The sentence that reports an error. -/
def message : ExecutorError → String
  | .bridge error => error.message
  | .timeout milliseconds => "Timed out after " ++ toString milliseconds ++ "ms"
  | .queueFull => "Executor queue is full"
  | .shutDown => "Executor is shut down"
  | .workerHalted text => "Worker panicked: " ++ text
  | .spawn text => "Failed to spawn worker: " ++ text

/-- The kind of the job's own error. -/
def kind? : ExecutorError → Option ErrorKind
  | .bridge error => some error.kind
  | _ => none

/-- Whether the job's own error is fatal; the executor's errors are not. -/
def isFatal : ExecutorError → Bool
  | .bridge error => error.isFatal
  | _ => false

end ExecutorError

/-- The payload with which a job halts. -/
inductive HaltPayload where
  | text (content : String)
  /-- Something that is no text. -/
  | other
  deriving Repr, DecidableEq

/-- The halt that is reported for a payload. -/
def HaltPayload.halt : HaltPayload → Halt
  | .text content => ⟨content⟩
  | .other => ⟨"non-string panic payload"⟩

/-- What the caller of a job gets, given how the job ended. -/
def Outcome.reply {Content : Type} : Outcome Content → Except ExecutorError Content
  | .value content => .ok content
  | .failure error => .error (.bridge error)
  | .halted halt => .error (.workerHalted halt.message)

/-- Whether a job ended without a value. -/
def Outcome.isFailed {Content : Type} : Outcome Content → Bool
  | .value _ => false
  | _ => true

end WalletBridge
