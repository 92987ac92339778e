/-
This file holds the shape of everything the host does: a run reads and changes a state and ends
with a value, with an error, or by halting the program. Errors and halts pass through what follows
them, except that a guarded run always does its cleanup.
-/

import WalletBridge.Error.Bridge
import WalletBridge.Word

namespace WalletBridge

/-- How a run ended. -/
inductive Outcome (Content : Type) where
  | value (content : Content)
  | failure (error : BridgeError)
  | halted (halt : Halt)
  deriving Repr, DecidableEq

namespace Outcome

/-- The outcome with another value in place of the value. -/
def map {Content Other : Type} (change : Content → Other) : Outcome Content → Outcome Other
  | .value content => .value (change content)
  | .failure error => .failure error
  | .halted halt => .halted halt

/-- What a computation without halts ends with. -/
def ofExcept {Content : Type} : Except BridgeError Content → Outcome Content
  | .ok content => .value content
  | .error error => .failure error

end Outcome

/-- A run over a state. -/
def Run (State Content : Type) := State → Outcome Content × State

namespace Run

variable {State Content Other : Type}

/-- Ends with a value. -/
def pure (content : Content) : Run State Content := fun state => (.value content, state)

/-- Goes on with what a run ended with, if that is a value. -/
def bind (first : Run State Content) (next : Content → Run State Other) : Run State Other :=
  fun state =>
    match first state with
    | (.value content, after) => next content after
    | (.failure error, after) => (.failure error, after)
    | (.halted halt, after) => (.halted halt, after)

instance : Monad (Run State) where
  pure := Run.pure
  bind := Run.bind

/-- Ends with an error. -/
def fail (error : BridgeError) : Run State Content := fun state => (.failure error, state)

/-- Halts the program. -/
def halt (reason : Halt) : Run State Content := fun state => (.halted reason, state)

/-- Ends as a computation without state did. -/
def lift (result : Except BridgeError Content) : Run State Content :=
  fun state => (Outcome.ofExcept result, state)

/-- Changes the state. -/
def modify (change : State → State) : Run State Unit := fun state => (.value (), change state)

/-- Reads the state. -/
def read (view : State → Content) : Run State Content := fun state => (.value (view state), state)

/-- Does a run and then a cleanup, whatever the run ended with; the run's outcome is kept. -/
def guarded (body : Run State Content) (cleanup : State → State) : Run State Content :=
  fun state => ((body state).1, cleanup (body state).2)

theorem pure_apply (content : Content) (state : State) :
    (Pure.pure content : Run State Content) state = (.value content, state) := rfl

theorem bind_apply (first : Run State Content) (next : Content → Run State Other)
    (state : State) :
    (first >>= next) state =
      match first state with
      | (.value content, after) => next content after
      | (.failure error, after) => (.failure error, after)
      | (.halted halt, after) => (.halted halt, after) := rfl

/-- Does a run for every item of a list, in order, until one does not end with a value. -/
def each {Item : Type} (run : Item → Run State Content) : List Item → Run State (List Content)
  | [] => pure []
  | item :: rest =>
    bind (run item) fun content => bind (each run rest) fun contents => pure (content :: contents)

end Run

end WalletBridge
