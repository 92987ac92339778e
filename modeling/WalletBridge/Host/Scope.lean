/-
This file holds programs over a session. Besides single operations a program can use an object for
the length of a block, halt, or catch a halt. A block releases its object on every way out of it,
inner blocks before outer ones, and passes on how it ended.
-/

import WalletBridge.Host.Session

namespace WalletBridge

/-- A program over a session. -/
inductive Program where
  /-- The end. -/
  | finish
  /-- An operation whose failure the program passes over. -/
  | attempt (operation : Operation) (rest : Program)
  /-- An operation whose failure ends the innermost block, and the program around it. -/
  | demand (operation : Operation) (rest : Program)
  /-- Halts with a message. -/
  | halt (message : String)
  /-- A block that uses an object. -/
  | using (target : String) (body rest : Program)
  /-- A block whose halt is caught. -/
  | catching (body rest : Program)

/-- How a program ended. -/
inductive Ending where
  | finished
  | refused (error : BridgeError)
  | halted (halt : Halt)
  /-- An operation named an object that is not there. -/
  | missing (role : String)

namespace Program

variable {State : Type}

/-- How a program goes on after an operation that it cannot do without. -/
def endingOf : Response → Ending
  | .answer _ => .finished
  | .refused error => .refused error
  | .halted reason => .halted reason
  | .missing role => .missing role

/-- Releases the object of a name, if there is one. -/
def leave (around : Surroundings State) (target : String) (session : Session State) :
    Session State :=
  match session.object? target with
  | some object => (session.dispose around target object).2
  | none => session

/-- Runs a program: how it ended, the responses to its operations in order, and the session
after it. -/
def run (around : Surroundings State) :
    Program → Session State → (Ending × List Response) × Session State
  | .finish, session => ((.finished, []), session)
  | .attempt operation rest, session =>
    let (response, after) := session.operate around operation
    match response with
    | .halted reason => ((.halted reason, [response]), after)
    | _ =>
      let ((ending, responses), last) := run around rest after
      ((ending, response :: responses), last)
  | .demand operation rest, session =>
    let (response, after) := session.operate around operation
    match endingOf response with
    | .finished =>
      let ((ending, responses), last) := run around rest after
      ((ending, response :: responses), last)
    | ending => ((ending, [response]), after)
  | .halt message, session => ((.halted ⟨message⟩, []), session)
  | .using target body rest, session =>
    match session.object? target with
    | none => ((.missing "target", []), session)
    | some _ =>
      let ((ending, responses), inside) := run around body session
      let after := leave around target inside
      match ending with
      | .finished =>
        let ((last, others), final) := run around rest after
        ((last, responses ++ others), final)
      | ending => ((ending, responses), after)
  | .catching body rest, session =>
    let ((ending, responses), after) := run around body session
    match ending with
    | .halted _ | .finished =>
      let ((last, others), final) := run around rest after
      ((last, responses ++ others), final)
    | ending => ((ending, responses), after)

end Program

end WalletBridge
