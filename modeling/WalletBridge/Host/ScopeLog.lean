/-
This file keeps a log of a program. Beside what the program does, the log notes when a name gets an
object, when a block that uses an object is entered and left, and when an object is freed: by which
call, and for what reason. Objects that have a name one after another are told apart by their
generation. The last event stands first, as in the journal, and the log has no influence on the
program.
-/

import WalletBridge.Host.Scope

namespace WalletBridge

/-- One of the objects that have a name one after another. -/
structure Resource where
  label : String
  /-- How many objects have had the name, this one included. -/
  generation : Nat
  deriving Repr, DecidableEq

/-- What led to the freeing of an object. -/
inductive Freeing where
  /-- Its owner disposed of it. -/
  | disposed
  /-- A block that used it was left. -/
  | left
  /-- Its owner went away. -/
  | dropped
  deriving Repr, DecidableEq

/-- The cause that such a release is counted under. -/
def Freeing.cause : Freeing → ReleaseCause
  | .disposed => .explicit
  | .left => .explicit
  | .dropped => .drop

/-- What a log notes. -/
inductive ScopeEvent where
  /-- A name got an object. -/
  | made (resource : Resource)
  /-- A block that uses an object was entered. -/
  | entered (resource : Resource)
  /-- An object was freed by a library. -/
  | freed (resource : Resource) (library : LibraryId) (kind : ResourceKind) (address : Address)
      (why : Freeing)
  /-- A block that uses an object was left. -/
  | left (resource : Resource)
  deriving Repr, DecidableEq

/-- Whether a name got an object. -/
def ScopeEvent.isMade (label : String) : ScopeEvent → Bool
  | .made resource => resource.label == label
  | _ => false

/-- The events of a program, the last first. -/
abbrev ScopeLog := List ScopeEvent

/-- What an operation does to the objects that names stand for. -/
inductive TableChange where
  | none
  /-- A name got an object; a former one went away. -/
  | made (label : String)
  | disposed (target : String)
  | dropped (target : String)
  deriving Repr, DecidableEq

/-- What an operation has done to the objects, by its response. -/
def Operation.change (operation : Operation) : Response → TableChange
  | .answer answer =>
    match operation, answer with
    | .dispose target, _ => .disposed target
    | .drop target, _ => .dropped target
    | _, .label label => .made label
    | _, _ => .none
  | _ => .none

/-- The name whose object an operation takes away: the name that a constructor keeps its result
under, or the name of an object that is dropped. -/
def Operation.taken? : Operation → Option String
  | .openMemory label => some label
  | .openFile label _ => some label
  | .openWallet label .. => some label
  | .connect label _ => some label
  | .parsePsbt label _ => some label
  | .newBuilder label => some label
  | .finish label .. => some label
  | .adopt label .. => some label
  | .drop target => some target
  | _ => none

namespace ScopeLog

variable {State : Type}

/-- The object that has a name now. -/
def current (log : ScopeLog) (label : String) : Resource :=
  ⟨label, log.countP (·.isMade label)⟩

/-- The object that gets a name next. -/
def next (log : ScopeLog) (label : String) : Resource :=
  ⟨label, log.countP (·.isMade label) + 1⟩

/-- Notes that the object that has a name is released, unless it is already. -/
def free (label : String) (object : Object) (why : Freeing) (log : ScopeLog) : ScopeLog :=
  match object.handle.slot with
  | some address =>
    .freed (log.current label) object.handle.library.id object.kind address why :: log
  | none => log

/-- Notes that the object under a name is released, if there is one. -/
def release (session : Session State) (label : String) (why : Freeing) (log : ScopeLog) :
    ScopeLog :=
  match session.object? label with
  | some object => log.free label object why
  | none => log

/-- Notes what an operation does to the objects of a session. -/
def note (session : Session State) (log : ScopeLog) : TableChange → ScopeLog
  | .none => log
  | .made label =>
    let released := log.release session label .dropped
    .made (released.next label) :: released
  | .disposed target => log.release session target .disposed
  | .dropped target => log.release session target .dropped

/-- Notes that everything goes away that is left in a table. -/
def close : List (String × Object) → ScopeLog → ScopeLog
  | [], log => log
  | entry :: rest, log => close rest (log.free entry.1 entry.2 .dropped)

end ScopeLog

namespace Program

variable {State : Type}

/-- Whether a program leaves the objects in place that the blocks around it use. A block has its
object on loan, so nothing inside the block can take the object away. -/
def keepsUsed (used : List String) : Program → Bool
  | .finish => true
  | .attempt operation rest => !operation.taken?.any used.contains && keepsUsed used rest
  | .demand operation rest => !operation.taken?.any used.contains && keepsUsed used rest
  | .halt _ => true
  | .using target body rest => keepsUsed (target :: used) body && keepsUsed used rest
  | .catching body rest => keepsUsed used body && keepsUsed used rest

/-- Runs a program and keeps a log. -/
def logged (around : Surroundings State) :
    Program → Session State → ScopeLog → (Ending × List Response) × Session State × ScopeLog
  | .finish, session, log => ((.finished, []), session, log)
  | .attempt operation rest, session, log =>
    let (response, after) := session.operate around operation
    let noted := log.note session (operation.change response)
    match response with
    | .halted reason => ((.halted reason, [response]), after, noted)
    | _ =>
      let ((ending, responses), last) := logged around rest after noted
      ((ending, response :: responses), last)
  | .demand operation rest, session, log =>
    let (response, after) := session.operate around operation
    let noted := log.note session (operation.change response)
    match endingOf response with
    | .finished =>
      let ((ending, responses), last) := logged around rest after noted
      ((ending, response :: responses), last)
    | ending => ((ending, [response]), after, noted)
  | .halt message, session, log => ((.halted ⟨message⟩, []), session, log)
  | .using target body rest, session, log =>
    match session.object? target with
    | none => ((.missing "target", []), session, log)
    | some _ =>
      let resource := log.current target
      let ((ending, responses), inside, noted) :=
        logged around body session (.entered resource :: log)
      let after := leave around target inside
      let left := .left resource :: noted.release inside target .left
      match ending with
      | .finished =>
        let ((last, others), final) := logged around rest after left
        ((last, responses ++ others), final)
      | ending => ((ending, responses), after, left)
  | .catching body rest, session, log =>
    let ((ending, responses), after, noted) := logged around body session log
    match ending with
    | .halted _ | .finished =>
      let ((last, others), final) := logged around rest after noted
      ((last, responses ++ others), final)
    | ending => ((ending, responses), after, noted)

/-- The log of a program in a process without objects, up to the close of the session. -/
def wholeLog (around : Surroundings State) (process : Host State) (program : Program) : ScopeLog :=
  let ended := program.logged around ⟨process, []⟩ []
  ended.2.2.close ended.2.1.objects

/-- The log has no influence on the program. -/
theorem logged_run (around : Surroundings State) (program : Program) (session : Session State)
    (log : ScopeLog) :
    ((program.logged around session log).1, (program.logged around session log).2.1) =
      program.run around session := by
  induction program generalizing session log with
  | finish => rfl
  | attempt operation rest inductionHypothesis =>
    rcases done : session.operate around operation with ⟨response, after⟩
    simp only [logged, run, done, ← inductionHypothesis after
      (log.note session (operation.change response))]
    cases response <;> rfl
  | demand operation rest inductionHypothesis =>
    rcases done : session.operate around operation with ⟨response, after⟩
    simp only [logged, run, done, ← inductionHypothesis after
      (log.note session (operation.change response))]
    cases response <;> rfl
  | halt message => rfl
  | «using» target body rest inBody inRest =>
    cases found : session.object? target with
    | none => simp only [logged, run, found]
    | some object =>
      simp only [logged, run, found, ← inBody session (.entered (log.current target) :: log)]
      rcases logged around body session _ with ⟨⟨ending, responses⟩, inside, noted⟩
      cases ending with
      | finished =>
        simp only [← inRest (leave around target inside)
          (.left (log.current target) :: noted.release inside target .left)]
      | _ => rfl
  | catching body rest inBody inRest =>
    simp only [logged, run, ← inBody session log]
    rcases logged around body session log with ⟨⟨ending, responses⟩, after, noted⟩
    cases ending with
    | finished => simp only [← inRest after noted]
    | halted => simp only [← inRest after noted]
    | _ => rfl

end Program

end WalletBridge
