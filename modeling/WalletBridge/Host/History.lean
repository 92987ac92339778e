/-
This file strings together what happens in a process: operations on objects, and changes of the
binding between them. An object keeps the library that made it, whatever the binding holds later.
-/

import WalletBridge.Host.Session

namespace WalletBridge

/-- Something that happens in a process. -/
inductive Occurrence where
  | operation (operation : Operation)
  /-- A library that is linked in is to be bound. -/
  | install (resolver : Resolver)
  /-- The library at a path is to be bound. -/
  | bind (config : LibraryConfig)
  /-- The binding is cleared. -/
  | teardown

/-- Whether something that happens changes nothing but the binding. -/
def Occurrence.isRebinding : Occurrence → Bool
  | .operation _ => false
  | _ => true

namespace Session

variable {State : Type}

/-- A session without objects, in a process that has done nothing yet. -/
def fresh (environment : Option String) (native : State) : Session State :=
  ⟨.fresh environment native, []⟩

/-- Changes the binding. -/
def rebind (change : Binding → Binding) (session : Session State) : Session State :=
  { session with process :=
    { session.process with binding := change session.process.binding } }

/-- Lets something happen; an operation gets a response. -/
def occur (around : Surroundings State) (occurrence : Occurrence) (session : Session State) :
    Option Response × Session State :=
  match occurrence with
  | .operation operation =>
    let (response, after) := session.operate around operation
    (some response, after)
  | .install resolver => (none, session.rebind fun binding => (binding.install resolver).2)
  | .bind config => (none, session.rebind fun binding => (binding.bind config around.loader).2)
  | .teardown => (none, session.rebind fun binding => binding.teardown.2)

/-- Lets things happen one after another, and keeps the responses in order. -/
def occurAll (around : Surroundings State) :
    List Occurrence → Session State → List Response × Session State
  | [], session => ([], session)
  | occurrence :: rest, session =>
    let (response, after) := session.occur around occurrence
    let (responses, last) := occurAll around rest after
    (response.toList ++ responses, last)

/-- How many objects have a native object. -/
def liveCount (session : Session State) : Nat := session.objects.countP (·.2.isLive)

end Session

end WalletBridge
