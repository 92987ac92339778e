/-
This file holds handles. A handle owns one native object: its slot holds the object's address until
the object is released, and is empty from then on. Releasing empties the slot and calls the free
function of the object's kind in the library that made the object; releasing an empty slot does
nothing.
-/

import WalletBridge.Host.Basic

namespace WalletBridge

/-- The owner of one native object of a kind. -/
structure Handle (kind : ResourceKind) where
  library : NativeLibrary
  slot : Option Address
  deriving Repr, DecidableEq

/-- Whether a handle's object is still there. -/
inductive HandleState where
  | live
  | released
  deriving Repr, DecidableEq

/-- The name of a state. -/
def HandleState.name : HandleState → String
  | .live => "Live"
  | .released => "Released"

namespace Handle

variable {kind : ResourceKind}

/-- The state of a handle. -/
def state (handle : Handle kind) : HandleState :=
  if handle.slot.isSome then .live else .released

/-- Whether the object is still there. -/
def isLive (handle : Handle kind) : Bool := handle.slot.isSome

/-- A handle in one line. -/
def text (handle : Handle kind) : String :=
  "OpaqueHandle \x7b kind: " ++ kind.name ++ ", state: " ++ handle.state.name ++ " \x7d"

/-- The object's address, as long as it is there. -/
def address (handle : Handle kind) : Except BridgeError Address :=
  match handle.slot with
  | some address => .ok address
  | none => .error (.useAfterFree kind)

/-- Takes ownership of an object; null is no object. -/
def wrap {State : Type} (kind : ResourceKind) (library : NativeLibrary) (raw : Option Address) :
    Action State (Handle kind) :=
  match raw with
  | none => Run.fail (.nullPointer (kind.name ++ " constructor"))
  | some address => fun process =>
    (.value ⟨library, some address⟩,
      { process with lifecycle := process.lifecycle.recordWrapped })

end Handle

namespace Surroundings

variable {State : Type} (around : Surroundings State)

/-- Releases a handle's object, and tells whether there was one. -/
def releaseHandle {kind : ResourceKind} (cause : ReleaseCause) (handle : Handle kind)
    (process : Host State) : (Bool × Handle kind) × Host State :=
  match handle.slot with
  | none => ((false, handle), process)
  | some address =>
    let freed := around.release handle.library.id (.object kind address) process
    ((true, { handle with slot := none }),
      { freed with lifecycle := freed.lifecycle.recordRelease cause })

end Surroundings

end WalletBridge
