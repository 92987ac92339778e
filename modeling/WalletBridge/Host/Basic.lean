/-
This file holds the state of a host process: the binding, the native side, the lifecycle counters
and the journal of everything that crossed the boundary. It also holds the three ways to cross:
asking an entry point, making a direct call, and releasing.

How a transit struct and a sequence block are read comes first, for any state. A null answer is an
error of its own. A transit struct is released exactly once, after the error or the payload has been
read, on every path; a block that is not null is released exactly once, after the last element was
read, on every path. The payload itself belongs to whoever converts it.
-/

import WalletBridge.Host.Text
import WalletBridge.Boundary.Crossing
import WalletBridge.Boundary.Binding

namespace WalletBridge

/-! ### Answers and sequences -/

section Reading

variable {State Content : Type}

/-- Reads an answer: the error slot first, then the payload through `convert`. -/
def decodeWith {Raw : Type} (operation : String) (reply : Option (Raw × Option RawError))
    (release : State → State) (convert : Raw → Run State Content) : Run State Content :=
  match reply with
  | none => Run.fail (.nullPointer operation)
  | some (_, some error) => (Run.fail (readError error)).guarded release
  | some (value, none) => (convert value).guarded release

/-- Reads the elements of a block in order, up to the first that cannot be read. -/
def toSequence {Raw : Type} (block : Block Raw) (release : State → State)
    (element : Raw → Run State Content) : Run State (List Content) :=
  match block with
  | .null claimed =>
    if claimed = 0 then Run.pure []
    else Run.fail (.invalidInput
      ("null sequence claiming " ++ toString claimed ++ " elements"))
  | .held elements _ => (Run.each element elements).guarded release

end Reading

/-! ### Lifecycle counters -/

/-- How many handles were wrapped, and how they were released. -/
structure Lifecycle where
  wrapped : Nat
  explicit : Nat
  byDrop : Nat
  deriving Repr, DecidableEq

/-- Why a handle is released. -/
inductive ReleaseCause where
  /-- Its owner asked for it. -/
  | explicit
  /-- Its owner went away. -/
  | drop
  deriving Repr, DecidableEq

namespace Lifecycle

/-- The counters of a process that has wrapped nothing. -/
def zero : Lifecycle := ⟨0, 0, 0⟩

/-- Counts a wrapped handle. -/
def recordWrapped (counters : Lifecycle) : Lifecycle :=
  { counters with wrapped := counters.wrapped + 1 }

/-- Counts a released handle. -/
def recordRelease (counters : Lifecycle) : ReleaseCause → Lifecycle
  | .explicit => { counters with explicit := counters.explicit + 1 }
  | .drop => { counters with byDrop := counters.byDrop + 1 }

end Lifecycle

/-- The counters as they are read: three words, not necessarily of one moment. -/
structure LifecycleSnapshot where
  wrapped : UInt64
  explicit : UInt64
  byDrop : UInt64
  deriving Repr, DecidableEq

/-- How many handles are live: what was wrapped less what was released, not below zero. -/
def LifecycleSnapshot.live (snapshot : LifecycleSnapshot) : Except Halt UInt64 := do
  let released ← Word.add snapshot.explicit snapshot.byDrop
  pure (Word.saturatingSubtract snapshot.wrapped released)

/-! ### The process -/

/-- The state of a host process. -/
structure Host (State : Type) where
  /-- The variable that names the library to load. -/
  environment : Option String
  binding : Binding
  native : State
  lifecycle : Lifecycle
  /-- What crossed the boundary, the last first. -/
  journal : List Crossing

/-- A process that has done nothing yet. -/
def Host.fresh {State : Type} (environment : Option String) (native : State) : Host State :=
  ⟨environment, .empty, native, .zero, []⟩

/-- A run of the host process. -/
abbrev Action (State : Type) := Run (Host State)

/-- The outside of a host process: the native libraries and the system's loader. -/
structure Surroundings (State : Type) where
  side : NativeSide State
  loader : Loader

namespace Surroundings

variable {State : Type} (around : Surroundings State)

/-- The bound library; the first use binds it. -/
def library : Action State NativeLibrary := fun process =>
  let config := LibraryConfig.default process.environment
  let (bound, binding) := process.binding.bind config around.loader
  let after := { process with binding := binding }
  match bound with
  | .ok library => (.value library, after)
  | .error cause => (.failure (.linkage cause), after)

/-- Asks an entry point. -/
def ask {payload : Payload} (library : LibraryId) (entry : Entry payload) :
    Action State (Reply payload) := fun process =>
  let (reply, native) := around.side.answer library entry process.native
  (.value reply,
    { process with
      native := native
      journal := .asked library payload entry reply :: process.journal })

/-- Makes a direct call. -/
def call {payload : Payload} (library : LibraryId) (direct : DirectCall payload) :
    Action State payload.Raw := fun process =>
  let (value, native) := around.side.hand library direct process.native
  (.value value,
    { process with
      native := native
      journal := .handed library payload direct value :: process.journal })

/-- Gives an allocation back. -/
def release (library : LibraryId) (release : Release) (process : Host State) : Host State :=
  { process with
    native := around.side.release library release process.native
    journal := .released library release :: process.journal }

/-- Asks an entry point and reads its answer. -/
def query {payload : Payload} {Content : Type} (library : LibraryId) (entry : Entry payload)
    (convert : payload.Raw → Action State Content) : Action State Content := do
  let reply ← around.ask library entry
  decodeWith entry.symbol (reply.map fun transit => (transit.value, transit.error))
    (around.release library (.transit payload (reply.bind (·.error)))) convert

/-- Takes an owned string over: it is read and released. -/
def takeText (library : LibraryId) (raw : NativeString) (operation : String) :
    Action State String :=
  match raw with
  | none => Run.fail (.nullPointer operation)
  | some octets => (Run.lift (readOwned octets)).guarded (around.release library (.text octets))

end Surroundings

end WalletBridge
