/-
This file holds the reading of an answer as single accesses to memory. A transit struct lies at an
address; its error slot points to an error, and the error's slots to two strings. Every access is
written down, with whether the place was live at that moment: memory that was given back can still
be read, and holds whatever it holds.

The conversion of a payload is not known. It can end in any way, change memory as it likes, and call
the library again, so it is any run that tells what it did.
-/

import WalletBridge.Host.Basic

namespace WalletBridge

/-! ### Runs that tell what they did -/

/-- A run that also tells what it did, in order. -/
def Traced (Event State Content : Type) := State → Outcome Content × State × List Event

namespace Traced

variable {Event State Content Other : Type}

/-- Ends with a value. -/
def pure (content : Content) : Traced Event State Content := fun state => (.value content, state, [])

/-- Goes on with what a run ended with, if that is a value. -/
def bind (first : Traced Event State Content) (next : Content → Traced Event State Other) :
    Traced Event State Other := fun state =>
  match first state with
  | (.value content, between, events) =>
    let (ending, after, more) := next content between
    (ending, after, events ++ more)
  | (.failure error, after, events) => (.failure error, after, events)
  | (.halted halt, after, events) => (.halted halt, after, events)

instance : Monad (Traced Event State) where
  pure := Traced.pure
  bind := Traced.bind

/-- Ends with an error. -/
def fail (error : BridgeError) : Traced Event State Content := fun state =>
  (.failure error, state, [])

/-- Halts the program. -/
def halt (reason : Halt) : Traced Event State Content := fun state => (.halted reason, state, [])

/-- Reads the state, which is an event. -/
def observe (view : State → Content) (event : State → Event) : Traced Event State Content :=
  fun state => (.value (view state), state, [event state])

/-- Does a run and then a cleanup, whatever the run ended with; the run's outcome is kept. -/
def guarded (body : Traced Event State Content) (cleanup : State → State × List Event) :
    Traced Event State Content := fun state =>
  let (ending, left, events) := body state
  let (after, more) := cleanup left
  (ending, after, events ++ more)

/-- The run without what it tells. -/
def run (traced : Traced Event State Content) : Run State Content := fun state =>
  ((traced state).1, (traced state).2.1)

end Traced

/-! ### Memory -/

/-- What the native side allocates. -/
inductive Place where
  | transit (address : Address)
  | error (address : Address)
  | text (address : Address)
  /-- An object or a block. -/
  | content (address : Address)
  deriving Repr, DecidableEq

/-- The slots of a transit struct. -/
structure TransitSlots (Value : Type) where
  value : Value
  /-- Where the error is, when there is one. -/
  error : Option Address

/-- The slots of an error. -/
structure ErrorSlots where
  code : Option Address
  message : Option Address

/-- The memory in which the native side lays its answers out, and the rest of the process. -/
structure TransitMemory (Value State : Type) where
  transits : Address → TransitSlots Value
  errors : Address → ErrorSlots
  /-- The octets of a string, up to its end. -/
  texts : Address → Bytes
  /-- The places that are allocated. -/
  live : Place → Bool
  rest : State

namespace TransitMemory

variable {Value State : Type} (memory : TransitMemory Value State)

/-- The string behind a pointer. -/
def string (address : Option Address) : NativeString := address.map memory.texts

/-- The error at an address. -/
def rawError (address : Address) : RawError :=
  ⟨memory.string (memory.errors address).code, memory.string (memory.errors address).message⟩

/-- The answer behind a pointer. -/
def reply (raw : Option Address) : Option (Value × Option RawError) :=
  raw.map fun address =>
    ((memory.transits address).value, (memory.transits address).error.map memory.rawError)

/-- The places of the error at an address: itself and its strings. -/
def errorPlaces (address : Address) : List Place :=
  .error address ::
    ((memory.errors address).code.toList ++ (memory.errors address).message.toList).map .text

/-- The places of the answer at an address: the transit struct and its error. Its payload is not
among them. -/
def answerPlaces (address : Address) : List Place :=
  .transit address :: ((memory.transits address).error.map memory.errorPlaces).getD []

/-- The memory after the answer at an address was given back, as the library's free functions for
transit structs do. -/
def freeTransit (address : Address) : TransitMemory Value State :=
  { memory with
    live := fun place => memory.live place && !decide (place ∈ memory.answerPlaces address) }

end TransitMemory

/-! ### Reading an answer -/

/-- What a reader does. -/
inductive Access (Value : Type) where
  /-- Reads a place. -/
  | read (place : Place) (wasLive : Bool)
  /-- Begins to convert a payload. -/
  | entered (value : Value)
  /-- Is done with the conversion, in whatever way it ended. -/
  | left
  /-- Calls a free function. -/
  | freed (place : Place) (wasLive : Bool)
  deriving Repr, DecidableEq

/-- A reader of answers. -/
abbrev Reader (Value State : Type) := Traced (Access Value) (TransitMemory Value State)

namespace Reader

variable {Value State Content : Type}

/-- Reads the slots of a transit struct. -/
def transitSlots (address : Address) : Reader Value State (TransitSlots Value) :=
  .observe (·.transits address) fun memory =>
    .read (.transit address) (memory.live (.transit address))

/-- Reads the slots of an error. -/
def errorSlots (address : Address) : Reader Value State ErrorSlots :=
  .observe (·.errors address) fun memory => .read (.error address) (memory.live (.error address))

/-- Reads a string as far as it is readable; null is not read. -/
def lossyText : Option Address → Reader Value State String
  | none => .pure (copyLossy none)
  | some address =>
    .observe (fun memory => copyLossy (some (memory.texts address))) fun memory =>
      .read (.text address) (memory.live (.text address))

/-- Reads an error: its code, and then its message. -/
def error (address : Address) : Reader Value State BridgeError := do
  let slots ← errorSlots address
  let code ← lossyText slots.code
  let message ← lossyText slots.message
  return .native code message

/-- Converts a payload. -/
def converting (convert : Value → Reader Value State Content) (value : Value) :
    Reader Value State Content := fun memory =>
  let (ending, after, events) := convert value memory
  (ending, after, .entered value :: (events ++ [.left]))

/-- Gives an answer back. -/
def freeing (free : Address → TransitMemory Value State → TransitMemory Value State)
    (address : Address) (memory : TransitMemory Value State) :
    TransitMemory Value State × List (Access Value) :=
  (free address memory, [.freed (.transit address) (memory.live (.transit address))])

/-- Reads the answer at an address: its error, when it has one, and else its payload. -/
def contents (convert : Value → Reader Value State Content) (address : Address) :
    Reader Value State Content := do
  let slots ← transitSlots address
  match slots.error with
  | some found =>
    let reported ← error found
    Traced.fail reported
  | none => converting convert slots.value

/-- Reads the answer behind a pointer: a null is an error of its own, and any other answer is given
back on every way out. -/
def answer (operation : String) (raw : Option Address)
    (free : Address → TransitMemory Value State → TransitMemory Value State)
    (convert : Value → Reader Value State Content) : Reader Value State Content :=
  match raw with
  | none => .fail (.nullPointer operation)
  | some address => (contents convert address).guarded (freeing free address)

/-- Asks the library and reads its answer. -/
def asking (call : TransitMemory Value State → Option Address × TransitMemory Value State)
    (operation : String) (free : Address → TransitMemory Value State → TransitMemory Value State)
    (convert : Value → Reader Value State Content) : Reader Value State Content := fun memory =>
  answer operation (call memory).1 free convert (call memory).2

end Reader

end WalletBridge
