/-
This file holds the reading of native strings as single accesses to memory. A string that is handed
over belongs to the host: it may be looked at any number of times, and is given back when it becomes
a text, when it is dropped, and when a panic passes through its holder. A string that belongs to
something else is copied where it lies, and so is one that only says what went wrong.
-/

import WalletBridge.Host.TransitMemory

namespace WalletBridge

/-! ### Strings in the hands of the host -/

/-- One look at a string that the host holds. -/
inductive StringLook where
  | octets
  | text
  /-- The string in one line. -/
  | line
  deriving Repr, DecidableEq

/-- What a look shows. -/
inductive StringView where
  | octets (octets : Bytes)
  | text (read : Except BridgeError String)
  | line (line : String)

/-- How the host parts with a string. -/
inductive StringEnd where
  | dropped
  /-- The string becomes a text. -/
  | taken
  /-- A panic passes through the holder. -/
  | unwound (reason : Halt)

/-- What a look at some octets shows. -/
def StringLook.view (octets : Bytes) : StringLook → StringView
  | .octets => .octets octets.untilZero
  | .text => .text (readOwned octets)
  | .line => .line (ownedText octets)

namespace Reader

variable {Value State Content : Type}

/-- Reads the octets of a string. -/
def octets (address : Address) : Reader Value State Bytes :=
  .observe (·.texts address) fun memory => .read (.text address) (memory.live (.text address))

/-- Ends as a computation without memory did. -/
def lift (result : Except BridgeError Content) : Reader Value State Content := fun memory =>
  (.ofExcept result, memory, [])

/-- Copies a string that belongs to something else, as a field of it. -/
def copiedField (field : String) : Option Address → Reader Value State String
  | none => lift (copyField none field)
  | some address => do
    let octets ← octets address
    lift (copyField (some octets) field)

/-- Reads an owned string as a text. -/
def strictText (address : Address) : Reader Value State String := do
  let octets ← octets address
  lift (readOwned octets)

/-- Looks at a string again and again. -/
def looks (address : Address) : List StringLook → Reader Value State (List StringView)
  | [] => .pure []
  | first :: rest => do
    let octets ← octets address
    let views ← looks address rest
    return first.view octets :: views

/-- Parts with a string. -/
def part (address : Address) : StringEnd → Reader Value State (Option String)
  | .dropped => .pure none
  | .taken => do
    let text ← strictText address
    return some text
  | .unwound reason => .halt reason

/-- Gives a string back. -/
def freeingText (free : Address → TransitMemory Value State → TransitMemory Value State)
    (address : Address) (memory : TransitMemory Value State) :
    TransitMemory Value State × List (Access Value) :=
  (free address memory, [.freed (.text address) (memory.live (.text address))])

/-- Looks at a string and parts with it. -/
def used (address : Address) (views : List StringLook) (ending : StringEnd) :
    Reader Value State (List StringView × Option String) := do
  let seen ← looks address views
  let text ← part address ending
  return (seen, text)

/-- Holds a string: whatever it is used for, it is given back on every way out. -/
def holding (free : Address → TransitMemory Value State → TransitMemory Value State)
    (address : Address) (views : List StringLook) (ending : StringEnd) :
    Reader Value State (List StringView × Option String) :=
  (used address views ending).guarded (freeingText free address)

/-- Takes the string behind a pointer over: it becomes a text, and is given back. -/
def takenText (operation : String)
    (free : Address → TransitMemory Value State → TransitMemory Value State) :
    Option Address → Reader Value State String
  | none => .fail (.nullPointer operation)
  | some address => (strictText address).guarded (freeingText free address)

end Reader

end WalletBridge
