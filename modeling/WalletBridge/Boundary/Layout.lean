/-
This file holds the memory layout of the structs that cross the boundary. A layout follows from
the declared fields by the rule of the C interface: a field starts at the next multiple of its
alignment, and the whole is padded to the largest alignment. The native side describes its own
structs in numbers; the host compares the two before it reads any of them. It asks by the name of a
struct and with a place for the description, and either of them may be null.
-/

import WalletBridge.Text.Utf8

namespace WalletBridge

/-! ### Declared layouts -/

/-- How much room a type takes and at which multiples it may start. -/
structure Extent where
  size : Nat
  align : Nat
  deriving Repr, DecidableEq

namespace Extent

def octet : Extent := ⟨1, 1⟩
def half : Extent := ⟨2, 2⟩
def word : Extent := ⟨4, 4⟩
def long : Extent := ⟨8, 8⟩
def pointer : Extent := ⟨8, 8⟩

/-- `count` values of one type, one after the other. -/
def array (count : Nat) (element : Extent) : Extent := ⟨count * element.size, element.align⟩

/-- The least multiple of `align` that is not below `position`. -/
def alignUp (align position : Nat) : Nat := (position + align - 1) / align * align

/-- Where fields start when the first may start at `position`, and where the last ends. -/
def place (position : Nat) : List Extent → List Nat × Nat
  | [] => ([], position)
  | field :: rest =>
    let start := alignUp field.align position
    let (starts, stop) := place (start + field.size) rest
    (start :: starts, stop)

/-- The largest alignment of the fields. -/
def maxAlign (fields : List Extent) : Nat := fields.foldl (fun align field => max align field.align) 1

/-- The extent of a struct with these fields. -/
def struct (fields : List Extent) : Extent :=
  ⟨alignUp (maxAlign fields) (place 0 fields).2, maxAlign fields⟩

end Extent

/-- The layout of a named struct: its extent and where its fields start. -/
structure StructLayout where
  name : String
  size : Nat
  align : Nat
  offsets : List Nat
  deriving Repr, DecidableEq

namespace StructLayout

/-- The layout of a struct with these fields. -/
def ofFields (name : String) (fields : List Extent) : StructLayout :=
  ⟨name, (Extent.struct fields).size, (Extent.struct fields).align, (Extent.place 0 fields).1⟩

/-- The fields of the structs that other structs hold. -/
def sequenceFields : List Extent := [.pointer, .long, .long]
def balanceFields : List Extent := [.long, .long, .long, .long]
def outPointFields : List Extent := [.pointer, .word]
def txOutFields : List Extent := [.long, .pointer]
def confirmationFields : List Extent := [.word, .long]

/-- The layouts that both sides declare, in order. -/
def declared : List StructLayout :=
  [ofFields "FfiError" [.pointer, .pointer],
   ofFields "FfiResult<ptr>" [.pointer, .pointer],
   ofFields "FfiResult<unit>" [.octet, .pointer],
   ofFields "FfiResult<bool>" [.octet, .pointer],
   ofFields "FfiResult<FfiBalance>" [.struct balanceFields, .pointer],
   ofFields "FfiResult<FfiVec>" [.struct sequenceFields, .pointer],
   ofFields "FfiVec" sequenceFields,
   ofFields "FfiBalance" balanceFields,
   ofFields "FfiOutPoint" outPointFields,
   ofFields "FfiTxOut" txOutFields,
   ofFields "FfiLocalUtxo" [.struct outPointFields, .struct txOutFields, .half],
   ofFields "FfiConfirmationTime" confirmationFields,
   ofFields "FfiTransactionDetails"
     [.pointer, .long, .long, .long, .octet, .struct confirmationFields],
   ofFields "FfiElectrumConfig" [.pointer, .pointer, .octet, .half, .long, .long],
   ofFields "FfiStructLayout" [.long, .long, .long, .array 8 .long]]

/-- The declared layout with a name. -/
def find? (name : String) : Option StructLayout := declared.find? (·.name == name)

/-- The numbers of a layout in one line. -/
def summary (size align : Nat) (offsets : List Nat) : String :=
  "size=" ++ toString size ++ " align=" ++ toString align ++ " offsets=[" ++
    ", ".intercalate (offsets.map toString) ++ "]"

/-- A layout in one line. -/
def text (layout : StructLayout) : String := summary layout.size layout.align layout.offsets

end StructLayout

/-! ### Described layouts -/

/-- How many field offsets a description has room for. -/
def maxFields : Nat := 8

/-- What the native side says about a struct. It may say anything, also that the struct has more
fields than there is room for. -/
structure LayoutDescription where
  size : Nat
  align : Nat
  fieldCount : Nat
  offsets : Vector Nat 8
  deriving Repr, DecidableEq

namespace LayoutDescription

/-- The described offsets that are there to read. -/
def readOffsets (described : LayoutDescription) : List Nat :=
  described.offsets.toList.take (min described.fieldCount maxFields)

/-- A description in one line. -/
def text (described : LayoutDescription) : String :=
  StructLayout.summary described.size described.align described.readOffsets

/-- The description of a declared layout. -/
def ofLayout (layout : StructLayout) : LayoutDescription :=
  ⟨layout.size, layout.align, layout.offsets.length,
    Vector.ofFn fun index => layout.offsets.getD index 0⟩

/-- What stands at a place that nothing was written to yet. -/
def blank : LayoutDescription := ⟨0, 0, 0, Vector.replicate maxFields 0⟩

end LayoutDescription

/-- Whether a description says exactly what the host declares. -/
def StructLayout.agrees (layout : StructLayout) (described : LayoutDescription) : Bool :=
  layout.size == described.size && layout.align == described.align &&
    layout.offsets.length == described.fieldCount && decide (described.fieldCount ≤ maxFields) &&
    layout.offsets == described.offsets.toList.take described.fieldCount

/-- What a library that is laid out as declared says about a struct. -/
def describeDeclared (name : String) : Option LayoutDescription :=
  (StructLayout.find? name).map LayoutDescription.ofLayout

/-- What a library does that is asked to describe a struct at a place: it writes there, unless the
place or the name is null, the octets of the name up to its end spell no text, or it does not know
the struct. The answer is whether it wrote, and what stands at the place then. -/
def describeAt (describe : String → Option LayoutDescription) (name : Option Bytes)
    (place : Option LayoutDescription) : Bool × Option LayoutDescription :=
  match name, place with
  | some octets, some before =>
    match (Utf8.decode? octets.untilZero).bind describe with
    | some described => (true, some described)
    | none => (false, some before)
  | _, _ => (false, place)

end WalletBridge
