/-
This file holds counts as transactions write them: small ones in one octet, larger ones behind a
mark in two, four or eight octets, always in the shortest form. It also holds the readers of byte
strings from which the readers of transactions are put together. A reader takes what it reads from
the front and leaves the rest, or refuses. A whole byte string is read only by a reader that leaves
nothing.
-/

import WalletBridge.Word
import WalletBridge.Text.Bytes

namespace WalletBridge

/-! ### Counts -/

namespace CompactSize

/-- The octets of a count. -/
def encode (count : Nat) : Bytes :=
  if count < 253 then [UInt8.ofNat count]
  else if count < values16 then 253 :: Bytes.littleEndian 2 count
  else if count < values32 then 254 :: Bytes.littleEndian 4 count
  else 255 :: Bytes.littleEndian 8 count

/-- Reads a count of some octets, which must not fit in fewer. -/
def decodeWide? (width least : Nat) (octets : Bytes) : Option (Nat × Bytes) := do
  let (front, rest) ← Bytes.take? width octets
  let count := Bytes.ofLittleEndian front
  if least ≤ count then some (count, rest) else none

/-- Reads a count from the front of a byte string. -/
def decode? : Bytes → Option (Nat × Bytes)
  | [] => none
  | mark :: rest =>
    if mark < 253 then some (mark.toNat, rest)
    else if mark = 253 then decodeWide? 2 253 rest
    else if mark = 254 then decodeWide? 4 values16 rest
    else decodeWide? 8 values32 rest

/-- The octets of a byte string behind their count. -/
def encodeBytes (octets : Bytes) : Bytes := encode octets.length ++ octets

/-- Reads a counted byte string. -/
def decodeBytes? (octets : Bytes) : Option (Bytes × Bytes) := do
  let (count, rest) ← decode? octets
  Bytes.take? count rest

end CompactSize

/-! ### Readers -/

/-- A reader of byte strings. -/
abbrev WireReader (Content : Type) := StateT Bytes Option Content

namespace WireReader

variable {Content : Type}

/-- Reads so many octets. -/
def octets (count : Nat) : WireReader Bytes := fun input => Bytes.take? count input

/-- Reads a number of so many octets, the lowest first. -/
def number (count : Nat) : WireReader Nat := do
  let front ← octets count
  pure (Bytes.ofLittleEndian front)

/-- Reads a count. -/
def count : WireReader Nat := fun input => CompactSize.decode? input

/-- Reads octets behind their count. -/
def counted : WireReader Bytes := fun input => CompactSize.decodeBytes? input

/-- Reads so many items. -/
def times (item : WireReader Content) : Nat → WireReader (List Content)
  | 0 => pure []
  | more + 1 => do
    let first ← item
    let rest ← times item more
    pure (first :: rest)

/-- Reads items behind their count. -/
def many (item : WireReader Content) : WireReader (List Content) := do
  let length ← count
  times item length

/-- The rest of the input, which is used up. -/
def rest : WireReader Bytes := fun input => some (input, [])

/-- Refuses unless a condition holds. -/
def check (condition : Bool) : WireReader Unit := if condition then pure () else failure

/-- What a reader makes of a whole byte string. -/
def whole? (reader : WireReader Content) (input : Bytes) : Option Content :=
  match reader input with
  | some (content, []) => some content
  | _ => none

end WireReader

end WalletBridge
