/-
This file holds the fields that maps of partially signed transactions are made of. A field has a
kind, a key and a value; for the kinds that are known it is fixed how keys and values are written,
and in which order the fields stand. Kinds that are not known are kept as they are. A map holds at
most one field with a key.
-/

import WalletBridge.Bitcoin.ExtendedKey
import WalletBridge.Bitcoin.Signature
import WalletBridge.Bitcoin.Taproot
import WalletBridge.Bitcoin.Transaction

namespace WalletBridge

open Secp256k1

/-- What a map describes. -/
inductive MapScope where
  /-- The transaction. -/
  | whole
  /-- One of its inputs. -/
  | input
  /-- One of its outputs. -/
  | output
  deriving Repr, DecidableEq

/-- A field as it is written. -/
structure WrittenField where
  kind : UInt8
  key : Bytes
  value : Bytes
  deriving Repr, DecidableEq, Inhabited

/-- A key in its usual form, with what its place among others hangs on. -/
structure FieldKey where
  place : List Bytes
  octets : Bytes
  deriving Repr, DecidableEq

/-- A field in its usual form, with its place in the map. -/
structure MapField where
  place : List Bytes
  field : WrittenField
  deriving Repr, DecidableEq, Inhabited

/-! ### Keys -/

namespace FieldKey

/-- No key at all. -/
def absent? (key : Bytes) : Option FieldKey := if key.isEmpty then some ⟨[], []⟩ else none

/-- A key of so many octets. -/
def fixed? (length : Nat) (key : Bytes) : Option FieldKey :=
  if key.length = length then some ⟨[key], key⟩ else none

/-- A public key as scripts write it; those of the long form come first. -/
def scriptKey? (key : Bytes) : Option FieldKey :=
  (Point.ofBytes? key).map fun point =>
    ⟨[[if key.length = 65 then 0 else 1], point.compressed], key⟩

/-- A public key that is always written in the short form. Long forms may tell the parity of the
ordinate, if they tell it right. -/
def shortKey? (key : Bytes) : Option FieldKey :=
  let plain? : Option Point := match key with
    | 6 :: rest => (Point.ofBytes? (4 :: rest)).filter fun point => !point.isOdd
    | 7 :: rest => (Point.ofBytes? (4 :: rest)).filter (·.isOdd)
    | _ => Point.ofBytes? key
  plain?.map fun point => ⟨[point.compressed], point.compressed⟩

/-- The abscissa of a public key, and so many octets behind it. -/
def abscissa? (more : Nat) (key : Bytes) : Option FieldKey :=
  if key.length = 32 + more ∧ (Point.ofAbscissa? (key.take 32)).isSome then some ⟨[key], key⟩
  else none

/-- An extended public key. -/
def extended? (key : Bytes) : Option FieldKey :=
  (ExtendedPublic.ofBytes? key).map fun extended =>
    let kind := if extended.lineage.kind = .main then 0 else 1
    ⟨[kind :: ((key.drop 4).take 9 ++ key.drop 45 ++ (key.drop 13).take 32)], key⟩

/-- The way from a leaf to the output key: version and parity, the inner key, and digests. -/
def leafWay? (key : Bytes) : Option FieldKey :=
  match key with
  | lead :: rest =>
    let version := lead - lead % 2
    let ordinary := version == Taproot.scriptVersion
    if 32 ≤ rest.length ∧ rest.length % 32 = 0 ∧ rest.length / 32 ≤ Taproot.depthLimit + 1 ∧
        Taproot.isLeafVersion version ∧ (Point.ofAbscissa? (rest.take 32)).isSome then
      some ⟨[[if ordinary then 0 else 1, version, lead % 2], rest], key⟩
    else none
  | [] => none

/-- The key of a field of somebody's own kind: a name, a kind, and the rest. -/
def owned? (key : Bytes) : Option FieldKey :=
  let reader : WireReader (Bytes × Nat × Bytes) := do
    let name ← WireReader.counted
    let kind ← WireReader.number 1
    let rest ← WireReader.rest
    pure (name, kind, rest)
  (reader.whole? key).map fun (name, kind, rest) => ⟨[name, [UInt8.ofNat kind], rest], key⟩

end FieldKey

/-! ### Values -/

namespace FieldValue

/-- A value that passes a test. -/
def passing? (test : Bytes → Bool) (value : Bytes) : Option Bytes :=
  if test value then some value else none

/-- A value that a reader understands. -/
def read? {Content : Type} (reader : WireReader Content) (value : Bytes) : Option Bytes :=
  (reader.whole? value).map fun _ => value

/-- A value of so many octets. -/
def fixed? (length : Nat) : Bytes → Option Bytes := passing? (·.length == length)

/-- Where a key comes from: a fingerprint and steps, of four octets each. -/
def isOrigin (value : Bytes) : Bool := 4 ≤ value.length && value.length % 4 == 0

/-- The leaves that a key is for, and where it comes from. -/
def leafOriginReader : WireReader Bytes := do
  let _ ← WireReader.many (WireReader.octets 32)
  let origin ← WireReader.rest
  WireReader.check (isOrigin origin)
  pure origin

/-- A script, and the version of its leaf behind it. -/
def isLeafScript (value : Bytes) : Bool := value.getLast?.any Taproot.isLeafVersion

/-- Whether octets are the abscissa of a public key. -/
def isAbscissa (value : Bytes) : Bool := (Point.ofAbscissa? value).isSome

end FieldValue

/-! ### Forms -/

/-- How the fields of a kind are written. The value may depend on the key. -/
structure FieldForm where
  key : Bytes → Option FieldKey
  value : Bytes → Bytes → Option Bytes

namespace FieldForm

open FieldValue

/-- A field without a key. -/
def single (value : Bytes → Option Bytes) : FieldForm := ⟨FieldKey.absent?, fun _ => value⟩

/-- A field for every key. -/
def keyed (key : Bytes → Option FieldKey) (value : Bytes → Option Bytes) : FieldForm :=
  ⟨key, fun _ => value⟩

/-- A value for every digest of a value. -/
def preimage (length : Nat) (digest : Bytes → Bytes) : FieldForm :=
  ⟨FieldKey.fixed? length, fun key => passing? fun value => digest value == key⟩

/-- The kinds that describe the whole transaction. -/
def ofWhole : UInt8 → Option FieldForm
  | 0x00 => some (single (passing? fun value =>
      match Transaction.plainReader.whole? value with
      | some transaction => transaction.inputs.all (·.script.isEmpty)
      | none => false))
  | 0x01 => some (keyed FieldKey.extended? (passing? isOrigin))
  | 0xFB => some (single (passing? (· == [0, 0, 0, 0])))
  | _ => none

/-- The kinds that describe an input. -/
def ofInput : UInt8 → Option FieldForm
  | 0x00 => some (single (read? Transaction.reader))
  | 0x01 => some (single (read? TransactionOutput.reader))
  | 0x02 => some (keyed FieldKey.scriptKey? fun value =>
      (PairSignature.ofBytes? value).map (·.octets))
  | 0x03 => some (single (fixed? 4))
  | 0x04 | 0x05 | 0x07 => some (single some)
  | 0x06 => some (keyed FieldKey.shortKey? (passing? isOrigin))
  | 0x08 => some (single (read? TransactionInput.witnessReader))
  | 0x0A => some (preimage 20 ripemd160)
  | 0x0B => some (preimage 32 sha256)
  | 0x0C => some (preimage 20 hash160)
  | 0x0D => some (preimage 32 sha256Twice)
  | 0x13 => some (single fun value => (FixedSignature.ofBytes? value).map (·.octets))
  | 0x14 => some (keyed (FieldKey.abscissa? 32) fun value =>
      (FixedSignature.ofBytes? value).map (·.octets))
  | 0x15 => some (keyed FieldKey.leafWay? (passing? isLeafScript))
  | 0x16 => some (keyed (FieldKey.abscissa? 0) (read? leafOriginReader))
  | 0x17 => some (single (passing? isAbscissa))
  | 0x18 => some (single (fixed? 32))
  | _ => none

/-- The kinds that describe an output. -/
def ofOutput : UInt8 → Option FieldForm
  | 0x00 | 0x01 => some (single some)
  | 0x02 => some (keyed FieldKey.shortKey? (passing? isOrigin))
  | 0x05 => some (single (passing? isAbscissa))
  | 0x06 => some (single Taproot.canonicalTree?)
  | 0x07 => some (keyed (FieldKey.abscissa? 0) (read? leafOriginReader))
  | _ => none

/-- The form of a known kind. -/
def find? : MapScope → UInt8 → Option FieldForm
  | .whole => ofWhole
  | .input => ofInput
  | .output => ofOutput

end FieldForm

/-! ### Fields in maps -/

namespace MapField

/-- The kind of fields that everybody may define on their own. -/
def ownedKind : UInt8 := 0xFC

/-- A field in its usual form. Known kinds come first, then those of somebody's own, then those
that are not known. -/
def ofWritten? (scope : MapScope) (written : WrittenField) : Option MapField := do
  match FieldForm.find? scope written.kind with
  | some form =>
    let key ← form.key written.key
    let value ← form.value key.octets written.value
    pure ⟨[0, written.kind] :: key.place, ⟨written.kind, key.octets, value⟩⟩
  | none =>
    if written.kind = ownedKind then
      let key ← FieldKey.owned? written.key
      pure ⟨[1] :: key.place, ⟨written.kind, key.octets, written.value⟩⟩
    else pure ⟨[[2], [written.kind], written.key], written⟩

/-- Puts a field into a map, unless one with its key is there. -/
def insert? (field : MapField) : List MapField → Option (List MapField)
  | [] => some [field]
  | first :: rest =>
    if field.place = first.place then none
    else if field.place < first.place then some (field :: first :: rest)
    else (insert? field rest).map (first :: ·)

/-- The map of some fields. -/
def map? (scope : MapScope) (written : List WrittenField) : Option (List MapField) :=
  written.foldlM (fun fields next => (ofWritten? scope next).bind fun field => field.insert? fields)
    []

/-- The value of the field of a kind that has no key. -/
def value? (kind : UInt8) (fields : List MapField) : Option Bytes :=
  (fields.find? fun entry => entry.field.kind == kind && entry.field.key.isEmpty).map
    (·.field.value)

end MapField

namespace WrittenField

/-- The octets of a field. -/
def octets (written : WrittenField) : Bytes :=
  CompactSize.encode (written.key.length + 1) ++ written.kind :: written.key ++
    CompactSize.encodeBytes written.value

/-- Reads a field, or the end of a map. -/
def reader : WireReader (Option WrittenField) := do
  let length ← WireReader.count
  if length = 0 then pure none
  else
    let kind ← WireReader.number 1
    let key ← WireReader.octets (length - 1)
    let value ← WireReader.counted
    pure (some ⟨UInt8.ofNat kind, key, value⟩)

/-- Reads fields up to the end of a map. The number bounds how many there are. -/
def listReader : Nat → WireReader (List WrittenField)
  | 0 => failure
  | more + 1 => do
    match ← reader with
    | none => pure []
    | some first =>
      let rest ← listReader more
      pure (first :: rest)

/-- Reads the fields of a map. -/
def mapReader : WireReader (List WrittenField) := fun input => listReader (input.length + 1) input

/-- The octets of a map. -/
def mapOctets (fields : List WrittenField) : Bytes := fields.flatMap octets ++ [0]

end WrittenField

end WalletBridge
