/-
This file holds partially signed transactions: a transaction without signatures, with a map of
fields for the whole, for every input and for every output. Reading puts every map into its usual
form, so that what is written again does not hang on the order in which it was read; what stands
behind the last map is ignored.
-/

import WalletBridge.Bitcoin.PartialField
import WalletBridge.Text.Base64

namespace WalletBridge

/-- A partially signed transaction. -/
structure PartialTransaction where
  transaction : Transaction
  /-- The fields for the whole, apart from the transaction itself. -/
  fields : List MapField
  inputs : List (List MapField)
  outputs : List (List MapField)
  deriving Repr, DecidableEq, Inhabited

namespace PartialTransaction

/-- The kind of the field that holds the transaction. -/
def transactionKind : UInt8 := 0x00

/-- The kind of the field that holds the version of the format, which is left out. -/
def versionKind : UInt8 := 0xFB

/-- The octets in front. -/
def mark : Bytes := [0x70, 0x73, 0x62, 0x74, 0xFF]

/-! ### Writing -/

/-- The octets of a partially signed transaction. -/
def octets (signed : PartialTransaction) : Bytes :=
  let whole := ⟨transactionKind, [], signed.transaction.plainOctets⟩ :: signed.fields.map (·.field)
  let maps := (signed.inputs ++ signed.outputs).map fun fields => fields.map (·.field)
  mark ++ (whole :: maps).flatMap WrittenField.mapOctets

/-- The text of a partially signed transaction. -/
def text (signed : PartialTransaction) : String := Base64.encode signed.octets

/-! ### Reading -/

/-- Reads a map. -/
def mapReader (scope : MapScope) : WireReader (List MapField) := do
  let written ← WrittenField.mapReader
  match MapField.map? scope written with
  | some fields => pure fields
  | none => failure

/-- Reads a partially signed transaction. -/
def reader : WireReader PartialTransaction := do
  let front ← WireReader.octets mark.length
  WireReader.check (front == mark)
  let whole ← mapReader .whole
  match (MapField.value? transactionKind whole).bind Transaction.plainReader.whole? with
  | none => failure
  | some transaction =>
    let inputs ← WireReader.times (mapReader .input) transaction.inputs.length
    let outputs ← WireReader.times (mapReader .output) transaction.outputs.length
    let fields := whole.filter fun entry =>
      entry.field.kind != transactionKind && entry.field.kind != versionKind
    pure ⟨transaction, fields, inputs, outputs⟩

/-- The partially signed transaction of octets. -/
def ofBytes? (octets : Bytes) : Option PartialTransaction := (reader octets).map (·.1)

/-- The partially signed transaction of a text. -/
def parse? (text : String) : Option PartialTransaction := (Base64.decode? text).bind ofBytes?

/-! ### Amounts -/

/-- The output that an input spends, as far as its fields tell. -/
def spentOutput? (input : TransactionInput) (fields : List MapField) : Option TransactionOutput :=
  match MapField.value? 0x01 fields with
  | some value => TransactionOutput.reader.whole? value
  | none => do
    let value ← MapField.value? 0x00 fields
    let transaction ← Transaction.reader.whole? value
    transaction.outputs[input.source.index]?

/-- A sum that fits in a word of 64 bits. -/
def sum? (values : List Nat) : Option Nat :=
  if total values < values64 then some (total values) else none

/-- What is paid for the transaction, when the amounts of all inputs are known and make up for the
outputs. -/
def fee? (signed : PartialTransaction) : Option Nat := do
  let spent ← (signed.transaction.inputs.zip signed.inputs).mapM fun (input, fields) =>
    spentOutput? input fields
  let income ← sum? (spent.map (·.value))
  let expense ← sum? (signed.transaction.outputs.map (·.value))
  if expense ≤ income then some (income - expense) else none

/-! ### Signing -/

/-- Whether an input has its final form. -/
def isFinal (fields : List MapField) : Bool :=
  (MapField.value? 0x07 fields).isSome || (MapField.value? 0x08 fields).isSome

/-- Whether an input may be signed as far as the amount that it spends is concerned: the spent
transaction is there, or the digest to be signed covers the amount. -/
def hasTrustedAmount (fields : List MapField) : Bool :=
  isFinal fields || (MapField.value? 0x17 fields).isSome || (MapField.value? 0x18 fields).isSome ||
    (MapField.value? 0x00 fields).isSome

/-- Whether an input asks for no other scope of a signature than the usual one. -/
def hasUsualScope (fields : List MapField) : Bool :=
  match MapField.value? 0x03 fields with
  | some scope => Bytes.ofLittleEndian scope ≤ 1
  | none => true

/-- A transaction whose outputs no longer tell which keys they are for. -/
def withoutOutputOrigins (signed : PartialTransaction) : PartialTransaction :=
  { signed with outputs := signed.outputs.map fun fields =>
      fields.filter fun entry => entry.field.kind != 0x02 && entry.field.kind != 0x07 }

end PartialTransaction

end WalletBridge
