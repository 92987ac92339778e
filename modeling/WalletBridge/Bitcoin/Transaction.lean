/-
This file holds transactions and the two ways in which they are written: the plain one, and the one
that also carries witnesses behind a mark. A transaction without inputs is always written in the
second way, because its count of inputs would be taken for the mark. The identifier of a
transaction is the digest of the plain way.
-/

import WalletBridge.Bitcoin.Wire
import WalletBridge.Digest.Sha2
import WalletBridge.Text.Hex

namespace WalletBridge

/-- An output of a former transaction: the digest of the transaction and the place of the output. -/
structure OutputReference where
  digest : Bytes
  index : Nat
  deriving Repr, DecidableEq, Inhabited

/-- An input of a transaction. -/
structure TransactionInput where
  source : OutputReference
  script : Bytes
  sequence : Nat
  witness : List Bytes
  deriving Repr, DecidableEq, Inhabited

/-- An output of a transaction. -/
structure TransactionOutput where
  /-- The amount in satoshi. -/
  value : Nat
  script : Bytes
  deriving Repr, DecidableEq, Inhabited

/-- A transaction. -/
structure Transaction where
  /-- The word of the version. -/
  version : Nat
  inputs : List TransactionInput
  outputs : List TransactionOutput
  lockTime : Nat
  deriving Repr, DecidableEq, Inhabited

/-- A digest as it is shown: in hexadecimal digits, the last octet first. -/
def shownDigest (digest : Bytes) : String := Hex.encode digest.reverse

/-! ### Inputs and outputs -/

namespace TransactionInput

/-- The octets of an input without its witness. -/
def octets (input : TransactionInput) : Bytes :=
  input.source.digest ++ Bytes.littleEndian 4 input.source.index ++
    CompactSize.encodeBytes input.script ++ Bytes.littleEndian 4 input.sequence

/-- The octets of a witness. -/
def witnessOctets (witness : List Bytes) : Bytes :=
  CompactSize.encode witness.length ++ witness.flatMap CompactSize.encodeBytes

/-- Reads an input without its witness. -/
def reader : WireReader TransactionInput := do
  let digest ← WireReader.octets 32
  let index ← WireReader.number 4
  let script ← WireReader.counted
  let sequence ← WireReader.number 4
  pure ⟨⟨digest, index⟩, script, sequence, []⟩

/-- Reads a witness. -/
def witnessReader : WireReader (List Bytes) := WireReader.many WireReader.counted

end TransactionInput

namespace TransactionOutput

/-- The octets of an output. -/
def octets (output : TransactionOutput) : Bytes :=
  Bytes.littleEndian 8 output.value ++ CompactSize.encodeBytes output.script

/-- Reads an output. -/
def reader : WireReader TransactionOutput := do
  let value ← WireReader.number 8
  let script ← WireReader.counted
  pure ⟨value, script⟩

end TransactionOutput

/-! ### Transactions -/

namespace Transaction

/-- The octets of the inputs and outputs with their counts. -/
def bodyOctets (transaction : Transaction) : Bytes :=
  CompactSize.encode transaction.inputs.length ++
    transaction.inputs.flatMap TransactionInput.octets ++
    (CompactSize.encode transaction.outputs.length ++
      transaction.outputs.flatMap TransactionOutput.octets)

/-- The octets of a transaction without witnesses. -/
def plainOctets (transaction : Transaction) : Bytes :=
  Bytes.littleEndian 4 transaction.version ++ transaction.bodyOctets ++
    Bytes.littleEndian 4 transaction.lockTime

/-- Whether a transaction is written with a place for witnesses. -/
def carriesWitness (transaction : Transaction) : Bool :=
  transaction.inputs.isEmpty || transaction.inputs.any fun input => !input.witness.isEmpty

/-- The octets of a transaction. -/
def octets (transaction : Transaction) : Bytes :=
  if transaction.carriesWitness then
    Bytes.littleEndian 4 transaction.version ++ [0, 1] ++ transaction.bodyOctets ++
      transaction.inputs.flatMap (fun input => TransactionInput.witnessOctets input.witness) ++
      Bytes.littleEndian 4 transaction.lockTime
  else transaction.plainOctets

/-- Reads a transaction that has no place for witnesses. -/
def plainReader : WireReader Transaction := do
  let version ← WireReader.number 4
  let inputs ← WireReader.many TransactionInput.reader
  let outputs ← WireReader.many TransactionOutput.reader
  let lockTime ← WireReader.number 4
  pure ⟨version, inputs, outputs, lockTime⟩

/-- Reads what stands behind the mark. A place for witnesses must not stay empty, unless there is
no input at all. -/
def markedReader (version : Nat) : WireReader Transaction := do
  let flag ← WireReader.number 1
  WireReader.check (flag == 1)
  let inputs ← WireReader.many TransactionInput.reader
  let outputs ← WireReader.many TransactionOutput.reader
  let witnesses ← WireReader.times TransactionInput.witnessReader inputs.length
  WireReader.check (inputs.isEmpty || !witnesses.all (·.isEmpty))
  let lockTime ← WireReader.number 4
  pure ⟨version, List.zipWith (fun input witness => { input with witness := witness }) inputs
    witnesses, outputs, lockTime⟩

/-- Reads a transaction. No input in the first place is the mark of witnesses. -/
def reader : WireReader Transaction := do
  let version ← WireReader.number 4
  let inputs ← WireReader.many TransactionInput.reader
  if inputs.isEmpty then markedReader version
  else
    let outputs ← WireReader.many TransactionOutput.reader
    let lockTime ← WireReader.number 4
    pure ⟨version, inputs, outputs, lockTime⟩

/-- The digest by which other transactions name this one. -/
def digest (transaction : Transaction) : Bytes := sha256Twice transaction.plainOctets

/-- The identifier of a transaction, as it is shown. -/
def identifier (transaction : Transaction) : String := shownDigest transaction.digest

/-- The version as a signed number. -/
def signedVersion (transaction : Transaction) : Int :=
  if transaction.version < values31 then transaction.version
  else (transaction.version : Int) - values32

end Transaction

end WalletBridge
