/-
This file holds scripts: lists of elements, each an operation or some octets to be pushed, and the
octets that they are written as. It also holds the four standard forms that addresses stand for,
and the least amount that an output with a script should carry.
-/

import WalletBridge.Digest.Ripemd160
import WalletBridge.Word

namespace WalletBridge

/-- An operation, by its octet. -/
abbrev Opcode := UInt8

namespace Opcode

def ifTrue : Opcode := 0x63
def ifFalse : Opcode := 0x64
def orElse : Opcode := 0x67
def endIf : Opcode := 0x68
def verify : Opcode := 0x69
def returnNow : Opcode := 0x6A
def toAltStack : Opcode := 0x6B
def fromAltStack : Opcode := 0x6C
def ifDup : Opcode := 0x73
def dup : Opcode := 0x76
def swap : Opcode := 0x7C
def size : Opcode := 0x82
def equal : Opcode := 0x87
def equalVerify : Opcode := 0x88
def isNotZero : Opcode := 0x92
def add : Opcode := 0x93
def boolAnd : Opcode := 0x9A
def boolOr : Opcode := 0x9B
def numEqual : Opcode := 0x9C
def numEqualVerify : Opcode := 0x9D
def ripemd160 : Opcode := 0xA6
def sha256 : Opcode := 0xA8
def hash160 : Opcode := 0xA9
def hash256 : Opcode := 0xAA
def checkSig : Opcode := 0xAC
def checkSigVerify : Opcode := 0xAD
def checkMultiSig : Opcode := 0xAE
def checkMultiSigVerify : Opcode := 0xAF
def checkLockTime : Opcode := 0xB1
def checkSequence : Opcode := 0xB2
def checkSigAdd : Opcode := 0xBA

end Opcode

/-- An element of a script. -/
inductive ScriptElement where
  | op (opcode : Opcode)
  | push (octets : Bytes)
  deriving Repr, DecidableEq

namespace Script

/-- The octets of a number on the stack: the magnitude with its lowest octet first, and room for a
sign that a positive number leaves clear. The first argument bounds their count. -/
def numberOctets : Nat → Nat → Bytes
  | 0, _ => []
  | bound + 1, value =>
    if value = 0 then []
    else if value < 128 then [UInt8.ofNat value]
    else if value < 256 then [UInt8.ofNat value, 0]
    else UInt8.ofNat (value % 256) :: numberOctets bound (value / 256)

/-- The element that puts a number on the stack. Small numbers have operations of their own. -/
def number (value : Nat) : ScriptElement :=
  if value = 0 then .op 0
  else if value ≤ 16 then .op (UInt8.ofNat (0x50 + value))
  else .push (numberOctets 8 value)

/-- The octets of an element. -/
def elementOctets : ScriptElement → Bytes
  | .op opcode => [opcode]
  | .push octets =>
    let length := octets.length
    if length < 76 then UInt8.ofNat length :: octets
    else if length < 256 then 0x4C :: UInt8.ofNat length :: octets
    else if length < values16 then 0x4D :: (Bytes.littleEndian 2 length ++ octets)
    else 0x4E :: (Bytes.littleEndian 4 length ++ octets)

/-- The octets of a script. -/
def encode (elements : List ScriptElement) : Bytes := elements.flatMap elementOctets

/-! ### Standard forms -/

/-- Pays to the holder of a key, named by its digest. -/
def payToKeyHash (digest : Bytes) : Bytes :=
  encode [.op Opcode.dup, .op Opcode.hash160, .push digest, .op Opcode.equalVerify,
    .op Opcode.checkSig]

/-- Pays to whoever satisfies a script, named by its digest. -/
def payToScriptHash (digest : Bytes) : Bytes :=
  encode [.op Opcode.hash160, .push digest, .op Opcode.equal]

/-- Pays to a witness program. -/
def payToWitness (version : Nat) (program : Bytes) : Bytes := encode [number version, .push program]

/-- The version and the program of a script that pays to a witness program. -/
def witnessProgram? (script : Bytes) : Option (Nat × Bytes) :=
  match script with
  | lead :: length :: program =>
    let version? :=
      if lead = 0 then some 0
      else if 0x51 ≤ lead ∧ lead ≤ 0x60 then some (lead.toNat - 0x50)
      else none
    if length.toNat = program.length ∧ 2 ≤ program.length ∧ program.length ≤ 40 then
      version?.map fun version => (version, program)
    else none
  | _ => none

/-- Whether a script only carries data. -/
def isData (script : Bytes) : Bool := script.head? == some Opcode.returnNow

/-- How many octets a count takes. -/
def countLength (count : Nat) : Nat :=
  if count < 253 then 1 else if count < values16 then 3 else if count < values32 then 5 else 9

/-- How many octets an output with this script takes. -/
def outputLength (script : Bytes) : Nat := 8 + countLength script.length + script.length

/-- The least amount that an output with this script should carry: what it costs to spend it, at
three satoshi for each octet that the output and its spending take. -/
def dustLimit (script : Bytes) : Nat :=
  if isData script then 0
  else
    let spending := match witnessProgram? script with
      | some _ => 32 + 4 + 1 + 107 / 4 + 4
      | none => 32 + 4 + 1 + 107 + 4
    3 * (spending + outputLength script)

end Script

end WalletBridge
