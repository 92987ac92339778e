/-
This file holds addresses: texts that stand for scripts of the standard forms on some chains. A
text may fit several chains, which is checked when the address is used.
-/

import WalletBridge.Bitcoin.Chain
import WalletBridge.Bitcoin.Script
import WalletBridge.Text.Base58
import WalletBridge.Text.Bech32

namespace WalletBridge

/-- An address. -/
inductive BitcoinAddress where
  | keyHash (kind : ChainKind) (digest : Bytes)
  | scriptHash (kind : ChainKind) (digest : Bytes)
  /-- A witness program, behind the name of its chains. -/
  | witness (name : String) (version : Nat) (program : Bytes)
  deriving Repr, DecidableEq

namespace BitcoinAddress

/-- The octet in front of the digest of a key. -/
def keyHashMark : ChainKind → UInt8
  | .main => 0
  | .test => 111

/-- The octet in front of the digest of a script. -/
def scriptHashMark : ChainKind → UInt8
  | .main => 5
  | .test => 196

/-- The address of a guarded byte string. -/
def ofMarked? (octets : Bytes) : Option BitcoinAddress :=
  match octets with
  | mark :: digest =>
    if digest.length ≠ 20 then none
    else if mark = keyHashMark .main then some (.keyHash .main digest)
    else if mark = keyHashMark .test then some (.keyHash .test digest)
    else if mark = scriptHashMark .main then some (.scriptHash .main digest)
    else if mark = scriptHashMark .test then some (.scriptHash .test digest)
    else none
  | [] => none

/-- The address of a text: in base 32 if it can be read so, and in base 58 otherwise. -/
def parse? (text : String) : Option BitcoinAddress :=
  match Bech32.decode? text with
  | some program =>
    if Chain.all.any (·.addressName == program.name) then
      some (.witness program.name program.version program.octets)
    else none
  | none =>
    if text.utf8ByteSize > 50 then none else (Base58.decodeGuarded? text).bind ofMarked?

/-- The text of an address. -/
def text : BitcoinAddress → String
  | .keyHash kind digest => Base58.encodeGuarded (keyHashMark kind :: digest)
  | .scriptHash kind digest => Base58.encodeGuarded (scriptHashMark kind :: digest)
  | .witness name version program => Bech32.encode ⟨name, version, program⟩

/-- Whether an address is one of a chain. -/
def fits (chain : Chain) : BitcoinAddress → Bool
  | .keyHash kind _ => kind == chain.kind
  | .scriptHash kind _ => kind == chain.kind
  | .witness name _ _ => name == chain.addressName

/-- The script that an address stands for. -/
def script : BitcoinAddress → Bytes
  | .keyHash _ digest => Script.payToKeyHash digest
  | .scriptHash _ digest => Script.payToScriptHash digest
  | .witness _ version program => Script.payToWitness version program

/-- The address on a chain that stands for a script, if it has a standard form. -/
def ofScript? (chain : Chain) (script : Bytes) : Option BitcoinAddress :=
  if script.length = 25 ∧ script = Script.payToKeyHash ((script.drop 3).take 20) then
    some (.keyHash chain.kind ((script.drop 3).take 20))
  else if script.length = 23 ∧ script = Script.payToScriptHash ((script.drop 2).take 20) then
    some (.scriptHash chain.kind ((script.drop 2).take 20))
  else
    match Script.witnessProgram? script with
    | some (version, program) =>
      if Bech32.fits version program.length then
        some (.witness chain.addressName version program)
      else none
    | none => none

end BitcoinAddress

end WalletBridge
