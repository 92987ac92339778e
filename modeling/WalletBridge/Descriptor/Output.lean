/-
This file derives scripts from descriptors: for every index the script that the address with this
index stands for.
-/

import WalletBridge.Bitcoin.Address
import WalletBridge.Bitcoin.Taproot
import WalletBridge.Descriptor.Basic

namespace WalletBridge

open Secp256k1

/-! ### Derived scripts -/

namespace Miniscript

/-- The octets of a condition's script, when all of its keys can be derived. -/
def octetsAt? (index : Nat) (write : ScriptKey → Bytes) (condition : Miniscript DescriptorKey) :
    Option Bytes :=
  if condition.keys.all fun key => (key.at? index).isSome then
    some (Script.encode (condition.script fun key => ((key.at? index).map write).getD []))
  else none

end Miniscript

namespace InnerScript

/-- The octets of a script. Sorted keys are in the order of their compressed octets. -/
def octetsAt? (index : Nat) : InnerScript → Option Bytes
  | .condition own => own.octetsAt? index ScriptKey.octets
  | .sortedMulti count keys => do
    let derived ← keys.mapM (·.at? index)
    let sorted := derived.mergeSort fun left right =>
      Bytes.ofBigEndian left.point.compressed ≤ Bytes.ofBigEndian right.point.compressed
    pure (Script.encode (Miniscript.multiScript count (sorted.map (·.octets))))

end InnerScript

namespace ScriptTree

/-- The digest of a tree's root. -/
def rootAt? (index : Nat) : ScriptTree → Option Bytes
  | .leaf condition =>
    (condition.octetsAt? index fun key => key.point.abscissa)
      |>.map (Taproot.leafDigest Taproot.scriptVersion)
  | .branch left right => do
    let leftDigest ← left.rootAt? index
    let rightDigest ← right.rootAt? index
    pure (Taproot.branchDigest leftDigest rightDigest)

end ScriptTree

namespace Descriptor

/-- The script that pays to the digest of a key in a witness. -/
def witnessKeyScript (key : ScriptKey) : Bytes := Script.payToWitness 0 (hash160 key.octets)

/-- The script for the address with an index. -/
def scriptAt? (index : Nat) : Descriptor → Option Bytes
  | .bare condition => condition.octetsAt? index ScriptKey.octets
  | .keyHash key => (key.at? index).map fun key => Script.payToKeyHash (hash160 key.octets)
  | .witnessKeyHash key => (key.at? index).map witnessKeyScript
  | .nestedKeyHash key =>
    (key.at? index).map fun key => Script.payToScriptHash (hash160 (witnessKeyScript key))
  | .scriptHash inner =>
    (inner.octetsAt? index).map fun script => Script.payToScriptHash (hash160 script)
  | .witnessScriptHash inner =>
    (inner.octetsAt? index).map fun script => Script.payToWitness 0 (sha256 script)
  | .nestedScriptHash inner =>
    (inner.octetsAt? index).map fun script =>
      Script.payToScriptHash (hash160 (Script.payToWitness 0 (sha256 script)))
  | .taproot key tree => do
    let inner ← key.at? index
    let root ← match tree with
      | some tree => (tree.rootAt? index).map some
      | none => some none
    let output ← Taproot.outputKey? inner.point root
    pure (Script.payToWitness 1 output.abscissa)

/-- The address with an index on a chain. A script of no standard form has none. -/
def addressAt? (chain : Chain) (index : Nat) (descriptor : Descriptor) : Option BitcoinAddress :=
  (descriptor.scriptAt? index).bind (BitcoinAddress.ofScript? chain)

/-- What tells descriptors apart: the digest of the first script. -/
def identity? (descriptor : Descriptor) : Option Bytes := (descriptor.scriptAt? 0).map sha256

end Descriptor

end WalletBridge
