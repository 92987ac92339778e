/-
This file holds the commitment to a tree of scripts. The digest of a branch does not tell its two
parts apart, because the smaller one comes first; the output key is the inner key moved by the
commitment to it and to the root. A tree that is written as a list of leaves with their depths is
built up from left to right.
-/

import WalletBridge.Bitcoin.Wire
import WalletBridge.Curve.Secp256k1
import WalletBridge.Digest.Sha2

namespace WalletBridge.Taproot

open Secp256k1

/-- The version of a leaf that holds a script as it is understood today. -/
def scriptVersion : UInt8 := 0xC0

/-- Whether an octet can be the version of a leaf: it is even, and not the mark of an annex. -/
def isLeafVersion (version : UInt8) : Bool := version % 2 == 0 && version != 0x50

/-- The digest of a leaf. -/
def leafDigest (version : UInt8) (script : Bytes) : Bytes :=
  taggedSha256 "TapLeaf".toUTF8.toList (version :: CompactSize.encodeBytes script)

/-- Whether a digest is smaller than another one. -/
def precedes (left right : Bytes) : Bool :=
  decide (Bytes.ofBigEndian left < Bytes.ofBigEndian right)

/-- The digest of a branch; the smaller part comes first. -/
def branchDigest (left right : Bytes) : Bytes :=
  taggedSha256 "TapBranch".toUTF8.toList
    (if precedes left right then left ++ right else right ++ left)

/-- A point with an even ordinate and the same abscissa. -/
def evened (point : Point) : Point :=
  if point.isOdd then { point with y := fieldPrime - point.y } else point

/-- The output key for an inner key and the digest of a root, if there is a tree. -/
def outputKey? (inner : Point) (root : Option Bytes) : Option Point :=
  let amount := Bytes.ofBigEndian
    (taggedSha256 "TapTweak".toUTF8.toList (inner.abscissa ++ root.getD []))
  if amount < groupOrder then (evened inner).tweak amount else none

/-! ### Written trees -/

/-- A leaf and how far below the root it is. -/
structure PlacedLeaf where
  depth : Nat
  version : UInt8
  script : Bytes
  deriving Repr, DecidableEq

namespace PlacedLeaf

/-- The octets of a leaf. -/
def octets (leaf : PlacedLeaf) : Bytes :=
  UInt8.ofNat leaf.depth :: leaf.version :: CompactSize.encodeBytes leaf.script

/-- Reads a leaf. -/
def reader : WireReader PlacedLeaf := do
  let depth ← WireReader.number 1
  let version ← WireReader.number 1
  let script ← WireReader.counted
  WireReader.check (isLeafVersion (UInt8.ofNat version))
  pure ⟨depth, UInt8.ofNat version, script⟩

/-- The leaf one step further down. -/
def lowered (leaf : PlacedLeaf) : PlacedLeaf := { leaf with depth := leaf.depth + 1 }

end PlacedLeaf

/-- A part of a tree: its digest, and its leaves with their depths below it. -/
structure Subtree where
  digest : Bytes
  leaves : List PlacedLeaf

namespace Subtree

/-- A leaf as a part of a tree. -/
def ofLeaf (leaf : PlacedLeaf) : Subtree :=
  ⟨leafDigest leaf.version leaf.script, [{ leaf with depth := 0 }]⟩

/-- Two parts under one branch. Their leaves are in the order of the digests. -/
def join (left right : Subtree) : Subtree :=
  let (first, second) := if precedes left.digest right.digest then (left, right) else (right, left)
  ⟨branchDigest left.digest right.digest, (first.leaves ++ second.leaves).map PlacedLeaf.lowered⟩

end Subtree

/-- Puts a part at a depth. The list holds the parts that still lack a sibling, the deepest first,
with gaps where a depth has none; a part that meets its sibling moves up together with it. -/
def place? (part : Subtree) (depth : Nat) : List (Option Subtree) → Option (List (Option Subtree))
  | [] => some (some part :: List.replicate depth none)
  | top :: below =>
    if depth + 1 < below.length + 1 then none
    else if depth + 1 = below.length + 1 then
      match top, depth with
      | none, _ => some (some part :: below)
      | some _, 0 => none
      | some sibling, higher + 1 => place? (part.join sibling) higher below
    else some (some part :: List.replicate (depth - (below.length + 1)) none ++ top :: below)

/-- How deep a leaf may be. -/
def depthLimit : Nat := 128

/-- The tree of some leaves in the order in which they are written, if they make up one. -/
def build? (leaves : List PlacedLeaf) : Option Subtree :=
  let parts? := leaves.foldlM
    (fun parts leaf =>
      if leaf.depth ≤ depthLimit then place? (Subtree.ofLeaf leaf) leaf.depth parts else none) []
  match parts? with
  | some [some root] => some root
  | _ => none

/-- Reads leaves up to the end of the input. The number bounds how many there are. -/
def leavesReader : Nat → WireReader (List PlacedLeaf)
  | 0 => pure []
  | more + 1 => fun input =>
    if input.isEmpty then some ([], [])
    else (do
      let first ← PlacedLeaf.reader
      let others ← leavesReader more
      pure (first :: others)) input

/-- A written tree in the order of its digests. -/
def canonicalTree? (octets : Bytes) : Option Bytes := do
  let leaves ← (leavesReader octets.length).whole? octets
  let root ← build? leaves
  pure (root.leaves.flatMap PlacedLeaf.octets)

end WalletBridge.Taproot
