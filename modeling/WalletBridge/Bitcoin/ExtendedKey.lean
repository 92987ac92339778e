/-
This file holds extended keys, from which further keys are derived step by step. A plain step can
be taken from a public key; a hardened step needs the secret. The guarded text of a key carries
its depth, the fingerprint of its parent, its step and its chain code.
-/

import WalletBridge.Bitcoin.Chain
import WalletBridge.Curve.Secp256k1
import WalletBridge.Digest.Sha2
import WalletBridge.Digest.Ripemd160
import WalletBridge.Text.Base58

namespace WalletBridge

open Secp256k1

/-! ### Steps -/

/-- A step from a key to one of its children. -/
structure ChildStep where
  index : Nat
  hardened : Bool
  deriving Repr, DecidableEq, Inhabited

namespace ChildStep

/-- The number of indices. -/
def limit : Nat := values31

/-- A plain step. -/
def plain (index : Nat) : ChildStep := ⟨index, false⟩

/-- The word of a step: hardened ones have the highest bit set. -/
def word (step : ChildStep) : Nat := if step.hardened then step.index + limit else step.index

/-- The step of a word. -/
def ofWord (word : Nat) : ChildStep := if word < limit then ⟨word, false⟩ else ⟨word - limit, true⟩

/-- A number below a bound, in decimal digits behind an optional plus sign. -/
def decimal? (bound : Nat) (characters : List Char) : Option Nat :=
  let digits := match characters with
    | '+' :: rest => rest
    | _ => characters
  if digits.isEmpty then none
  else
    (digits.foldlM (fun value character =>
      if character.isDigit then
        let next := 10 * value + (character.toNat - 48)
        if next < bound then some next else none
      else none) 0)

/-- The step of a text: an index, and an `h` or an apostrophe behind it when it is hardened. -/
def parse? (characters : List Char) : Option ChildStep :=
  match characters.getLast? with
  | some last =>
    if last = 'h' ∨ last = '\'' then
      (decimal? limit characters.dropLast).map fun index => ⟨index, true⟩
    else (decimal? limit characters).map fun index => ⟨index, false⟩
  | none => none

end ChildStep

/-! ### Keys -/

/-- What an extended key has besides the key itself. -/
structure Lineage where
  kind : ChainKind
  depth : Nat
  parent : Bytes
  step : ChildStep
  chainCode : Bytes
  deriving Repr, DecidableEq, Inhabited

/-- An extended public key. -/
structure ExtendedPublic where
  lineage : Lineage
  point : Point
  deriving Repr, DecidableEq, Inhabited

/-- An extended secret key. -/
structure ExtendedSecret where
  lineage : Lineage
  secret : Nat
  deriving Repr, DecidableEq, Inhabited

namespace Lineage

/-- The four octets in front of the text of a public key. -/
def publicMark : ChainKind → Bytes
  | .main => [0x04, 0x88, 0xB2, 0x1E]
  | .test => [0x04, 0x35, 0x87, 0xCF]

/-- The four octets in front of the text of a secret key. -/
def secretMark : ChainKind → Bytes
  | .main => [0x04, 0x88, 0xAD, 0xE4]
  | .test => [0x04, 0x35, 0x83, 0x94]

/-- The lineage of a child. -/
def child (lineage : Lineage) (fingerprint : Bytes) (step : ChildStep) (chainCode : Bytes) :
    Lineage :=
  ⟨lineage.kind, lineage.depth + 1, fingerprint, step, chainCode⟩

/-- The octets of a lineage behind its mark. -/
def octets (lineage : Lineage) : Bytes :=
  UInt8.ofNat lineage.depth :: lineage.parent ++ Bytes.bigEndian 4 lineage.step.word ++
    lineage.chainCode

/-- The lineage and the 33 octets of the key in 78 octets, given the marks to be told apart. -/
def ofBytes? (mark : ChainKind → Bytes) (octets : Bytes) : Option (Lineage × Bytes) :=
  if octets.length ≠ 78 then none
  else
    let front := octets.take 4
    let kind? :=
      if front = mark .main then some ChainKind.main
      else if front = mark .test then some ChainKind.test
      else none
    kind?.map fun kind =>
      (⟨kind, (octets.getD 4 0).toNat, (octets.drop 5).take 4,
        ChildStep.ofWord (Bytes.ofBigEndian ((octets.drop 9).take 4)),
        (octets.drop 13).take 32⟩, octets.drop 45)

end Lineage

namespace ExtendedPublic

/-- The four octets by which a key is known to its children. -/
def fingerprint (key : ExtendedPublic) : Bytes := (hash160 key.point.compressed).take 4

/-- The child at a plain step. -/
def child? (key : ExtendedPublic) (index : Nat) : Option ExtendedPublic :=
  let step := ChildStep.plain index
  let digest := hmacSha512 key.lineage.chainCode
    (key.point.compressed ++ Bytes.bigEndian 4 step.word)
  let amount := Bytes.ofBigEndian (digest.take 32)
  if amount < groupOrder then
    (key.point.tweak amount).map fun point =>
      ⟨key.lineage.child key.fingerprint step (digest.drop 32), point⟩
  else none

/-- The descendant at some plain steps; a hardened step leads nowhere. -/
def descendant? (key : ExtendedPublic) (steps : List ChildStep) : Option ExtendedPublic :=
  steps.foldlM (fun current step => if step.hardened then none else current.child? step.index) key

/-- The octets of a key. -/
def octets (key : ExtendedPublic) : Bytes :=
  Lineage.publicMark key.lineage.kind ++ key.lineage.octets ++ key.point.compressed

/-- The key of 78 octets. -/
def ofBytes? (octets : Bytes) : Option ExtendedPublic := do
  let (lineage, rest) ← Lineage.ofBytes? Lineage.publicMark octets
  let point ← Point.ofBytes? rest
  pure ⟨lineage, point⟩

/-- The key of a text. -/
def parse? (text : String) : Option ExtendedPublic := (Base58.decodeGuarded? text).bind ofBytes?

end ExtendedPublic

namespace ExtendedSecret

/-- The public key of a secret key. -/
def toPublic? (key : ExtendedSecret) : Option ExtendedPublic :=
  (Point.ofSecret key.secret).map fun point => ⟨key.lineage, point⟩

/-- The child at a step. -/
def child? (key : ExtendedSecret) (step : ChildStep) : Option ExtendedSecret := do
  let parent ← key.toPublic?
  let content :=
    if step.hardened then 0 :: Bytes.bigEndian 32 key.secret else parent.point.compressed
  let digest := hmacSha512 key.lineage.chainCode (content ++ Bytes.bigEndian 4 step.word)
  let amount := Bytes.ofBigEndian (digest.take 32)
  let secret := (amount + key.secret) % groupOrder
  if amount < groupOrder ∧ secret ≠ 0 then
    some ⟨key.lineage.child parent.fingerprint step (digest.drop 32), secret⟩
  else none

/-- The descendant at some steps. -/
def descendant? (key : ExtendedSecret) (steps : List ChildStep) : Option ExtendedSecret :=
  steps.foldlM child? key

/-- The key of 78 octets. -/
def ofBytes? (octets : Bytes) : Option ExtendedSecret := do
  let (lineage, rest) ← Lineage.ofBytes? Lineage.secretMark octets
  let secret := Bytes.ofBigEndian (rest.drop 1)
  if isSecret secret then some ⟨lineage, secret⟩ else none

/-- The key of a text. -/
def parse? (text : String) : Option ExtendedSecret := (Base58.decodeGuarded? text).bind ofBytes?

end ExtendedSecret

/-! ### Single secrets -/

/-- A secret on its own, with the form in which its public key is written. -/
structure SingleSecret where
  secret : Nat
  isCompressed : Bool
  deriving Repr, DecidableEq

/-- The secret of a guarded text. -/
def SingleSecret.parse? (text : String) : Option SingleSecret := do
  let octets ← Base58.decodeGuarded? text
  if (octets.length = 33 ∨ octets.length = 34) ∧
      (octets.head? = some 128 ∨ octets.head? = some 239) then
    let secret := Bytes.ofBigEndian ((octets.drop 1).take 32)
    if isSecret secret then some ⟨secret, octets.length = 34⟩ else none
  else none

end WalletBridge
