/-
This file holds the keys that descriptors name: a single key, or an extended key with a path of
further steps, which may end in a wildcard for the index of an address. A secret key stands for
its public key; the hardened steps of its path are taken while the text is read.
-/

import WalletBridge.Bitcoin.ExtendedKey
import WalletBridge.Text.Hex

namespace WalletBridge

open Secp256k1

/-- Where a key comes from: the fingerprint of a first key and the steps from there. -/
structure KeyOrigin where
  fingerprint : Bytes
  path : List ChildStep
  deriving Repr, DecidableEq

/-- The step that stands for the index of an address. -/
inductive Wildcard where
  | absent
  | plain
  | hardened
  deriving Repr, DecidableEq

/-- How a single key is written. -/
inductive KeyForm where
  | compressed
  | uncompressed
  /-- The abscissa alone; the ordinate is even. -/
  | abscissa
  deriving Repr, DecidableEq

/-- A public key as scripts use it. -/
structure ScriptKey where
  point : Point
  form : KeyForm
  deriving Repr, DecidableEq

namespace ScriptKey

/-- The octets of a key outside script trees. -/
def octets (key : ScriptKey) : Bytes :=
  match key.form with
  | .uncompressed => key.point.uncompressed
  | _ => key.point.compressed

end ScriptKey

/-- A key of a descriptor. -/
inductive DescriptorKey where
  | single (origin : Option KeyOrigin) (key : ScriptKey)
  | extended (origin : Option KeyOrigin) (key : ExtendedPublic) (path : List ChildStep)
      (wildcard : Wildcard)
  /-- A key with several paths at once. -/
  | multiple
  deriving Repr, DecidableEq

namespace DescriptorKey

/-! ### Reading -/

/-- Cuts a text at every occurrence of a character. -/
def split (separator : Char) : List Char → List (List Char)
  | [] => [[]]
  | character :: rest =>
    match split separator rest with
    | [] => [[character]]
    | first :: others =>
      if character = separator then [] :: first :: others else (character :: first) :: others

/-- Cuts an origin in square brackets from the front of a key. -/
def cutOrigin? (text : List Char) : Option (Option KeyOrigin × List Char) :=
  match text with
  | [] => none
  | '[' :: rest =>
    match split ']' rest with
    | [inner, key] =>
      match split '/' inner with
      | fingerprint :: steps =>
        if fingerprint.length = 8 then do
          let octets ← Hex.decodeChars? fingerprint
          let path ← steps.mapM ChildStep.parse?
          pure (some ⟨octets, path⟩, key)
        else none
      | [] => none
    | _ => none
  | _ => some (none, text)

/-- The steps behind an extended key. A step is an index, several indices at once, or a wildcard
at the very end. -/
inductive PathStep where
  | step (step : ChildStep)
  | several
  | wildcard (wildcard : Wildcard)

/-- Reads a step. -/
def pathStep? (text : List Char) : Option PathStep :=
  if text = ['*'] then some (.wildcard .plain)
  else if text = ['*', '\''] ∨ text = ['*', 'h'] then some (.wildcard .hardened)
  else if text.head? = some '<' ∧ text.getLast? = some '>' then
    if 5 ≤ text.length ∧ text.contains ';' ∧
        (split ';' (text.drop 1).dropLast).all (fun index => (ChildStep.parse? index).isSome) then
      some .several
    else none
  else (ChildStep.parse? text).map .step

/-- What stands behind an extended key: the plain steps, the wildcard, and how many steps are
several at once. -/
structure KeyPath where
  steps : List ChildStep
  wildcard : Wildcard
  several : Nat

/-- Puts steps together; nothing may follow a wildcard, and only one step may be several. -/
def gather? : List PathStep → Option KeyPath
  | [] => some ⟨[], .absent, 0⟩
  | [.wildcard wildcard] => some ⟨[], wildcard, 0⟩
  | .wildcard _ :: _ => none
  | .several :: rest => do
    let path ← gather? rest
    if path.several = 0 then some { path with several := 1 } else none
  | .step step :: rest => do
    let path ← gather? rest
    pure { path with steps := step :: path.steps }

/-- Reads the path behind an extended key. -/
def path? (texts : List (List Char)) : Option KeyPath := do
  let steps ← texts.mapM pathStep?
  gather? steps

/-- The public key of an extended secret key: the steps up to the last hardened one are taken, and
remembered in the origin. -/
def ofSecret? (origin : Option KeyOrigin) (key : ExtendedSecret) (path : KeyPath) :
    Option DescriptorKey := do
  let plain := (path.steps.reverse.takeWhile fun step => !step.hardened).reverse
  let taken := path.steps.take (path.steps.length - plain.length)
  let root ← key.toPublic?
  let reached ← key.descendant? taken
  let shown ← reached.toPublic?
  let source := match origin with
    | some known => some { known with path := known.path ++ taken }
    | none => if taken.isEmpty then none else some ⟨root.fingerprint, taken⟩
  pure (.extended source shown plain path.wildcard)

/-- Reads a secret key. -/
def secret? (text : List Char) : Option DescriptorKey := do
  let (origin, key) ← cutOrigin? text
  if key.length ≤ 52 then
    let single ← SingleSecret.parse? (String.ofList key)
    let point ← Point.ofSecret single.secret
    pure (.single origin ⟨point, if single.isCompressed then .compressed else .uncompressed⟩)
  else
    match split '/' key with
    | first :: rest =>
      let extended ← ExtendedSecret.parse? (String.ofList first)
      let path ← path? rest
      if path.several = 0 then ofSecret? origin extended path else pure .multiple
    | [] => none

/-- Reads a key in hexadecimal digits. -/
def hex? (text : List Char) : Option ScriptKey := do
  let octets ← Hex.decodeChars? text
  if octets.length = 32 then
    let point ← Point.ofAbscissa? octets
    pure ⟨point, .abscissa⟩
  else
    let point ← Point.ofBytes? octets
    pure ⟨point, if octets.length = 33 then .compressed else .uncompressed⟩

/-- Whether a text contains another one. -/
def hasInfix (part : List Char) : List Char → Bool
  | [] => part.isEmpty
  | character :: rest => part.isPrefixOf (character :: rest) || hasInfix part rest

/-- Reads a public key. -/
def public? (text : List Char) : Option DescriptorKey := do
  if text.length < 64 then none
  let (origin, key) ← cutOrigin? text
  if hasInfix ['p', 'u', 'b'] key then
    match split '/' key with
    | first :: rest =>
      let extended ← ExtendedPublic.parse? (String.ofList first)
      let path ← path? rest
      if path.several = 0 then pure (.extended origin extended path.steps path.wildcard)
      else pure .multiple
    | [] => none
  else
    let single ← hex? key
    pure (.single origin single)

/-- Reads a key, which is taken for a secret one if it can be. -/
def parse? (text : List Char) : Option DescriptorKey :=
  match secret? text with
  | some key => some key
  | none => public? text

/-! ### Properties -/

/-- Whether a key is of a chain's kind. A single key is of every kind. -/
def fits (chain : Chain) : DescriptorKey → Bool
  | .extended _ key _ _ => key.lineage.kind == chain.kind
  | _ => true

/-- Whether steps are left that only the secret key could take. -/
def needsSecret : DescriptorKey → Bool
  | .extended _ _ path wildcard => wildcard == .hardened || path.any (·.hardened)
  | _ => false

/-- Whether a key has several paths. -/
def isMultiple : DescriptorKey → Bool
  | .multiple => true
  | _ => false

/-- Whether the index of an address changes a key. -/
def hasWildcard : DescriptorKey → Bool
  | .extended _ _ _ wildcard => wildcard != .absent
  | _ => false

/-- The form in which a key is written. -/
def form : DescriptorKey → KeyForm
  | .single _ key => key.form
  | _ => .compressed

/-- The key for the address with an index. -/
def at? (index : Nat) : DescriptorKey → Option ScriptKey
  | .single _ key => some key
  | .extended _ key path wildcard =>
    let steps? : Option (List ChildStep) := match wildcard with
      | .absent => some path
      | .plain => some (path ++ [ChildStep.plain index])
      | .hardened => none
    steps?.bind fun steps => (key.descendant? steps).map fun reached =>
      ⟨reached.point, .compressed⟩
  | .multiple => none

end DescriptorKey

end WalletBridge
