/-
This file holds witness programs written as text: a name in front, the last `1` as a separator, a
version, the program in groups of five bits, and six characters that guard all of it. Version zero
and the later versions differ in the constant of the guard. A text is in one case throughout.
-/

import WalletBridge.Text.Bytes

namespace WalletBridge.Bech32

/-- The characters, in the order of their values. -/
def alphabet : List Char := "qpzry9x8gf2tvdw0s3jn54khce6mua7l".toList

/-- The character of a value. -/
def digit (value : Nat) : Char := alphabet.getD value 'q'

/-! ### The guard -/

/-- What the five bits that leave the register add to it, bit by bit. -/
def generators : List Nat := [0x3B6A57B2, 0x26508E6D, 0x1EA119FA, 0x3D4233DD, 0x2A1462B3]

/-- Takes five bits into the register. -/
def absorb (register value : Nat) : Nat :=
  let high := register >>> 25
  let shifted := (register % 0x2000000) * 32 ^^^ value
  (generators.zipIdx).foldl
    (fun state entry => if high >>> entry.2 % 2 = 1 then state ^^^ entry.1 else state) shifted

/-- The values that a name gives to the guard. -/
def expand (name : List Char) : List Nat :=
  name.map (fun character => character.toNat / 32) ++ 0 ::
    name.map (fun character => character.toNat % 32)

/-- The register after some values. -/
def register (values : List Nat) : Nat := values.foldl absorb 1

/-- What the register holds after a guarded text, by the version of the program. -/
def residue (version : Nat) : Nat := if version = 0 then 1 else 0x2BC830A3

/-- The six values that guard a name and some values. -/
def guardValues (version : Nat) (name : List Char) (values : List Nat) : List Nat :=
  let state := register (expand name ++ values ++ List.replicate 6 0) ^^^ residue version
  (List.range 6).map fun place => state >>> (5 * (5 - place)) % 32

/-! ### Groups of bits -/

/-- The bits of a value, the highest first. -/
def bitsOf (width value : Nat) : List Bool :=
  (List.range width).map fun place => value >>> (width - 1 - place) % 2 = 1

/-- The value of bits, the highest first. -/
def valueOf (bits : List Bool) : Nat := bits.foldl (fun value bit => 2 * value + bit.toNat) 0

/-- Cuts bits into groups; the last group may be shorter. The first argument bounds the count. -/
def groups (width : Nat) : Nat → List Bool → List (List Bool)
  | 0, _ => []
  | _ + 1, [] => []
  | count + 1, bits => bits.take width :: groups width count (bits.drop width)

/-- The groups of five bits of a byte string, with zeros behind it. -/
def toFives (octets : Bytes) : List Nat :=
  let bits := octets.flatMap fun octet => bitsOf 8 octet.toNat
  (groups 5 bits.length bits).map fun group => valueOf (group ++ List.replicate (5 - group.length) false)

/-- The octets of groups of five bits. What is left over is less than a group, and zero. -/
def ofFives? (values : List Nat) : Option Bytes :=
  let bits := values.flatMap (bitsOf 5)
  let whole := bits.length / 8 * 8
  let rest := bits.drop whole
  if rest.length < 5 ∧ rest.all (! ·) then
    some ((groups 8 whole (bits.take whole)).map fun group => UInt8.ofNat (valueOf group))
  else none

/-! ### Texts -/

/-- A name, a version and a program. -/
structure Program where
  name : String
  version : Nat
  octets : Bytes
  deriving Repr, DecidableEq

/-- The text of a program. -/
def encode (program : Program) : String :=
  let name := program.name.toList
  let values := program.version :: toFives program.octets
  String.ofList (name ++ '1' ::
    (values ++ guardValues program.version name values).map digit)

/-- Whether a program has a length that its version allows. -/
def fits (version length : Nat) : Bool :=
  2 ≤ length && length ≤ 40 && (version != 0 || length == 20 || length == 32)

/-- Whether a character may stand in a name. -/
def isNameCharacter (character : Char) : Bool :=
  33 ≤ character.toNat && character.toNat ≤ 126

/-- The program of a text; the name is given in lower case. -/
def decode? (text : String) : Option Program := do
  let characters := text.toList
  if characters.any Char.isUpper && characters.any Char.isLower then none
  let folded := characters.map Char.toLower
  let backward := folded.reverse
  let data := (backward.takeWhile (· != '1')).reverse
  let name := ((backward.dropWhile (· != '1')).drop 1).reverse
  if name.isEmpty || name.length > 83 || !(name.all isNameCharacter) || folded.length > 90 then none
  let values ← data.mapM alphabet.idxOf?
  match values with
  | [] => none
  | version :: rest =>
    if version > 16 || rest.length < 6 then none
    if register (expand name ++ values) != residue version then none
    let octets ← ofFives? (rest.take (rest.length - 6))
    if fits version octets.length then some ⟨String.ofList name, version, octets⟩ else none

end WalletBridge.Bech32
