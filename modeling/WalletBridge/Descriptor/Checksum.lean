/-
This file holds the eight characters that guard a descriptor's text against misspelling. Every
character of the text counts with its place in an alphabet of 95; the checksum is what is left of
all of them in a register of 40 bits.
-/

namespace WalletBridge.Checksum

/-- The characters that a descriptor may have, in groups of 32. -/
def inputAlphabet : List Char :=
  ("0123456789()[],'/*abcdefgh@:$%\x7b\x7d" ++
    "IJKLMNOPQRSTUVWXYZ&+-.;<=>?!^_|~" ++
    "ijklmnopqrstuvwxyzABCDEFGH\x60#\"\\ ").toList

/-- The characters that a checksum has. -/
def alphabet : List Char := "qpzry9x8gf2tvdw0s3jn54khce6mua7l".toList

/-- What the five bits that leave the register add to it, bit by bit. -/
def generators : List Nat := [0xF5DEE51989, 0xA9FDCA3312, 0x1BAB10E32D, 0x3706B1677A, 0x644D626FFD]

/-- Takes five bits into the register. -/
def absorb (register value : Nat) : Nat :=
  let high := register >>> 35
  let shifted := (register % 0x800000000) * 32 ^^^ value
  generators.zipIdx.foldl
    (fun state entry => if high >>> entry.2 % 2 = 1 then state ^^^ entry.1 else state) shifted

/-- The register, and the groups of the characters since the last group of three. -/
structure Progress where
  register : Nat
  group : Nat
  count : Nat

/-- Takes a character, given by its place in the alphabet. -/
def take (progress : Progress) (place : Nat) : Progress :=
  let register := absorb progress.register (place % 32)
  let group := progress.group * 3 + place / 32
  if progress.count = 2 then ⟨absorb register group, 0, 0⟩
  else ⟨register, group, progress.count + 1⟩

/-- The checksum of a text; there is none when a character is outside the alphabet. -/
def compute? (text : String) : Option String := do
  let places ← text.toList.mapM inputAlphabet.idxOf?
  let progress := places.foldl take ⟨1, 0, 0⟩
  let register := if 0 < progress.count then absorb progress.register progress.group
    else progress.register
  let final := (List.replicate 8 0).foldl absorb register ^^^ 1
  pure (String.ofList ((List.range 8).map fun place =>
    alphabet.getD (final >>> (5 * (7 - place)) % 32) 'q'))

/-- The content of a text that may carry a checksum behind a `#`; the checksum has to fit. -/
def content? (text : String) : Option String :=
  let characters := text.toList
  let front := characters.takeWhile (· != '#')
  match characters.dropWhile (· != '#') with
  | [] => some text
  | _ :: checksum =>
    let content := String.ofList front
    match compute? content with
    | some expected => if expected.toList = checksum then some content else none
    | none => none

end WalletBridge.Checksum
