/-
This file holds the SHA-2 digests with words of 32 and of 64 bits. Both are one construction: the
message is padded to whole blocks, and every block is mixed into a state of eight words, one round
for each word of the block's schedule. The round constants are the first bits behind the point of
the cube roots of the first primes, and the starting state those of the square roots. The keyed
digest that child keys are derived with stands at the end.
-/

import WalletBridge.Word
import WalletBridge.Text.Bytes

namespace WalletBridge.Sha2

/-! ### Constants -/

/-- Whether a number has no divisor between one and itself. -/
def isPrime (number : Nat) : Bool :=
  2 ≤ number && (List.range number).all fun divisor => divisor < 2 || number % divisor != 0

/-- The first eighty primes. -/
def primes : List Nat := (List.range 410).filter isPrime

/-- The largest number whose power does not exceed a bound, found from its highest bit down. -/
def rootFloor (power bound : Nat) : Nat → Nat → Nat
  | 0, root => root
  | bit + 1, root =>
    let larger := root + 1 <<< bit
    rootFloor power bound bit (if Nat.pow larger power ≤ bound then larger else root)

/-- The first 64 bits behind the point of a root. -/
def rootFraction (power number : Nat) : Nat :=
  rootFloor power (number <<< (64 * power)) 70 0 % values64

/-! ### The construction -/

/-- What sets a member of the family apart. -/
structure Variant (Word : Type) where
  /-- How many octets a word has. A block has sixteen words. -/
  width : Nat
  ofNat : Nat → Word
  toNat : Word → Nat
  /-- The functions that mix the state. -/
  mixFirst : Word → Word
  mixFifth : Word → Word
  /-- The functions that extend the schedule. -/
  spreadNear : Word → Word
  spreadFar : Word → Word
  /-- The starting state. -/
  start : List Word
  /-- One constant for each round. -/
  constants : List Word

/-- The state between two rounds. -/
structure Chain (Word : Type) where
  a : Word
  b : Word
  c : Word
  d : Word
  e : Word
  f : Word
  g : Word
  h : Word

section
variable {Word : Type} [Add Word] [AndOp Word] [XorOp Word] [Complement Word]

/-- The message, a set bit, zeros, and the length of the message in bits, in whole blocks. -/
def pad (width : Nat) (message : Bytes) : Bytes :=
  let used := (message.length + 1 + 2 * width) % (16 * width)
  let zeros := (16 * width - used) % (16 * width)
  message ++ 0x80 :: List.replicate zeros 0 ++ Bytes.bigEndian (2 * width) (8 * message.length)

/-- Cuts a list into pieces of a positive length. -/
def pieces {Item : Type} (length : Nat) : Nat → List Item → List (List Item)
  | 0, _ => []
  | _ + 1, [] => []
  | count + 1, items => items.take length :: pieces length count (items.drop length)

/-- The words of a block. -/
def blockWords (variant : Variant Word) (block : Bytes) : List Word :=
  (pieces variant.width 16 block).map fun octets => variant.ofNat (Bytes.ofBigEndian octets)

/-- Extends a schedule, of which the last sixteen words are given, the latest first. -/
def extend (variant : Variant Word) : Nat → List Word → List Word
  | 0, _ => []
  | count + 1, window =>
    match window[1]?, window[6]?, window[14]?, window[15]? with
    | some second, some seventh, some fifteenth, some sixteenth =>
      let word := variant.spreadFar second + seventh + variant.spreadNear fifteenth + sixteenth
      word :: extend variant count (word :: window.take 15)
    | _, _, _, _ => []

/-- The words that a block gives to the rounds. -/
def schedule (variant : Variant Word) (block : Bytes) : List Word :=
  let words := blockWords variant block
  words ++ extend variant (variant.constants.length - 16) words.reverse

/-- One round. -/
def round (variant : Variant Word) (chain : Chain Word) (addend : Word × Word) : Chain Word :=
  let choice := (chain.e &&& chain.f) ^^^ (~~~chain.e &&& chain.g)
  let majority := (chain.a &&& chain.b) ^^^ (chain.a &&& chain.c) ^^^ (chain.b &&& chain.c)
  let first := chain.h + variant.mixFifth chain.e + choice + addend.1 + addend.2
  let second := variant.mixFirst chain.a + majority
  ⟨first + second, chain.a, chain.b, chain.c, chain.d + first, chain.e, chain.f, chain.g⟩

/-- Mixes a block into the state. -/
def compress (variant : Variant Word) (chain : Chain Word) (block : Bytes) : Chain Word :=
  let mixed := ((variant.constants.zip (schedule variant block)).foldl (round variant) chain)
  ⟨chain.a + mixed.a, chain.b + mixed.b, chain.c + mixed.c, chain.d + mixed.d,
    chain.e + mixed.e, chain.f + mixed.f, chain.g + mixed.g, chain.h + mixed.h⟩

/-- The digest of a message. -/
def digest (variant : Variant Word) (message : Bytes) : Bytes :=
  match variant.start with
  | [a, b, c, d, e, f, g, h] =>
    let padded := pad variant.width message
    let chain := (pieces (16 * variant.width) padded.length padded).foldl (compress variant)
      ⟨a, b, c, d, e, f, g, h⟩
    [chain.a, chain.b, chain.c, chain.d, chain.e, chain.f, chain.g, chain.h].flatMap fun word =>
      Bytes.bigEndian variant.width (variant.toNat word)
  | _ => []

end

/-! ### The two members -/

/-- A word of 32 bits turned to the right. -/
def turn32 (word count : UInt32) : UInt32 := (word >>> count) ||| (word <<< (32 - count))

/-- A word of 64 bits turned to the right. -/
def turn64 (word count : UInt64) : UInt64 := (word >>> count) ||| (word <<< (64 - count))

/-- The member with words of 32 bits. -/
def variant256 : Variant UInt32 where
  width := 4
  ofNat := UInt32.ofNat
  toNat := UInt32.toNat
  mixFirst word := turn32 word 2 ^^^ turn32 word 13 ^^^ turn32 word 22
  mixFifth word := turn32 word 6 ^^^ turn32 word 11 ^^^ turn32 word 25
  spreadNear word := turn32 word 7 ^^^ turn32 word 18 ^^^ (word >>> 3)
  spreadFar word := turn32 word 17 ^^^ turn32 word 19 ^^^ (word >>> 10)
  start := (primes.take 8).map fun prime => UInt32.ofNat (rootFraction 2 prime >>> 32)
  constants := (primes.take 64).map fun prime => UInt32.ofNat (rootFraction 3 prime >>> 32)

/-- The member with words of 64 bits. -/
def variant512 : Variant UInt64 where
  width := 8
  ofNat := UInt64.ofNat
  toNat := UInt64.toNat
  mixFirst word := turn64 word 28 ^^^ turn64 word 34 ^^^ turn64 word 39
  mixFifth word := turn64 word 14 ^^^ turn64 word 18 ^^^ turn64 word 41
  spreadNear word := turn64 word 1 ^^^ turn64 word 8 ^^^ (word >>> 7)
  spreadFar word := turn64 word 19 ^^^ turn64 word 61 ^^^ (word >>> 6)
  start := (primes.take 8).map fun prime => UInt64.ofNat (rootFraction 2 prime)
  constants := (primes.take 80).map fun prime => UInt64.ofNat (rootFraction 3 prime)

end WalletBridge.Sha2

namespace WalletBridge

/-- The digest of 32 octets. -/
def sha256 (message : Bytes) : Bytes := Sha2.digest Sha2.variant256 message

/-- The digest of the digest. -/
def sha256Twice (message : Bytes) : Bytes := sha256 (sha256 message)

/-- The digest of 64 octets. -/
def sha512 (message : Bytes) : Bytes := Sha2.digest Sha2.variant512 message

/-- The digest of 32 octets for a purpose, which is named by a text. -/
def taggedSha256 (tag message : Bytes) : Bytes :=
  sha256 (sha256 tag ++ sha256 tag ++ message)

/-- The digest of a message under a key, where blocks have 128 octets. Longer keys stand for their
own digest. -/
def hmacSha512 (key message : Bytes) : Bytes :=
  let short := if key.length ≤ 128 then key else sha512 key
  let block := short ++ List.replicate (128 - short.length) 0
  sha512 (block.map (· ^^^ 0x5C) ++ sha512 (block.map (· ^^^ 0x36) ++ message))

end WalletBridge
