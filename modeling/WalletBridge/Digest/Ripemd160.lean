/-
This file holds the RIPEMD-160 digest. Each block goes through two lines of five times sixteen
steps. The lines differ in the order in which they take the words of the block, in the order of
their five functions and in their constants; at the end the two lines are added crosswise.
-/

import WalletBridge.Digest.Sha2

namespace WalletBridge.Ripemd160

/-- A word turned to the left. -/
def turn (word count : UInt32) : UInt32 := (word <<< count) ||| (word >>> (32 - count))

/-- The functions of the five groups. -/
def mix (group : Nat) (x y z : UInt32) : UInt32 :=
  match group with
  | 0 => x ^^^ y ^^^ z
  | 1 => (x &&& y) ||| (~~~x &&& z)
  | 2 => (x ||| ~~~y) ^^^ z
  | 3 => (x &&& z) ||| (y &&& ~~~z)
  | _ => x ^^^ (y ||| ~~~z)

/-- From one group of steps to the next, the words of a block are taken in an order permuted by
this. -/
def permutation : List Nat := [7, 4, 13, 1, 10, 6, 15, 3, 12, 0, 9, 5, 2, 14, 11, 8]

/-- How far the sum is turned, for each group and each word of the block. -/
def turns : List (List UInt32) :=
  [[11, 14, 15, 12, 5, 8, 7, 9, 11, 13, 14, 15, 6, 7, 9, 8],
   [12, 13, 11, 15, 6, 9, 9, 7, 12, 15, 11, 13, 7, 8, 7, 7],
   [13, 15, 14, 11, 7, 7, 6, 8, 13, 14, 13, 12, 5, 5, 6, 9],
   [14, 11, 12, 14, 8, 6, 5, 5, 15, 12, 15, 14, 9, 9, 8, 6],
   [15, 12, 13, 13, 9, 5, 8, 6, 14, 11, 12, 11, 8, 6, 5, 5]]

/-- One step takes a word of the block, with the number of its group. -/
structure Step where
  group : Nat
  word : Nat
  turn : UInt32

/-- The steps of a line, given the order in which its first group takes the words. -/
def steps (order : List Nat) : List Step :=
  let orders := (List.range 4).foldl
    (fun (found : List (List Nat) × List Nat) _ =>
      let next := found.2.map fun position => permutation.getD position 0
      (found.1 ++ [next], next))
    ([order], order)
  (List.range 5).flatMap fun group =>
    (orders.1.getD group []).map fun word =>
      ⟨group, word, (turns.getD group []).getD word 0⟩

/-- The steps of the first line: the words in their own order. -/
def leftSteps : List Step := steps (List.range 16)

/-- The steps of the second line: every ninth word from the sixth on. -/
def rightSteps : List Step := steps ((List.range 16).map fun place => (9 * place + 5) % 16)

/-- The constants of the first line. -/
def leftConstants : List UInt32 := [0, 0x5A827999, 0x6ED9EBA1, 0x8F1BBCDC, 0xA953FD4E]

/-- The constants of the second line. -/
def rightConstants : List UInt32 := [0x50A28BE6, 0x5C4DD124, 0x6D703EF3, 0x7A6D76E9, 0]

/-- The state between two steps. -/
structure Chain where
  a : UInt32
  b : UInt32
  c : UInt32
  d : UInt32
  e : UInt32

/-- Does one step; the second line takes the functions in the opposite order. -/
def advance (words : List UInt32) (constants : List UInt32) (reversed : Bool) (chain : Chain)
    (step : Step) : Chain :=
  let group := if reversed then 4 - step.group else step.group
  let sum := chain.a + mix group chain.b chain.c chain.d + words.getD step.word 0 +
    constants.getD step.group 0
  ⟨chain.e, turn sum step.turn + chain.e, chain.b, turn chain.c 10, chain.d⟩

/-- Mixes a block into the state. -/
def compress (chain : Chain) (block : Bytes) : Chain :=
  let words := (Sha2.pieces 4 16 block).map fun octets =>
    UInt32.ofNat (Bytes.ofLittleEndian octets)
  let left := leftSteps.foldl (advance words leftConstants false) chain
  let right := rightSteps.foldl (advance words rightConstants true) chain
  ⟨chain.b + left.c + right.d, chain.c + left.d + right.e, chain.d + left.e + right.a,
    chain.e + left.a + right.b, chain.a + left.b + right.c⟩

/-- The state before the first block. -/
def start : Chain := ⟨0x67452301, 0xEFCDAB89, 0x98BADCFE, 0x10325476, 0xC3D2E1F0⟩

/-- The message, a set bit, zeros, and the length in bits with its lowest octet first, in whole
blocks of 64 octets. -/
def pad (message : Bytes) : Bytes :=
  let zeros := (64 - (message.length + 9) % 64) % 64
  message ++ 0x80 :: List.replicate zeros 0 ++ Bytes.littleEndian 8 (8 * message.length)

end WalletBridge.Ripemd160

namespace WalletBridge

/-- The digest of 20 octets. -/
def ripemd160 (message : Bytes) : Bytes :=
  let padded := Ripemd160.pad message
  let chain := (Sha2.pieces 64 padded.length padded).foldl Ripemd160.compress Ripemd160.start
  [chain.a, chain.b, chain.c, chain.d, chain.e].flatMap fun word =>
    Bytes.littleEndian 4 word.toNat

/-- The digest of 20 octets by which keys and scripts are named. -/
def hash160 (message : Bytes) : Bytes := ripemd160 (sha256 message)

end WalletBridge
