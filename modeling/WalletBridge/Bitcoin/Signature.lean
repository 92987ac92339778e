/-
This file holds the two forms of signatures in transactions. The older one is a pair of numbers,
each in as few octets as it takes, and says behind them what is signed; the newer one has 64
octets, and says what is signed only where that is not the default.
-/

import WalletBridge.Curve.Secp256k1

namespace WalletBridge

open Secp256k1

/-- A signature that is a pair of numbers. -/
structure PairSignature where
  first : Nat
  second : Nat
  /-- What is signed. -/
  scope : UInt8
  deriving Repr, DecidableEq

namespace PairSignature

/-- The scopes that signatures of this form may have. -/
def scopes : List UInt8 := [0x01, 0x02, 0x03, 0x81, 0x82, 0x83]

/-- Reads a length: below 128 in one octet, and otherwise in as few as it takes behind their count.
A length in several octets must not reach beyond the input. -/
def length? (octets : Bytes) : Option (Nat × Bytes) :=
  match octets with
  | [] => none
  | lead :: rest =>
    if lead < 0x80 then some (lead.toNat, rest)
    else if lead = 0x80 ∨ lead = 0xFF then none
    else do
      let (digits, behind) ← Bytes.take? (lead.toNat - 0x80) rest
      let length := Bytes.ofBigEndian digits
      if digits.head? ≠ some 0 ∧ digits.length ≤ 8 ∧ 128 ≤ length ∧ length ≤ behind.length then
        some (length, behind)
      else none

/-- Reads a number in as few octets as it takes. What cannot be a secret stands for zero. -/
def number? (octets : Bytes) : Option (Nat × Bytes) :=
  match octets with
  | 0x02 :: rest => do
    let (length, behind) ← length? rest
    let (digits, behind) ← if length = 0 then none else Bytes.take? length behind
    let padded := match digits with
      | first :: second :: _ => (first == 0 && second < 0x80) || (first == 0xFF && 0x80 ≤ second)
      | _ => false
    let negative := digits.head?.any (0x80 ≤ ·)
    let value := Bytes.ofBigEndian digits
    if padded then none
    else some (if negative ∨ groupOrder ≤ value then 0 else value, behind)
  | _ => none

/-- Reads a pair of numbers. -/
def pair? (octets : Bytes) : Option (Nat × Nat) :=
  match octets with
  | 0x30 :: rest => do
    let (length, content) ← length? rest
    if length ≠ content.length then none
    else
      let (first, behind) ← number? content
      let (second, behind) ← number? behind
      if behind.isEmpty then some (first, second) else none
  | _ => none

/-- Reads a signature. -/
def ofBytes? (octets : Bytes) : Option PairSignature := do
  let scope ← octets.getLast?
  let (first, second) ← pair? octets.dropLast
  if scopes.contains scope then some ⟨first, second, scope⟩ else none

/-- A number in as few octets as it takes, with room for a sign. -/
def numberOctets (value : Nat) : Bytes :=
  let digits := (Bytes.bigEndian 33 value).dropWhile (· == 0)
  let digits := if digits.head?.all (0x80 ≤ ·) then 0 :: digits else digits
  0x02 :: UInt8.ofNat digits.length :: digits

/-- The octets of a signature. -/
def octets (signature : PairSignature) : Bytes :=
  let content := numberOctets signature.first ++ numberOctets signature.second
  0x30 :: UInt8.ofNat content.length :: content ++ [signature.scope]

end PairSignature

/-- A signature of 64 octets, with what is signed; zero is the default. -/
structure FixedSignature where
  content : Bytes
  scope : UInt8
  deriving Repr, DecidableEq

namespace FixedSignature

/-- The scopes that signatures of this form may have. -/
def scopes : List UInt8 := 0x00 :: PairSignature.scopes

/-- Reads a signature. -/
def ofBytes? (octets : Bytes) : Option FixedSignature :=
  if octets.length = 64 then some ⟨octets, 0⟩
  else if octets.length = 65 then
    octets.getLast?.bind fun scope =>
      if scopes.contains scope then some ⟨octets.dropLast, scope⟩ else none
  else none

/-- The octets of a signature; the default scope is left out. -/
def octets (signature : FixedSignature) : Bytes :=
  if signature.scope = 0 then signature.content else signature.content ++ [signature.scope]

end FixedSignature

end WalletBridge
