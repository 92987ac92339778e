/-
This file holds byte strings written with 64 characters, three octets in four characters. Every
byte string has one text: the last group is filled up with `=`, and the bits that no octet needs
are zero.
-/

import WalletBridge.Text.Bytes

namespace WalletBridge.Base64

/-- The characters, in the order of their values. -/
def alphabet : List Char :=
  "ABCDEFGHIJKLMNOPQRSTUVWXYZabcdefghijklmnopqrstuvwxyz0123456789+/".toList

/-- The value of a character. -/
def value? (character : Char) : Option Nat :=
  let code := character.toNat
  if 65 ≤ code ∧ code ≤ 90 then some (code - 65)
  else if 97 ≤ code ∧ code ≤ 122 then some (code - 71)
  else if 48 ≤ code ∧ code ≤ 57 then some (code + 4)
  else if character = '+' then some 62
  else if character = '/' then some 63
  else none

/-- The character of a value. -/
def digit (value : Nat) : Char := alphabet.getD value '='

/-- The characters of a byte string. -/
def encodeChars : Bytes → List Char
  | [] => []
  | [first] =>
    let bits := first.toNat * 16
    [digit (bits / 64), digit (bits % 64), '=', '=']
  | [first, second] =>
    let bits := (first.toNat * 256 + second.toNat) * 4
    [digit (bits / 4096), digit (bits / 64 % 64), digit (bits % 64), '=']
  | first :: second :: third :: rest =>
    let bits := (first.toNat * 256 + second.toNat) * 256 + third.toNat
    digit (bits / 262144) :: digit (bits / 4096 % 64) :: digit (bits / 64 % 64) ::
      digit (bits % 64) :: encodeChars rest

/-- The byte string of characters. -/
def decodeChars? : List Char → Option Bytes
  | [] => some []
  | [first, second, '=', '='] => do
    let bits := (← value? first) * 64 + (← value? second)
    if bits % 16 = 0 then some [UInt8.ofNat (bits / 16)] else none
  | [first, second, third, '='] => do
    let bits := ((← value? first) * 64 + (← value? second)) * 64 + (← value? third)
    if bits % 4 = 0 then some [UInt8.ofNat (bits / 1024), UInt8.ofNat (bits / 4 % 256)] else none
  | first :: second :: third :: fourth :: rest => do
    let high := (← value? first) * 64 + (← value? second)
    let bits := (high * 64 + (← value? third)) * 64 + (← value? fourth)
    let octets ← decodeChars? rest
    pure (UInt8.ofNat (bits / 65536) :: UInt8.ofNat (bits / 256 % 256) ::
      UInt8.ofNat (bits % 256) :: octets)
  | _ => none

/-- The text of a byte string. -/
def encode (octets : Bytes) : String := String.ofList (encodeChars octets)

/-- The byte string of a text. -/
def decode? (text : String) : Option Bytes := decodeChars? text.toList

end WalletBridge.Base64
