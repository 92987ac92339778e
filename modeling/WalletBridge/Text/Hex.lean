/-
This file holds hexadecimal text: two lower-case digits for each octet when written, digits of
either case when read.
-/

import WalletBridge.Text.Bytes

namespace WalletBridge.Hex

/-- The lower-case digit of a value below sixteen. -/
def digit (value : Nat) : Char :=
  if value < 10 then Char.ofNat (48 + value) else Char.ofNat (87 + value)

/-- The value of a hexadecimal digit of either case. -/
def digitValue? (character : Char) : Option Nat :=
  let code := character.toNat
  if 48 ≤ code ∧ code ≤ 57 then some (code - 48)
  else if 97 ≤ code ∧ code ≤ 102 then some (code - 87)
  else if 65 ≤ code ∧ code ≤ 70 then some (code - 55)
  else none

/-- The two digits of an octet. -/
def octet (value : UInt8) : List Char := [digit (value.toNat / 16), digit (value.toNat % 16)]

/-- The digits of a byte string, as characters. -/
def encodeChars (octets : Bytes) : List Char := octets.flatMap octet

/-- The hexadecimal text of a byte string. -/
def encode (octets : Bytes) : String := String.ofList (encodeChars octets)

/-- Reads pairs of digits; an odd digit at the end is refused. -/
def decodeChars? : List Char → Option Bytes
  | [] => some []
  | [_] => none
  | high :: low :: rest => do
    let upper ← digitValue? high
    let lower ← digitValue? low
    let octets ← decodeChars? rest
    pure (UInt8.ofNat (upper * 16 + lower) :: octets)

/-- The byte string that a hexadecimal text spells. -/
def decode? (text : String) : Option Bytes := decodeChars? text.toList

/-- The hexadecimal digits of a number, without leading zeros. -/
def ofNat (value : Nat) : String := String.ofList (Nat.toDigits 16 value)

end WalletBridge.Hex
