/-
This file holds byte strings written with 58 letters and digits: the number that the octets spell,
with one `1` in front for each leading zero octet. Keys and addresses are written so together with
four octets of a digest that guard them against misspelling.
-/

import WalletBridge.Digest.Sha2

namespace WalletBridge.Base58

/-- The digits, in the order of their values. -/
def alphabet : List Char := "123456789ABCDEFGHJKLMNPQRSTUVWXYZabcdefghijkmnopqrstuvwxyz".toList

/-- The octets of a number, the highest first and none of them a leading zero. The first argument
bounds their count. -/
def octetsOf : Nat → Nat → Bytes → Bytes
  | 0, _, octets => octets
  | bound + 1, value, octets =>
    if value = 0 then octets
    else octetsOf bound (value / 256) (UInt8.ofNat (value % 256) :: octets)

/-- The digits of a number, the highest first and none of them a leading zero. The first argument
bounds their count. -/
def digitsOf : Nat → Nat → List Char → List Char
  | 0, _, digits => digits
  | bound + 1, value, digits =>
    if value = 0 then digits
    else digitsOf bound (value / 58) (alphabet.getD (value % 58) '1' :: digits)

/-- The number that digits spell. -/
def valueOf? (characters : List Char) : Option Nat :=
  characters.foldlM
    (fun value character => (alphabet.idxOf? character).map fun digit => 58 * value + digit) 0

/-- The text of a byte string. -/
def encode (octets : Bytes) : String :=
  let zeros := (octets.takeWhile (· == 0)).length
  String.ofList (List.replicate zeros '1' ++
    digitsOf (2 * octets.length) (Bytes.ofBigEndian octets) [])

/-- The byte string of a text. -/
def decode? (text : String) : Option Bytes := do
  let characters := text.toList
  let value ← valueOf? characters
  let zeros := (characters.takeWhile (· == '1')).length
  pure (List.replicate zeros 0 ++ octetsOf characters.length value [])

/-- The octets that guard a byte string. -/
def guardOctets (octets : Bytes) : Bytes := (sha256Twice octets).take 4

/-- The text of a guarded byte string. -/
def encodeGuarded (octets : Bytes) : String := encode (octets ++ guardOctets octets)

/-- The byte string of a text whose guard fits. -/
def decodeGuarded? (text : String) : Option Bytes := do
  let octets ← decode? text
  if octets.length < 4 then none
  else
    let content := octets.take (octets.length - 4)
    if octets.drop (octets.length - 4) = guardOctets content then some content else none

end WalletBridge.Base58
