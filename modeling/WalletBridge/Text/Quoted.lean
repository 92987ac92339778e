/-
This file shows byte strings between quotes: well-formed characters are shown as they are or
escaped, octets that belong to no character are shown by their value.
-/

import WalletBridge.Text.Utf8
import WalletBridge.Text.Hex
import WalletBridge.Text.Printable

namespace WalletBridge.Quoted

/-- An octet by its value. -/
def octet (value : UInt8) : String := "\\x" ++ Hex.encode [value]

/-- A character inside quotes. -/
def character (value : Char) : String :=
  if value = '\t' then "\\t"
  else if value = '\r' then "\\r"
  else if value = '\n' then "\\n"
  else if value = '\'' then "\\'"
  else if value = '"' then "\\\""
  else if value = '\\' then "\\\\"
  else if value = '\x00' then "\\0"
  else if value.toNat < 32 || value.toNat = 127 then octet (UInt8.ofNat value.toNat)
  else if value.toNat < 127 then value.toString
  else if Printable.isShown value then value.toString
  else "\\u\x7b" ++ Hex.ofNat value.toNat ++ "\x7d"

/-- The pieces of a byte string inside quotes, each beside the octets it covers. -/
def shown : List Utf8.Piece → Bytes → String
  | [], _ => ""
  | .scalar value width :: rest, octets => character value ++ shown rest (octets.drop width)
  | piece :: rest, octets =>
    String.join ((octets.take piece.width).map octet) ++ shown rest (octets.drop piece.width)

/-- A byte string between quotes. -/
def quote (octets : Bytes) : String := "\"" ++ shown (Utf8.pieces octets) octets ++ "\""

end WalletBridge.Quoted
