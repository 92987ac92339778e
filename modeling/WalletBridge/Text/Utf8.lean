/-
This file reads byte strings as UTF-8. One scan splits any byte string into pieces: a scalar
value, a maximal ill-formed part followed by more input, or a character that the input cuts
short. Everything the library says about text in octets is a fold over these pieces: strict
reading stops at the first piece that is not a scalar and reports where it starts, lossy reading
replaces each such piece by the replacement character.
-/

import WalletBridge.Text.Bytes

namespace WalletBridge.Utf8

/-! ### The scan -/

/-- What the front of a byte string is. -/
inductive Piece where
  /-- A well-formed character of `width` octets. -/
  | scalar (value : Char) (width : Nat)
  /-- A maximal ill-formed part of `width` octets. -/
  | broken (width : Nat)
  /-- The first `width` octets of a character whose other octets are missing. -/
  | cutShort (width : Nat)
  deriving Repr, DecidableEq

/-- How many octets a piece covers. -/
def Piece.width : Piece → Nat
  | .scalar _ width => width
  | .broken width => width
  | .cutShort width => width

/-- Whether an octet continues a character. -/
def isContinuation (octet : UInt8) : Bool := octet &&& 0xC0 == 0x80

/-- How many octets a character has that starts with this one; zero if none does. -/
def leadWidth (lead : UInt8) : Nat :=
  if lead < 0x80 then 1
  else if lead < 0xC2 then 0
  else if lead < 0xE0 then 2
  else if lead < 0xF0 then 3
  else if lead < 0xF5 then 4
  else 0

/-- Whether an octet may be the second one after this lead: no overlong form, no surrogate and
nothing beyond the last code point passes. -/
def admitsSecond (lead second : UInt8) : Bool :=
  isContinuation second &&
    (lead != 0xE0 || second ≥ 0xA0) && (lead != 0xED || second < 0xA0) &&
    (lead != 0xF0 || second ≥ 0x90) && (lead != 0xF4 || second < 0x90)

/-- The payload bits of a continuation octet. -/
def payload (octet : UInt8) : Nat := (octet &&& 0x3F).toNat

/-- The piece that starts with a lead octet and goes on with `rest`. -/
def next (lead : UInt8) (rest : Bytes) : Piece :=
  match leadWidth lead with
  | 1 => .scalar (Char.ofNat lead.toNat) 1
  | 2 =>
    match rest with
    | [] => .cutShort 1
    | second :: _ =>
      if isContinuation second then
        .scalar (Char.ofNat ((lead &&& 0x1F).toNat * 64 + payload second)) 2
      else .broken 1
  | 3 =>
    match rest with
    | [] => .cutShort 1
    | second :: others =>
      if admitsSecond lead second then
        match others with
        | [] => .cutShort 2
        | third :: _ =>
          if isContinuation third then
            .scalar (Char.ofNat ((lead &&& 0x0F).toNat * 4096 + payload second * 64 +
              payload third)) 3
          else .broken 2
      else .broken 1
  | 4 =>
    match rest with
    | [] => .cutShort 1
    | second :: others =>
      if admitsSecond lead second then
        match others with
        | [] => .cutShort 2
        | third :: more =>
          if isContinuation third then
            match more with
            | [] => .cutShort 3
            | fourth :: _ =>
              if isContinuation fourth then
                .scalar (Char.ofNat ((lead &&& 0x07).toNat * 262144 + payload second * 4096 +
                  payload third * 64 + payload fourth)) 4
              else .broken 3
          else .broken 2
      else .broken 1
  | _ => .broken 1

/-- The scan with `skip` octets of the current piece still to pass. -/
def scan : Nat → Bytes → List Piece
  | _, [] => []
  | skip + 1, _ :: rest => scan skip rest
  | 0, lead :: rest =>
    let piece := next lead rest
    piece :: scan (piece.width - 1) rest

/-- The pieces of a byte string, in order. -/
def pieces (octets : Bytes) : List Piece := scan 0 octets

/-! ### Strict reading -/

/-- Where and how a byte string stops being UTF-8. -/
structure Malformed where
  /-- How many octets before the fault are well formed. -/
  validUpTo : Nat
  /-- The width of the ill-formed part; none when the input ends inside a character. -/
  width : Option Nat
  deriving Repr, DecidableEq

/-- The sentence that reports a fault. -/
def Malformed.message (fault : Malformed) : String :=
  match fault.width with
  | some width =>
    "invalid utf-8 sequence of " ++ toString width ++ " bytes from index " ++
      toString fault.validUpTo
  | none => "incomplete utf-8 byte sequence from index " ++ toString fault.validUpTo

/-- The characters of the pieces, up to the first that is none. -/
def charsFrom (start : Nat) : List Piece → Except Malformed (List Char)
  | [] => .ok []
  | .scalar value width :: rest =>
    match charsFrom (start + width) rest with
    | .ok values => .ok (value :: values)
    | .error fault => .error fault
  | .broken width :: _ => .error ⟨start, some width⟩
  | .cutShort _ :: _ => .error ⟨start, none⟩

/-- The text that a byte string spells. -/
def decode (octets : Bytes) : Except Malformed String :=
  (charsFrom 0 (pieces octets)).map String.ofList

/-- The text that a byte string spells, if it spells one. -/
def decode? (octets : Bytes) : Option String := (decode octets).toOption

/-! ### Lossy reading -/

/-- The character that stands for what cannot be read. -/
def replacement : Char := '\uFFFD'

/-- The character that a piece contributes to a lossy reading. -/
def Piece.toChar : Piece → Char
  | .scalar value _ => value
  | .broken _ => replacement
  | .cutShort _ => replacement

/-- The text of a byte string with the replacement character for each part that spells none. -/
def decodeLossy (octets : Bytes) : String :=
  String.ofList ((pieces octets).map Piece.toChar)

/-! ### Writing -/

/-- The octets of a character. -/
def encodeChar (character : Char) : Bytes := String.utf8EncodeChar character

/-- The octets of a list of characters. -/
def encodeChars (characters : List Char) : Bytes := characters.flatMap encodeChar

/-- The octets of a text. -/
def encode (text : String) : Bytes := encodeChars text.toList

end WalletBridge.Utf8
