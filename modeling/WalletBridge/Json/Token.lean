/-
This file splits a JSON text into tokens. The scan is a machine that reads one character at a
time: its state is what has been read of the current token. A number or a word ends where a
character comes that cannot continue it, and that character is then read afresh.
-/

import WalletBridge.Json.Value

namespace WalletBridge.Json

/-- A token of a JSON text. -/
inductive Token where
  | openBrace
  | closeBrace
  | openBracket
  | closeBracket
  | colon
  | comma
  | null
  | flag (value : Bool)
  | integer (value : Int)
  | decimal (spelling : String)
  | text (literal : Literal)
  deriving Repr, BEq, DecidableEq

namespace Token

/-! ### String literals -/

/-- Whether a code is the first half of a surrogate pair. -/
def isHighSurrogate (code : Nat) : Bool := 0xD800 ≤ code && code < 0xDC00

/-- Whether a code is the second half of a surrogate pair. -/
def isLowSurrogate (code : Nat) : Bool := 0xDC00 ≤ code && code < 0xE000

/-- The characters that codes spell; a surrogate counts only as one half of a pair. -/
def spell : List Nat → Option (List Char)
  | [] => some []
  | [code] =>
    if isHighSurrogate code || isLowSurrogate code then none else some [Char.ofNat code]
  | code :: follower :: rest =>
    if isHighSurrogate code then
      if isLowSurrogate follower then
        (spell rest).map
          (Char.ofNat (0x10000 + (code - 0xD800) * 0x400 + (follower - 0xDC00)) :: ·)
      else none
    else if isLowSurrogate code then none
    else (spell (follower :: rest)).map (Char.ofNat code :: ·)

/-- The literal that codes make. -/
def literal (codes : List Nat) : Literal := (spell codes).map String.ofList

/-- The code that a one-letter escape stands for. -/
def escapeCode? (character : Char) : Option Nat :=
  match character with
  | '"' => some 34
  | '\\' => some 92
  | '/' => some 47
  | 'b' => some 8
  | 'f' => some 12
  | 'n' => some 10
  | 'r' => some 13
  | 't' => some 9
  | _ => none

/-! ### The machine -/

/-- How much of a number has been read. -/
inductive NumberPart where
  /-- Only the minus sign. -/
  | sign
  /-- A whole part that is a single zero. -/
  | zero
  /-- A whole part that starts with another digit. -/
  | whole
  /-- A point without a digit after it. -/
  | point
  /-- At least one digit after the point. -/
  | fraction
  /-- The mark of an exponent without anything after it. -/
  | exponentMark
  /-- The sign of an exponent. -/
  | exponentSign
  /-- At least one digit of an exponent. -/
  | exponent
  deriving Repr, DecidableEq

/-- What has been read of the current token, the last character first. -/
inductive State where
  | between
  | word (read : List Char)
  | number (part : NumberPart) (read : List Char)
  | string (codes : List Nat)
  | escape (codes : List Nat)
  | unicode (codes : List Nat) (missing value : Nat)
  deriving Repr

/-- The token that a word is. -/
def ofWord? (characters : List Char) : Option Token :=
  if characters = ['t', 'r', 'u', 'e'] then some (.flag true)
  else if characters = ['f', 'a', 'l', 's', 'e'] then some (.flag false)
  else if characters = ['n', 'u', 'l', 'l'] then some .null
  else none

/-- The number that decimal digits spell. -/
def digitsValue (characters : List Char) : Nat :=
  characters.foldl (fun value character => value * 10 + (character.toNat - 48)) 0

/-- The token that a number literal is: an integer unless it has a fraction or an exponent or is
minus zero. -/
def ofNumber? (part : NumberPart) (characters : List Char) : Option Token :=
  match part with
  | .zero | .whole =>
    match characters with
    | '-' :: digits =>
      if part = .zero then some (.decimal (String.ofList characters))
      else some (.integer (-(digitsValue digits : Int)))
    | digits => some (.integer (digitsValue digits))
  | .fraction | .exponent => some (.decimal (String.ofList characters))
  | _ => none

/-- The part of a number after one more character; none when the character does not go on. -/
def NumberPart.extend? (part : NumberPart) (character : Char) : Option NumberPart :=
  match part with
  | .sign => if character = '0' then some .zero else if character.isDigit then some .whole else none
  | .zero =>
    if character = '.' then some .point
    else if character = 'e' || character = 'E' then some .exponentMark else none
  | .whole =>
    if character.isDigit then some .whole
    else if character = '.' then some .point
    else if character = 'e' || character = 'E' then some .exponentMark else none
  | .point => if character.isDigit then some .fraction else none
  | .fraction =>
    if character.isDigit then some .fraction
    else if character = 'e' || character = 'E' then some .exponentMark else none
  | .exponentMark =>
    if character.isDigit then some .exponent
    else if character = '+' || character = '-' then some .exponentSign else none
  | .exponentSign => if character.isDigit then some .exponent else none
  | .exponent => if character.isDigit then some .exponent else none

/-- Reads a character where a token may begin. -/
def begin? (character : Char) : Option (List Token × State) :=
  match character with
  | ' ' | '\n' | '\t' | '\r' => some ([], .between)
  | '{' => some ([.openBrace], .between)
  | '}' => some ([.closeBrace], .between)
  | '[' => some ([.openBracket], .between)
  | ']' => some ([.closeBracket], .between)
  | ':' => some ([.colon], .between)
  | ',' => some ([.comma], .between)
  | '"' => some ([], .string [])
  | '-' => some ([], .number .sign ['-'])
  | '0' => some ([], .number .zero ['0'])
  | character =>
    if character.isDigit then some ([], .number .whole [character])
    else if character.isLower then some ([], .word [character])
    else none

/-- The tokens that a character completes, and the state after it. -/
def step? (state : State) (character : Char) : Option (List Token × State) :=
  match state with
  | .between => begin? character
  | .word read =>
    if character.isLower then some ([], .word (character :: read))
    else
      match ofWord? read.reverse, begin? character with
      | some token, some (tokens, state) => some (token :: tokens, state)
      | _, _ => none
  | .number part read =>
    match part.extend? character with
    | some longer => some ([], .number longer (character :: read))
    | none =>
      match ofNumber? part read.reverse, begin? character with
      | some token, some (tokens, state) => some (token :: tokens, state)
      | _, _ => none
  | .string codes =>
    if character = '"' then some ([.text (literal codes.reverse)], .between)
    else if character = '\\' then some ([], .escape codes)
    else if character.toNat < 32 then none
    else some ([], .string (character.toNat :: codes))
  | .escape codes =>
    if character = 'u' then some ([], .unicode codes 4 0)
    else (escapeCode? character).map fun code => ([], .string (code :: codes))
  | .unicode codes missing value =>
    (Hex.digitValue? character).map fun digit =>
      let longer := value * 16 + digit
      match missing with
      | 0 | 1 => ([], .string (longer :: codes))
      | missing + 1 => ([], .unicode codes missing longer)

/-- The token that the end of the text completes. -/
def finish? : State → Option (List Token)
  | .between => some []
  | .word read => (ofWord? read.reverse).map ([·])
  | .number part read => (ofNumber? part read.reverse).map ([·])
  | _ => none

/-- The tokens of the rest of a text, from a state. -/
def scan? : State → List Char → Option (List Token)
  | state, [] => finish? state
  | state, character :: rest =>
    match step? state character with
    | some (tokens, after) => (scan? after rest).map (tokens ++ ·)
    | none => none

end Token

/-- The tokens of a text. -/
def tokens? (text : String) : Option (List Token) := Token.scan? .between text.toList

end WalletBridge.Json
