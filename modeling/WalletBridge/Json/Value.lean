/-
This file holds the values of JSON documents and how they are written. Numbers keep the form that
a strict reader needs: a literal without fraction and exponent is an integer of any size, every
other literal is kept as it is spelled. A string literal whose escapes leave half of a surrogate
pair alone is well-formed JSON but spells no text, so a literal is an optional text.
-/

import WalletBridge.Text.Hex

namespace WalletBridge.Json

/-- What a string literal spells: nothing when a surrogate stands alone in it. -/
abbrev Literal := Option String

/-- A JSON value. Members keep their order, and a name may occur more than once. -/
inductive Value where
  | null
  | flag (value : Bool)
  | integer (value : Int)
  /-- A number literal with a fraction or an exponent, or minus zero. -/
  | decimal (spelling : String)
  | text (literal : Literal)
  | list (items : List Value)
  | record (members : List (Literal × Value))
  deriving Repr, BEq, Inhabited

namespace Value

/-- A text as a value. -/
def ofText (text : String) : Value := .text (some text)

/-- A natural number as a value. -/
def ofNat (value : Nat) : Value := .integer value

/-- A record with readable member names. -/
def ofMembers (members : List (String × Value)) : Value :=
  .record (members.map fun member => (some member.1, member.2))

/-- An optional value, null when absent. -/
def ofOption {Content : Type} (form : Content → Value) : Option Content → Value
  | none => .null
  | some content => form content

/-- The last member with a name. -/
def member? (value : Value) (name : String) : Option Value :=
  match value with
  | .record members =>
    (members.filter fun member => member.1 == some name).getLast?.map (·.2)
  | _ => none

end Value

/-! ### Writing -/

/-- The characters that stand for a character inside a string literal. -/
def escapeChar (character : Char) : List Char :=
  if character = '"' then ['\\', '"']
  else if character = '\\' then ['\\', '\\']
  else if character = '\n' then ['\\', 'n']
  else if character = '\r' then ['\\', 'r']
  else if character = '\t' then ['\\', 't']
  else if character = '\x08' then ['\\', 'b']
  else if character = '\x0c' then ['\\', 'f']
  else if character.toNat < 32 then
    ['\\', 'u', '0', '0', Hex.digit (character.toNat / 16), Hex.digit (character.toNat % 16)]
  else [character]

/-- A text as a string literal. -/
def quoteChars (characters : List Char) : List Char :=
  '"' :: characters.flatMap escapeChar ++ ['"']

/-- A literal as it is written; one that spells no text is written as a lone surrogate. -/
def literalChars : Literal → List Char
  | some text => quoteChars text.toList
  | none => ['"', '\\', 'u', 'd', '8', '0', '0', '"']

mutual

/-- The characters of a value, without any blank between its tokens. -/
def Value.chars : Value → List Char
  | .null => ['n', 'u', 'l', 'l']
  | .flag true => ['t', 'r', 'u', 'e']
  | .flag false => ['f', 'a', 'l', 's', 'e']
  | .integer value => (toString value).toList
  | .decimal spelling => spelling.toList
  | .text literal => literalChars literal
  | .list [] => ['[', ']']
  | .list (item :: items) => '[' :: item.chars ++ itemChars items
  | .record [] => ['{', '}']
  | .record (member :: members) =>
    '{' :: literalChars member.1 ++ ':' :: member.2.chars ++ memberChars members

/-- The items after the first one, each after a comma, and the closing bracket. -/
def itemChars : List Value → List Char
  | [] => [']']
  | item :: items => ',' :: item.chars ++ itemChars items

/-- The members after the first one, each after a comma, and the closing brace. -/
def memberChars : List (Literal × Value) → List Char
  | [] => ['}']
  | (name, value) :: members =>
    ',' :: literalChars name ++ ':' :: value.chars ++ memberChars members

end

/-- The text of a value. -/
def Value.render (value : Value) : String := String.ofList value.chars

end WalletBridge.Json
