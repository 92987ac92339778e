/-
This file builds a JSON value from its tokens. The builder keeps a stack of the lists and records
that are still open, and reads one token at a time; a document is accepted when the last token
closes its only value.
-/

import WalletBridge.Json.Token

namespace WalletBridge.Json

/-- A list or record that is still open, with what it holds so far, the last first. -/
inductive Frame where
  | items (done : List Value)
  | members (done : List (Literal × Value)) (name : Literal)
  deriving Repr

/-- What the builder waits for. -/
inductive Builder where
  /-- A value. -/
  | awaitValue (outer : List Frame)
  /-- The first item of a list, or its end. -/
  | firstItem (outer : List Frame)
  /-- The name of the first member of a record, or its end. -/
  | firstName (outer : List Frame)
  /-- The name of a member. -/
  | awaitName (outer : List Frame) (done : List (Literal × Value))
  /-- The colon after a name. -/
  | awaitColon (outer : List Frame) (done : List (Literal × Value)) (name : Literal)
  /-- A comma or the end of an open list. -/
  | afterItem (outer : List Frame) (done : List Value)
  /-- A comma or the end of an open record. -/
  | afterMember (outer : List Frame) (done : List (Literal × Value))
  /-- The end of the document. -/
  | finished (value : Value)
  deriving Repr

namespace Builder

/-- Puts a complete value where the innermost open frame takes it. -/
def deliver (value : Value) : List Frame → Builder
  | [] => .finished value
  | .items done :: outer => .afterItem outer (value :: done)
  | .members done name :: outer => .afterMember outer ((name, value) :: done)

/-- Starts the value that a token begins. -/
def start? (outer : List Frame) : Token → Option Builder
  | .null => some (deliver .null outer)
  | .flag value => some (deliver (.flag value) outer)
  | .integer value => some (deliver (.integer value) outer)
  | .decimal spelling => some (deliver (.decimal spelling) outer)
  | .text literal => some (deliver (.text literal) outer)
  | .openBracket => some (.firstItem outer)
  | .openBrace => some (.firstName outer)
  | _ => none

/-- The builder after one more token. -/
def step? : Builder → Token → Option Builder
  | .awaitValue outer, token => start? outer token
  | .firstItem outer, .closeBracket => some (deliver (.list []) outer)
  | .firstItem outer, token => start? (.items [] :: outer) token
  | .firstName outer, .closeBrace => some (deliver (.record []) outer)
  | .firstName outer, .text name => some (.awaitColon outer [] name)
  | .awaitName outer done, .text name => some (.awaitColon outer done name)
  | .awaitColon outer done name, .colon => some (.awaitValue (.members done name :: outer))
  | .afterItem outer done, .comma => some (.awaitValue (.items done :: outer))
  | .afterItem outer done, .closeBracket => some (deliver (.list done.reverse) outer)
  | .afterMember outer done, .comma => some (.awaitName outer done)
  | .afterMember outer done, .closeBrace => some (deliver (.record done.reverse) outer)
  | _, _ => none

/-- The builder after a run of tokens. -/
def run? : Builder → List Token → Option Builder
  | builder, [] => some builder
  | builder, token :: rest => (step? builder token).bind fun after => run? after rest

end Builder

/-- The value that a text spells, if it is one JSON document. -/
def parse? (text : String) : Option Value :=
  match (tokens? text).bind (Builder.run? (.awaitValue [])) with
  | some (.finished value) => some value
  | _ => none

end WalletBridge.Json
