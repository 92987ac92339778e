/-
This file holds the shape that descriptors have before anything is known of their words: a name,
and in brackets behind it some expressions of the same shape. The scripts of a script tree are
kept whole at first, so the tree itself is read with brackets of another kind.
-/

import WalletBridge.Descriptor.Checksum
import WalletBridge.Word

namespace WalletBridge

/-- A name with arguments. -/
inductive Expression where
  | node (name : List Char) (arguments : List Expression)

namespace Expression

/-- The brackets around arguments. -/
inductive Brackets where
  | round
  | curly
  deriving DecidableEq

/-- The bracket before arguments. -/
def Brackets.opening : Brackets → Char
  | .round => '('
  | .curly => '\x7b'

/-- The bracket behind arguments. -/
def Brackets.closing : Brackets → Char
  | .round => ')'
  | .curly => '\x7d'

/-- How deep expressions may stand in one another. -/
def depthLimit : Nat := 402

/-- Cuts a text before the first bracket or comma. Among curly brackets, commas inside round ones
belong to the name; the number counts the round brackets that are open. -/
def cutName (brackets : Brackets) : Int → List Char → List Char × List Char
  | _, [] => ([], [])
  | count, character :: rest =>
    let goOn (count : Int) : List Char × List Char :=
      let (name, left) := cutName brackets count rest
      (character :: name, left)
    if character = brackets.opening ∨ character = brackets.closing then ([], character :: rest)
    else if character = ',' then if count = 0 then ([], character :: rest) else goOn count
    else if character = '(' then goOn (count + 1)
    else if character = ')' then goOn (count - 1)
    else goOn count

mutual

/-- Reads an expression from the front of a text. The first number bounds the steps, the second
one counts the depth. -/
def parseNode (brackets : Brackets) : Nat → Nat → List Char → Option (Expression × List Char)
  | 0, _, _ => none
  | steps + 1, depth, text =>
    if depthLimit ≤ depth then none
    else
      let (name, rest) := cutName brackets 0 text
      match rest with
      | [] => some (.node name [], [])
      | character :: behind =>
        if character = brackets.opening then do
          let (arguments, left) ← parseArguments brackets steps (depth + 1) behind
          pure (.node name arguments, left)
        else some (.node name [], rest)

/-- Reads arguments and the bracket behind them. -/
def parseArguments (brackets : Brackets) :
    Nat → Nat → List Char → Option (List Expression × List Char)
  | 0, _, _ => none
  | steps + 1, depth, text => do
    let (argument, rest) ← parseNode brackets steps depth text
    match rest with
    | [] => none
    | character :: behind =>
      if character = ',' then do
        let (others, left) ← parseArguments brackets steps depth behind
        pure (argument :: others, left)
      else if character = brackets.closing then some ([argument], behind)
      else none

end

/-- The expression that a whole text is, read from a depth on. -/
def parseFrom? (brackets : Brackets) (depth : Nat) (text : List Char) : Option Expression :=
  if text.all Checksum.inputAlphabet.contains then
    match parseNode brackets (2 * text.length + 2) depth text with
    | some (expression, []) => some expression
    | _ => none
  else none

/-- The expression that a whole text is. -/
def parse? (text : List Char) : Option Expression := parseFrom? .round 0 text

/-- The name of an expression without arguments. -/
def terminal? : Expression → Option (List Char)
  | .node name [] => some name
  | _ => none

/-- A number without leading zeros, of 32 bits. -/
def number? (text : List Char) : Option Nat :=
  match text with
  | [] => none
  | first :: rest =>
    if first = '0' ∧ rest ≠ [] then none
    else if text.all Char.isDigit then
      let value := text.foldl (fun value digit => 10 * value + (digit.toNat - 48)) 0
      if value < values32 then some value else none
    else none

end Expression

end WalletBridge
