/-
This file reads typed data out of JSON values, strictly: a whole number must be an integer literal
in range, a record may name its members in any order or list them by position, a member it knows
may not come twice, and members it does not know are passed over.
-/

import WalletBridge.Json.Parser

namespace WalletBridge.Json

namespace Value

/-- The text of a string literal. -/
def text? : Value → Option String
  | .text literal => literal
  | _ => none

/-- An integer literal from zero to a bound. -/
def natUpTo? (bound : Nat) : Value → Option Nat
  | .integer value => if 0 ≤ value ∧ value ≤ bound then some value.toNat else none
  | _ => none

/-- An integer literal that an octet holds. -/
def uint8? (value : Value) : Option UInt8 := (value.natUpTo? 255).map UInt8.ofNat

/-- An integer literal that a word of 32 bits holds. -/
def uint32? (value : Value) : Option UInt32 := (value.natUpTo? 4294967295).map UInt32.ofNat

/-- An integer literal that a word of 64 bits holds. -/
def uint64? (value : Value) : Option UInt64 :=
  (value.natUpTo? 18446744073709551615).map UInt64.ofNat

/-- The name of a variant without content: the name alone, or a record whose only member has that
name and is null. -/
def variant? : Value → Option String
  | .text literal => literal
  | .record [(some name, .null)] => some name
  | _ => none

end Value

/-! ### Records -/

/-- The members of a record, as its reader asks for them: one place for each known name. -/
structure Members where
  /-- Whether the members were given by name rather than by position. -/
  named : Bool
  places : List (Option Value)

/-- The value of the only member with a name: absent when there is none, refused when there are
several. -/
def single? (members : List (Literal × Value)) (name : String) : Option (Option Value) :=
  match members.filter fun member => member.1 == some name with
  | [] => some none
  | [member] => some (some member.2)
  | _ => none

/-- Sorts the members of a record by the known names. A list gives them by position. -/
def members? (names : List String) : Value → Option Members
  | .record members => do
    guard (members.all fun member => member.1.isSome)
    let places ← names.mapM (single? members)
    pure ⟨true, places⟩
  | .list items =>
    if items.length ≤ names.length then
      some ⟨false, items.map some ++ List.replicate (names.length - items.length) none⟩
    else none
  | _ => none

namespace Members

/-- What a place holds. -/
def place (members : Members) (index : Nat) : Option Value := (members.places[index]?).join

/-- A member that must be there. -/
def required {Content : Type} (members : Members) (index : Nat)
    (read : Value → Option Content) : Option Content :=
  (members.place index).bind read

/-- A member that may be null, and absent where members have names. -/
def optional {Content : Type} (members : Members) (index : Nat)
    (read : Value → Option Content) : Option (Option Content) :=
  match members.place index with
  | none => if members.named then some none else none
  | some .null => some none
  | some value => (read value).map some

/-- A member with a default for its absence. -/
def defaulted {Content : Type} (members : Members) (index : Nat) (default : Content)
    (read : Value → Option Content) : Option Content :=
  match members.place index with
  | none => some default
  | some value => read value

/-- A member that may be null, with null for its absence in either form. -/
def defaultedOptional {Content : Type} (members : Members) (index : Nat)
    (default : Option Content) (read : Value → Option Content) : Option (Option Content) :=
  match members.place index with
  | none => some default
  | some .null => some none
  | some value => (read value).map some

end Members

end WalletBridge.Json
