/-
This file proves that a JSON value is read back from its text. The text is first split into the
tokens of the value, and these are then put together again. Both halves follow the value: behind
the text of a part stands whatever belongs to the parts around it, and before it the builder keeps
the lists and records that are still open.

Every value has this property but one that holds a number which no literal spells: a number that is
no integer is kept as a spelling, and the spelling has to be one.
-/

import WalletBridge.Proofs.JsonTokens

namespace WalletBridge.Json

open Token

/-! ### Tokens of a value -/

mutual

/-- The tokens of a value. -/
def Value.tokens : Value → List Token
  | .null => [.null]
  | .flag value => [.flag value]
  | .integer value => [.integer value]
  | .decimal spelling => [.decimal spelling]
  | .text literal => [.text literal]
  | .list [] => [.openBracket, .closeBracket]
  | .list (item :: items) => .openBracket :: (item.tokens ++ itemTokens items)
  | .record [] => [.openBrace, .closeBrace]
  | .record ((name, value) :: members) =>
    .openBrace :: .text name :: .colon :: (value.tokens ++ memberTokens members)

/-- The tokens of the items after the first one. -/
def itemTokens : List Value → List Token
  | [] => [.closeBracket]
  | item :: items => .comma :: (item.tokens ++ itemTokens items)

/-- The tokens of the members after the first one. -/
def memberTokens : List (Literal × Value) → List Token
  | [] => [.closeBrace]
  | (name, value) :: members =>
    .comma :: .text name :: .colon :: (value.tokens ++ memberTokens members)

end

mutual

/-- Every number of a value that is no integer is spelled as a number. -/
def Value.IsSpelled : Value → Prop
  | .null | .flag _ | .integer _ | .text _ => True
  | .decimal spelling => IsNumber spelling.toList (.decimal spelling)
  | .list items => ItemsSpelled items
  | .record members => MembersSpelled members

/-- So is every number of some items. -/
def ItemsSpelled : List Value → Prop
  | [] => True
  | item :: items => item.IsSpelled ∧ ItemsSpelled items

/-- So is every number of some members. -/
def MembersSpelled : List (Literal × Value) → Prop
  | [] => True
  | (_, value) :: members => value.IsSpelled ∧ MembersSpelled members

end

/-! ### Splitting -/

/-- Tokens are found in some characters, whatever ends what is behind them. -/
def Splits (characters : List Char) (tokens : List Token) : Prop :=
  ∀ rest, Ends rest → scan? .between (characters ++ rest) = (scan? .between rest).map (tokens ++ ·)

namespace Splits

variable {front back : List Char} {tokens more : List Token}

theorem nil : Splits [] [] := fun rest _ => by
  rw [List.nil_append]
  exact (Option.map_id').symm

/-- A character that is a token of its own. -/
theorem mark {character : Char} {token : Token}
    (step : step? .between character = some ([token], .between)) (behind : Splits back more) :
    Splits (character :: back) (token :: more) := fun rest ends => by
  rw [List.cons_append, scan?_of_token step, behind rest ends, Option.map_map]
  rfl

theorem literal (name : Literal) (behind : Splits back more) :
    Splits (literalChars name ++ back) (.text name :: more) := fun rest ends => by
  rw [List.append_assoc, scan?_literalChars, behind rest ends, Option.map_map]
  rfl

theorem append (splits : Splits front tokens) (ended : ∀ rest, Ends (back ++ rest))
    (behind : Splits back more) : Splits (front ++ back) (tokens ++ more) := fun rest ends => by
  rw [List.append_assoc, splits _ (ended rest), behind rest ends, Option.map_map]
  simp only [Function.comp_def, List.append_assoc]

/-- The name of a member, and its value. -/
theorem member (name : Literal) (splits : Splits front tokens)
    (ended : ∀ rest, Ends (back ++ rest)) (behind : Splits back more) :
    Splits (literalChars name ++ ':' :: front ++ back)
      (.text name :: .colon :: (tokens ++ more)) := by
  rw [List.append_assoc]
  exact literal name (mark rfl (splits.append ended behind))

end Splits

theorem itemChars_ends (items : List Value) (rest : List Char) :
    Ends (itemChars items ++ rest) := by
  cases items with
  | nil => exact .bracket rest
  | cons item items => exact .comma _

theorem memberChars_ends (members : List (Literal × Value)) (rest : List Char) :
    Ends (memberChars members ++ rest) := by
  cases members with
  | nil => exact .brace rest
  | cons member members => exact .comma _

mutual

/-- The tokens of a value are found in its characters. -/
theorem Value.splits : ∀ value : Value, value.IsSpelled → Splits value.chars value.tokens
  | .null, _ => fun rest ends => by
    show scan? .between ('n' :: 'u' :: 'l' :: 'l' :: rest) = _
    iterate 4 rw [scan?_of_silent rfl]
    exact scan?_word rfl ends
  | .flag true, _ => fun rest ends => by
    show scan? .between ('t' :: 'r' :: 'u' :: 'e' :: rest) = _
    iterate 4 rw [scan?_of_silent rfl]
    exact scan?_word rfl ends
  | .flag false, _ => fun rest ends => by
    show scan? .between ('f' :: 'a' :: 'l' :: 's' :: 'e' :: rest) = _
    iterate 5 rw [scan?_of_silent rfl]
    exact scan?_word rfl ends
  | .integer value, _ => fun rest ends => scan?_isNumber (isNumber_toString value) ends
  | .decimal spelling, spelled => fun rest ends => by
    rw [Value.IsSpelled] at spelled
    exact scan?_isNumber spelled ends
  | .text literal, _ => fun rest _ => scan?_literalChars literal rest
  | .list [], _ => .mark rfl (.mark rfl .nil)
  | .list (item :: items), spelled => by
    rw [Value.IsSpelled, ItemsSpelled] at spelled
    exact .mark rfl (item.splits spelled.1 |>.append (itemChars_ends items)
      (splits_itemChars items spelled.2))
  | .record [], _ => .mark rfl (.mark rfl .nil)
  | .record ((name, value) :: members), spelled => by
    rw [Value.IsSpelled, MembersSpelled] at spelled
    exact .mark rfl (.member name (value.splits spelled.1) (memberChars_ends members)
      (splits_memberChars members spelled.2))

theorem splits_itemChars : ∀ items : List Value, ItemsSpelled items →
    Splits (itemChars items) (itemTokens items)
  | [], _ => .mark rfl .nil
  | item :: items, spelled => by
    rw [ItemsSpelled] at spelled
    exact .mark rfl (item.splits spelled.1 |>.append (itemChars_ends items)
      (splits_itemChars items spelled.2))

theorem splits_memberChars : ∀ members : List (Literal × Value), MembersSpelled members →
    Splits (memberChars members) (memberTokens members)
  | [], _ => .mark rfl .nil
  | (name, value) :: members, spelled => by
    rw [MembersSpelled] at spelled
    exact .mark rfl (.member name (value.splits spelled.1) (memberChars_ends members)
      (splits_memberChars members spelled.2))

end

theorem tokens?_render {value : Value} (spelled : value.IsSpelled) :
    tokens? value.render = some value.tokens := by
  have split := value.splits spelled [] .nil
  rw [List.append_nil] at split
  rw [tokens?, Value.render, String.toList_ofList, split]
  exact congrArg some (List.append_nil _)

/-! ### Building -/

namespace Builder

/-- Tokens put a value in the place of what the builder waits for. -/
def Builds (tokens : List Token) (value : Value) : Prop :=
  ∀ outer more, run? (.awaitValue outer) (tokens ++ more) = run? (deliver value outer) more

theorem run?_cons {builder after : Builder} {token : Token}
    (step : step? builder token = some after) (rest : List Token) :
    run? builder (token :: rest) = run? after rest := by
  rw [run?, step]
  rfl

/-- The first token of a value ends no list. -/
theorem tokens_eq_cons (value : Value) :
    ∃ first rest, value.tokens = first :: rest ∧ first ≠ .closeBracket := by
  cases value with
  | null => exact ⟨_, _, rfl, nofun⟩
  | flag value => exact ⟨_, _, rfl, nofun⟩
  | integer value => exact ⟨_, _, rfl, nofun⟩
  | decimal spelling => exact ⟨_, _, rfl, nofun⟩
  | text literal => exact ⟨_, _, rfl, nofun⟩
  | list items => cases items <;> exact ⟨_, _, rfl, nofun⟩
  | record members => cases members <;> exact ⟨_, _, rfl, nofun⟩

/-- The first item of a list is a value like any other. -/
theorem run?_firstItem (value : Value) (outer : List Frame) (more : List Token) :
    run? (.firstItem outer) (value.tokens ++ more) =
      run? (.awaitValue (.items [] :: outer)) (value.tokens ++ more) := by
  obtain ⟨first, rest, split, opens⟩ := tokens_eq_cons value
  -- Only a closing bracket tells the two states apart.
  have step : step? (.firstItem outer) first = step? (.awaitValue (.items [] :: outer)) first := by
    cases first <;> first | rfl | exact absurd rfl opens
  rw [split, List.cons_append, run?, run?, step]

mutual

/-- The tokens of a value put it together again. -/
theorem builds_tokens : ∀ value : Value, Builds value.tokens value
  | .null | .flag _ | .integer _ | .decimal _ | .text _ | .list [] | .record [] => fun _ _ => rfl
  | .list (item :: items) => fun outer more => by
    rw [Value.tokens, List.cons_append, List.append_assoc, run?_cons rfl, run?_firstItem,
      builds_tokens item, deliver, run?_itemTokens items outer [item] more]
    rfl
  | .record ((name, value) :: members) => fun outer more => by
    rw [Value.tokens, List.cons_append, List.cons_append, List.cons_append, List.append_assoc,
      run?_cons rfl, run?_cons rfl, run?_cons rfl, builds_tokens value, deliver,
      run?_memberTokens members outer [(name, value)] more]
    rfl

/-- The tokens of the other items complete a list. -/
theorem run?_itemTokens : ∀ (items : List Value) (outer : List Frame) (done : List Value)
    (more : List Token), run? (.afterItem outer done) (itemTokens items ++ more) =
      run? (deliver (.list (done.reverse ++ items)) outer) more
  | [], outer, done, more => by
    rw [itemTokens, List.append_nil]
    rfl
  | item :: items, outer, done, more => by
    rw [itemTokens, List.cons_append, List.append_assoc, run?_cons rfl, builds_tokens item, deliver,
      run?_itemTokens items outer (item :: done) more, List.reverse_cons, List.append_assoc,
      List.singleton_append]

/-- The tokens of the other members complete a record. -/
theorem run?_memberTokens : ∀ (members : List (Literal × Value)) (outer : List Frame)
    (done : List (Literal × Value)) (more : List Token),
    run? (.afterMember outer done) (memberTokens members ++ more) =
      run? (deliver (.record (done.reverse ++ members)) outer) more
  | [], outer, done, more => by
    rw [memberTokens, List.append_nil]
    rfl
  | (name, value) :: members, outer, done, more => by
    rw [memberTokens, List.cons_append, List.cons_append, List.cons_append, List.append_assoc,
      run?_cons rfl, run?_cons rfl, run?_cons rfl, builds_tokens value, deliver,
      run?_memberTokens members outer ((name, value) :: done) more, List.reverse_cons,
      List.append_assoc, List.singleton_append]

end

end Builder

/-- A value is read back from its text. -/
theorem parse?_render {value : Value} (spelled : value.IsSpelled) :
    parse? value.render = some value := by
  have built := Builder.builds_tokens value [] []
  rw [List.append_nil] at built
  rw [parse?, tokens?_render spelled, Option.bind_some, built]
  rfl

example : parse? "[-10,1.5e+3,[],\"a\\n\"]" =
    some (.list [.integer (-10), .decimal "1.5e+3", .list [], .text (some "a\n")]) := by
  rfl

end WalletBridge.Json
