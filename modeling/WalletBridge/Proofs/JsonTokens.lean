/-
This file proves that the tokens of a JSON text are found again in the characters that are written
for them. A string literal ends by itself: what is inside is escaped, so that no character of it is
taken for its end. A number and a word end where a character comes that cannot go on with them, so
for these it matters what stands behind; in a text without blanks that is a comma, a closing bracket
or nothing.
-/

import Mathlib.Data.List.Basic
import Mathlib.Tactic.IntervalCases
import WalletBridge.Json.Parser

namespace WalletBridge.Json

namespace Token

/-! ### Single steps -/

theorem scan?_of_silent {state after : State} {character : Char}
    (step : step? state character = some ([], after)) (rest : List Char) :
    scan? state (character :: rest) = scan? after rest := by
  rw [scan?, step]
  exact Option.map_id'

theorem scan?_of_token {state after : State} {character : Char} {token : Token}
    (step : step? state character = some ([token], after)) (rest : List Char) :
    scan? state (character :: rest) = (scan? after rest).map (token :: ·) := by
  rw [scan?, step]
  rfl

/-! ### Literals -/

theorem digitValue?_digit {value : Nat} (small : value < 16) :
    Hex.digitValue? (Hex.digit value) = some value := by
  have all : ∀ low : Fin 16, Hex.digitValue? (Hex.digit low.val) = some low.val := by decide
  exact all ⟨value, small⟩

/-- An escape of one letter is read as the code that it stands for. -/
theorem scan?_letter {letter : Char} {code : Nat} (known : escapeCode? letter = some code)
    (codes : List Nat) (rest : List Char) :
    scan? (.string codes) ('\\' :: letter :: rest) = scan? (.string (code :: codes)) rest := by
  have begins : step? (.string codes) '\\' = some ([], .escape codes) := rfl
  have ends : step? (.escape codes) letter = some ([], .string (code :: codes)) := by
    have short : letter ≠ 'u' := by
      rintro rfl
      cases known
    rw [step?, if_neg short, known]
    rfl
  rw [scan?_of_silent begins, scan?_of_silent ends]

/-- An escape of four digits is read as their number. -/
theorem scan?_digits {high low : Nat} (highSmall : high < 16) (lowSmall : low < 16)
    (codes : List Nat) (rest : List Char) :
    scan? (.string codes)
        ('\\' :: 'u' :: '0' :: '0' :: Hex.digit high :: Hex.digit low :: rest) =
      scan? (.string ((high * 16 + low) :: codes)) rest := by
  have third : step? (.unicode codes 2 0) (Hex.digit high) =
      some ([], .unicode codes 1 (0 * 16 + high)) := by
    rw [step?, digitValue?_digit highSmall]
    rfl
  have fourth : step? (.unicode codes 1 (0 * 16 + high)) (Hex.digit low) =
      some ([], .string (((0 * 16 + high) * 16 + low) :: codes)) := by
    rw [step?, digitValue?_digit lowSmall]
    rfl
  have begins : scan? (.string codes)
      ('\\' :: 'u' :: '0' :: '0' :: Hex.digit high :: Hex.digit low :: rest) =
        scan? (.unicode codes 2 0) (Hex.digit high :: Hex.digit low :: rest) := by
    iterate 4 rw [scan?_of_silent rfl]
    rfl
  rw [begins, scan?_of_silent third, scan?_of_silent fourth, Nat.zero_mul, Nat.zero_add]

/-- A character inside a literal is read as its code. -/
theorem scan?_escapeChar (character : Char) (codes : List Nat) (rest : List Char) :
    scan? (.string codes) (escapeChar character ++ rest) =
      scan? (.string (character.toNat :: codes)) rest := by
  rw [escapeChar]
  split_ifs with quote backslash newline carriage tab backspace feed control
  · subst quote; exact scan?_letter rfl codes rest
  · subst backslash; exact scan?_letter rfl codes rest
  · subst newline; exact scan?_letter rfl codes rest
  · subst carriage; exact scan?_letter rfl codes rest
  · subst tab; exact scan?_letter rfl codes rest
  · subst backspace; exact scan?_letter rfl codes rest
  · subst feed; exact scan?_letter rfl codes rest
  · have whole : character.toNat / 16 * 16 + character.toNat % 16 = character.toNat := by omega
    have high : character.toNat / 16 < 16 := by omega
    have low : character.toNat % 16 < 16 := by omega
    have read := scan?_digits high low codes rest
    rwa [whole] at read
  · refine scan?_of_silent ?_ rest
    rw [step?, if_neg quote, if_neg backslash, if_neg control]

/-- The codes of characters spell these characters: none of them is half of a surrogate pair. -/
theorem spell_codes (characters : List Char) :
    spell (characters.map Char.toNat) = some characters := by
  have whole : ∀ character : Char,
      isHighSurrogate character.toNat = false ∧ isLowSurrogate character.toNat = false := by
    intro character
    have valid : character.toNat < 0xD800 ∨
        0xDFFF < character.toNat ∧ character.toNat < 0x110000 := character.valid
    simp only [isHighSurrogate, isLowSurrogate, Bool.and_eq_false_iff, decide_eq_false_iff_not]
    omega
  induction characters with
  | nil => rfl
  | cons character rest inductionHypothesis =>
    obtain ⟨notHigh, notLow⟩ := whole character
    cases rest with
    | nil =>
      simp [spell, notHigh, notLow, Char.ofNat_toNat]
    | cons follower rest =>
      rw [List.map_cons] at inductionHypothesis
      rw [List.map_cons, List.map_cons, spell, inductionHypothesis]
      simp [notHigh, notLow, Char.ofNat_toNat]

theorem literal_codes (characters : List Char) :
    literal (characters.map Char.toNat) = some (String.ofList characters) := by
  rw [literal, spell_codes]
  rfl

/-- The characters of a literal are read up to its end. -/
theorem scan?_escaped (characters : List Char) (codes : List Nat) (rest : List Char) :
    scan? (.string codes) (characters.flatMap escapeChar ++ '"' :: rest) =
      (scan? .between rest).map
        (.text (literal (codes.reverse ++ characters.map Char.toNat)) :: ·) := by
  induction characters generalizing codes with
  | nil =>
    rw [List.map_nil, List.append_nil]
    exact scan?_of_token rfl rest
  | cons character characters inductionHypothesis =>
    rw [List.flatMap_cons, List.append_assoc, scan?_escapeChar, inductionHypothesis,
      List.reverse_cons, List.append_assoc]
    rfl

/-- A literal is read as it was written, whatever comes behind. -/
theorem scan?_literalChars (name : Literal) (rest : List Char) :
    scan? .between (literalChars name ++ rest) =
      (scan? .between rest).map (.text name :: ·) := by
  cases name with
  | none =>
    show scan? .between ('"' :: '\\' :: 'u' :: 'd' :: '8' :: '0' :: '0' :: '"' :: rest) = _
    iterate 7 rw [scan?_of_silent rfl]
    exact scan?_of_token rfl rest
  | some text =>
    have written : literalChars (some text) ++ rest =
        '"' :: (text.toList.flatMap escapeChar ++ '"' :: rest) := by
      rw [literalChars, quoteChars, List.append_assoc]
      rfl
    rw [written, scan?_of_silent rfl, scan?_escaped, List.reverse_nil, List.nil_append,
      literal_codes, String.ofList_toList]

/-! ### Ends -/

/-- What can stand behind a value. -/
inductive Ends : List Char → Prop where
  | nil : Ends []
  | comma (rest : List Char) : Ends (',' :: rest)
  | bracket (rest : List Char) : Ends (']' :: rest)
  | brace (rest : List Char) : Ends ('}' :: rest)

/-- A character that ends a token and is one itself. -/
theorem scan?_of_end {state : State} {character : Char} {token mark : Token}
    (step : step? state character = some ([token, mark], .between))
    (begins : step? .between character = some ([mark], .between)) (rest : List Char) :
    scan? state (character :: rest) = (scan? .between (character :: rest)).map (token :: ·) := by
  rw [scan?, step, scan?_of_token begins, Option.map_map]
  rfl

theorem scan?_word {read : List Char} {token : Token} (known : ofWord? read.reverse = some token)
    {rest : List Char} (ends : Ends rest) :
    scan? (.word read) rest = (scan? .between rest).map (token :: ·) := by
  -- Where a character ends the word, one step gives two tokens: the word and the character.
  cases ends with
  | nil => rw [scan?, finish?, known]; rfl
  | comma rest => exact scan?_of_end (by rw [step?, known]; rfl) rfl rest
  | bracket rest => exact scan?_of_end (by rw [step?, known]; rfl) rfl rest
  | brace rest => exact scan?_of_end (by rw [step?, known]; rfl) rfl rest

theorem scan?_number {part : NumberPart} {read : List Char} {token : Token}
    (known : ofNumber? part read.reverse = some token) {rest : List Char} (ends : Ends rest) :
    scan? (.number part read) rest = (scan? .between rest).map (token :: ·) := by
  have comma : part.extend? ',' = none := by cases part <;> rfl
  have bracket : part.extend? ']' = none := by cases part <;> rfl
  have brace : part.extend? '}' = none := by cases part <;> rfl
  cases ends with
  | nil => rw [scan?, finish?, known]; rfl
  | comma rest => exact scan?_of_end (by rw [step?, comma, known]; rfl) rfl rest
  | bracket rest => exact scan?_of_end (by rw [step?, bracket, known]; rfl) rfl rest
  | brace rest => exact scan?_of_end (by rw [step?, brace, known]; rfl) rfl rest

/-! ### Numbers -/

/-- Characters that are a number literal, and its token. -/
def IsNumber (characters : List Char) (token : Token) : Prop :=
  ∃ first rest start part, characters = first :: rest ∧
    step? .between first = some ([], .number start [first]) ∧
    rest.foldlM NumberPart.extend? start = some part ∧ ofNumber? part characters = some token

theorem scan?_extend {start part : NumberPart} {characters : List Char}
    (goes : characters.foldlM NumberPart.extend? start = some part) (read rest : List Char) :
    scan? (.number start read) (characters ++ rest) =
      scan? (.number part (characters.reverse ++ read)) rest := by
  induction characters generalizing start read with
  | nil =>
    cases goes
    rfl
  | cons character characters inductionHypothesis =>
    rw [List.foldlM_cons] at goes
    cases longer : start.extend? character with
    | none => rw [longer] at goes; cases goes
    | some next =>
      rw [longer] at goes
      have step : step? (.number start read) character =
          some ([], .number next (character :: read)) := by
        rw [step?, longer]
      rw [List.cons_append, scan?_of_silent step, inductionHypothesis goes, List.reverse_cons,
        List.append_assoc]
      rfl

theorem scan?_isNumber {characters : List Char} {token : Token}
    (number : IsNumber characters token) {rest : List Char} (ends : Ends rest) :
    scan? .between (characters ++ rest) = (scan? .between rest).map (token :: ·) := by
  obtain ⟨first, others, start, part, rfl, begins, goes, known⟩ := number
  rw [List.cons_append, scan?_of_silent begins, scan?_extend goes]
  refine scan?_number ?_ ends
  rw [List.reverse_append, List.reverse_reverse]
  exact known

theorem digitsValue_toDigits (number : Nat) : digitsValue (Nat.toDigits 10 number) = number := by
  have same : digitsValue (Nat.toDigits 10 number) =
      Nat.ofDigitChars 10 (Nat.toDigits 10 number) 0 := by
    simp only [digitsValue, Nat.ofDigitChars, Nat.mul_comm]
    rfl
  rw [same, Nat.ofDigitChars_toDigits (by decide) (by decide)]

/-- The digits of a number that is not zero start with another digit than zero. -/
theorem toDigits_eq_cons {number : Nat} (positive : 0 < number) :
    ∃ first rest, Nat.toDigits 10 number = Nat.digitChar first :: rest ∧
      0 < first ∧ first < 10 := by
  -- All digits but the last are those of a tenth of the number.
  induction number using Nat.strongRecOn with
  | ind number inductionHypothesis =>
    rw [Nat.toDigits_eq_if (by decide)]
    by_cases single : number < 10
    · exact ⟨number, [], if_pos single, positive, single⟩
    · obtain ⟨first, rest, digits, nonzero, small⟩ :=
        inductionHypothesis (number / 10) (by omega) (by omega)
      rw [if_neg single, digits]
      exact ⟨first, _, rfl, nonzero, small⟩

theorem foldlM_extend?_of_isDigit {characters : List Char}
    (digits : ∀ character ∈ characters, character.isDigit = true) :
    characters.foldlM NumberPart.extend? .whole = some .whole := by
  induction characters with
  | nil => rfl
  | cons character characters inductionHypothesis =>
    have first : NumberPart.extend? .whole character = some .whole := by
      rw [NumberPart.extend?, if_pos (digits character List.mem_cons_self)]
    rw [List.foldlM_cons, first]
    exact inductionHypothesis fun other member => digits other (List.mem_cons_of_mem _ member)

/-- A digit but zero begins a whole part, also behind a sign. -/
theorem leading_digit {first : Nat} (nonzero : 0 < first) (small : first < 10) :
    step? .between first.digitChar = some ([], .number .whole [first.digitChar]) ∧
      NumberPart.extend? .sign first.digitChar = some .whole ∧
      ∀ rest, ofNumber? .whole (first.digitChar :: rest) =
        some (.integer (digitsValue (first.digitChar :: rest))) := by
  interval_cases first <;> exact ⟨rfl, rfl, fun _ => rfl⟩

/-- An integer is read as it is written. -/
theorem isNumber_toString (value : Int) :
    IsNumber (toString value).toList (.integer value) := by
  have digits : ∀ number, ∀ character ∈ Nat.toDigits 10 number, character.isDigit = true :=
    fun number character member => Nat.isDigit_of_mem_toDigits (by decide) (by decide) member
  cases value with
  | ofNat number =>
    have written : (toString (Int.ofNat number)).toList = Nat.toDigits 10 number := Nat.toList_repr
    rw [written]
    -- Behind a leading zero no digit may follow, so zero is read in a state of its own.
    rcases Nat.eq_zero_or_pos number with rfl | positive
    · exact ⟨'0', [], .zero, .zero, rfl, rfl, rfl, rfl⟩
    obtain ⟨first, rest, split, nonzero, small⟩ := toDigits_eq_cons positive
    obtain ⟨begins, -, known⟩ := leading_digit nonzero small
    have value := digitsValue_toDigits number
    have allDigits := digits number
    rw [split] at value allDigits ⊢
    refine ⟨_, rest, .whole, .whole, rfl, begins, foldlM_extend?_of_isDigit fun other member =>
      allDigits other (List.mem_cons_of_mem _ member), ?_⟩
    rw [known, value]
    rfl
  | negSucc number =>
    have written : (toString (Int.negSucc number)).toList =
        '-' :: Nat.toDigits 10 (number + 1) := by
      show ("-" ++ (number + 1).repr).toList = _
      rw [String.toList_append, Nat.toList_repr]
      rfl
    obtain ⟨first, rest, split, nonzero, small⟩ := toDigits_eq_cons (Nat.succ_pos number)
    obtain ⟨-, goes, -⟩ := leading_digit nonzero small
    have value := digitsValue_toDigits (number + 1)
    have allDigits := digits (number + 1)
    rw [written]
    refine ⟨'-', _, .sign, .whole, rfl, rfl, ?_, ?_⟩
    · rw [split] at allDigits ⊢
      rw [List.foldlM_cons, goes]
      exact foldlM_extend?_of_isDigit fun other member =>
        allDigits other (List.mem_cons_of_mem _ member)
    · show some (Token.integer (-(digitsValue (Nat.toDigits 10 (number + 1)) : Int))) = _
      rw [value]
      rfl

end Token

end WalletBridge.Json
