/-
This file proves that the host reads a native string in one way, whichever of its three readers it
uses. All of them see the octets before the first zero and no others. Where these octets spell a
text, an owned string, a field and an error text are all read as this text. Where they spell none,
the first two are refused with the place up to which the octets are well formed, and the third is
still a text, which begins with what is well formed.

Only an owned string is given back, and this happens once and at the end of its life: no way of
looking at it, of failing to read it and of losing it misses that, and nothing looks at it later.
-/

import WalletBridge.Host.StringMemory
import WalletBridge.Proofs.TransitReading
import WalletBridge.Proofs.Utf8Spelling

namespace WalletBridge

/-! ### The front of a terminated string -/

namespace Bytes

theorem zero_not_mem_untilZero (octets : Bytes) : 0 ∉ octets.untilZero := by
  intro member
  have nonzero := List.all_eq_true.mp (List.all_takeWhile (p := (· != 0)) (l := octets)) 0 member
  exact absurd nonzero (by decide)

/-- Behind the front there is nothing, or the zero that ends it. -/
theorem eq_untilZero_append (octets : Bytes) :
    octets = octets.untilZero ∨ ∃ behind, octets = octets.untilZero ++ 0 :: behind := by
  induction octets with
  | nil => exact .inl rfl
  | cons octet rest inductionHypothesis =>
    by_cases zero : octet = 0
    · exact .inr ⟨rest, by simp [untilZero, zero]⟩
    · have front : untilZero (octet :: rest) = octet :: untilZero rest := by
        simp [untilZero, zero]
      rw [front]
      rcases inductionHypothesis with whole | ⟨behind, split⟩
      · exact .inl (congrArg (octet :: ·) whole)
      · exact .inr ⟨behind, congrArg (octet :: ·) split⟩

end Bytes

namespace Utf8

/-! ### Well-formed fronts -/

/-- A fault lies behind everything that was read before it. -/
theorem le_validUpTo {start : Nat} {parts : List Piece} {fault : Malformed}
    (failed : charsFrom start parts = .error fault) : start ≤ fault.validUpTo := by
  induction parts generalizing start with
  | nil => cases failed
  | cons part rest inductionHypothesis =>
    cases part with
    | broken width => cases failed; exact Nat.le_refl start
    | cutShort width => cases failed; exact Nat.le_refl start
    | scalar value width =>
      rw [charsFrom] at failed
      cases behind : charsFrom (start + width) rest with
      | ok values => rw [behind] at failed; cases failed
      | error found =>
        rw [behind] at failed
        cases failed
        exact Nat.le_trans (Nat.le_add_right start width) (inductionHypothesis behind)

/-- Where strict reading fails it has passed the longest front that is a text, and lossy reading
begins with this text. -/
theorem front_of_decode_error {octets : Bytes} {fault : Malformed}
    (failed : decode octets = .error fault) :
    ∃ front rest, octets.take fault.validUpTo = encode front ∧
      decodeLossy octets = front ++ rest ∧
      ∀ longer behind, octets = encode longer ++ behind →
        (encode longer).length ≤ fault.validUpTo := by
  have read : charsFrom 0 (pieces octets) = .error fault := by
    rw [decode] at failed
    cases ended : charsFrom 0 (pieces octets) with
    | ok characters => rw [ended] at failed; cases failed
    | error found => rw [ended] at failed; cases failed; rfl
  obtain ⟨characters, rest, rfl, last⟩ := exists_front octets
  have parts := pieces_encodeChars_append characters rest
  -- Behind the longest front stands no character, so this is where strict reading stops.
  have valid : fault.validUpTo = (encodeChars characters).length := by
    rw [parts, charsFrom_scalars_append, Nat.zero_add] at read
    cases first : pieces rest with
    | nil => rw [first] at read; cases read
    | cons part more =>
      rw [first] at read
      cases part with
      | scalar value width => exact absurd first (last value width more)
      | broken width => cases read; rfl
      | cutShort width => cases read; rfl
  refine ⟨String.ofList characters, String.ofList ((pieces rest).map Piece.toChar), ?_, ?_, ?_⟩
  · rw [valid, List.take_left, encode, String.toList_ofList]
  · rw [decodeLossy, parts, List.map_append, map_toChar_scalars, String.ofList_append]
  · intro longer behind start
    rw [start, encode, pieces_encodeChars_append, charsFrom_scalars_append, Nat.zero_add] at read
    cases ended : charsFrom (encodeChars longer.toList).length (pieces behind) with
    | ok values => rw [ended] at read; cases read
    | error found =>
      rw [ended] at read
      cases read
      exact le_validUpTo ended

end Utf8

/-! ### One reading -/

/-- How the readings of the same octets go together: as an owned string, as a field of that name and
as an error text. -/
inductive ReadAlike (field : String) (octets : Bytes) :
    Except BridgeError String → Except BridgeError String → String → Prop where
  | text (text : String) (spelled : octets = Utf8.encode text) :
      ReadAlike field octets (.ok text) (.ok text) text
  /-- The octets spell no text, and the fault lies behind their longest front that does. -/
  | malformed (fault : Utf8.Malformed) (front rest : String)
      (noText : ∀ text, octets ≠ Utf8.encode text)
      (wellFormed : octets.take fault.validUpTo = Utf8.encode front)
      (longest : ∀ longer behind, octets = Utf8.encode longer ++ behind →
        (Utf8.encode longer).length ≤ fault.validUpTo) :
      ReadAlike field octets
        (.error (.native "Utf8" ("native string is not UTF-8: " ++ fault.message)))
        (.error (.native "Utf8" (field ++ ": " ++ fault.message)))
        (front ++ rest)

theorem readAlike (field : String) (octets : Bytes) :
    ReadAlike field octets.untilZero (readOwned octets) (copyField (some octets) field)
      (copyLossy (some octets)) := by
  rw [readOwned, copyField, copyLossy]
  cases read : Utf8.decode octets.untilZero with
  | ok text =>
    have spelled := Utf8.decode_eq_ok_iff.mp read
    rw [spelled, Utf8.decodeLossy_encode]
    exact .text text rfl
  | error fault =>
    obtain ⟨front, rest, wellFormed, begins, longest⟩ := Utf8.front_of_decode_error read
    rw [begins]
    exact .malformed fault front rest (Utf8.exists_decode_eq_error_iff.mp ⟨fault, read⟩)
      wellFormed longest

example : copyLossy (some [0x66, 0xFF, 0x6F, 0, 0xC3]) = "f\uFFFDo" := by decide

/-! ### Readings as accesses -/

/-- A run that is followed by nothing but a change of its value. -/
theorem Traced.bind_pure_apply {Event State Content Other : Type}
    (first : Traced Event State Content) (change : Content → Other) (state : State) :
    (first >>= fun content => Pure.pure (change content)) state =
      ((first state).1.map change, (first state).2) := by
  show Traced.bind first _ state = _
  rw [Traced.bind]
  rcases first state with ⟨content | error | halt, after, events⟩
  · exact congrArg (fun all => (Outcome.value (change content), after, all))
      (List.append_nil events)
  · rfl
  · rfl

/-- What a look shows of a string with that front, and with that reading. -/
def StringLook.shows (front : Bytes) (read : Except BridgeError String) : StringLook → StringView
  | .octets => .octets front
  | .text => .text read
  | .line => .line ("NativeString(" ++ Quoted.quote front ++ ")")

/-- What becomes of a string with that reading. -/
def StringEnd.outcome (read : Except BridgeError String) : StringEnd → Outcome (Option String)
  | .dropped => .value none
  | .taken => .ofExcept (read.map some)
  | .unwound reason => .halted reason

/-- How often a string is read at its end. -/
def StringEnd.reads : StringEnd → Nat
  | .dropped | .unwound _ => 0
  | .taken => 1

namespace Reader

variable {Value State : Type} (memory : TransitMemory Value State) (address : Address)

/-- The access that reads a string. -/
def seen : Access Value := .read (.text address) (memory.live (.text address))

/-- The access that gives a string back. -/
def givenBack : Access Value := .freed (.text address) (memory.live (.text address))

theorem strictText_apply :
    strictText address memory =
      (.ofExcept (readOwned (memory.texts address)), memory, [seen memory address]) := by
  rfl

theorem looks_apply (views : List StringLook) :
    looks address views memory =
      (.value (views.map (StringLook.view (memory.texts address))), memory,
        List.replicate views.length (seen memory address)) := by
  induction views with
  | nil => rfl
  | cons first rest inductionHypothesis =>
    have read : octets address memory =
      (.value (memory.texts address), memory, [seen memory address]) := rfl
    rw [looks, Traced.bind_of_value read, Traced.bind_of_value inductionHypothesis,
      Traced.pure_apply, List.append_nil]
    rfl

theorem part_apply (ending : StringEnd) :
    part address ending memory =
      (ending.outcome (readOwned (memory.texts address)), memory,
        List.replicate ending.reads (seen memory address)) := by
  cases ending with
  | dropped => rfl
  | unwound reason => rfl
  | taken =>
    refine (Traced.bind_pure_apply (strictText address) some memory).trans ?_
    rw [strictText_apply]
    cases read : readOwned (memory.texts address) <;> rfl

/-- A string in the host's hands is read by every look and where it becomes a text, and then given
back. -/
theorem holding_apply (free : Address → TransitMemory Value State → TransitMemory Value State)
    (views : List StringLook) (ending : StringEnd) :
    holding free address views ending memory =
      ((ending.outcome (readOwned (memory.texts address))).map
          (views.map (StringLook.view (memory.texts address)), ·),
        free address memory,
        List.replicate (views.length + ending.reads) (seen memory address) ++
          [givenBack memory address]) := by
  have parted := part_apply memory address ending
  have body : used address views ending memory =
      ((ending.outcome (readOwned (memory.texts address))).map
          (views.map (StringLook.view (memory.texts address)), ·), memory,
        List.replicate (views.length + ending.reads) (seen memory address)) := by
    rw [used, Traced.bind_of_value (looks_apply memory address views), Traced.bind_pure_apply,
      parted, List.replicate_append_replicate]
  rw [holding, Traced.guarded, body]
  rfl

end Reader

namespace TransitMemory

variable {Value State : Type} (memory : TransitMemory Value State) (address : Address)

/-- A native string is read in one way and an owned one is given back once. What is read are the
octets before the first zero; the three readers agree on them, with a text or with a fault. One that
belongs to the host is given back at the end of its life, whatever it was used for and however it
ended, and one that is only copied is not. -/
theorem strings_read_alike_and_owned_given_back_once (operation field : String)
    (free : Address → TransitMemory Value State → TransitMemory Value State) :
    let octets := memory.texts address
    let front := octets.untilZero
    let seen := Reader.seen memory address
    let givenBack := Reader.givenBack memory address
    (0 ∉ front ∧ (octets = front ∨ ∃ behind, octets = front ++ 0 :: behind)) ∧
      ∃ owned copied lossy, ReadAlike field front owned copied lossy ∧
        Reader.takenText operation free (some address) memory =
          (.ofExcept owned, free address memory, [seen, givenBack]) ∧
        Reader.copiedField field (some address) memory = (.ofExcept copied, memory, [seen]) ∧
        Reader.lossyText (some address) memory = (.value lossy, memory, [seen]) ∧
        ∀ views ending, Reader.holding free address views ending memory =
          ((ending.outcome owned).map (views.map (StringLook.shows front owned), ·),
            free address memory,
            List.replicate (views.length + ending.reads) seen ++ [givenBack]) := by
  intro octets front seen givenBack
  have shows : StringLook.view octets = StringLook.shows front (readOwned octets) := by
    funext look
    cases look <;> rfl
  refine ⟨⟨octets.zero_not_mem_untilZero, octets.eq_untilZero_append⟩, readOwned octets,
    copyField (some octets) field, copyLossy (some octets), readAlike field octets, rfl, rfl, rfl,
    fun views ending => ?_⟩
  rw [← shows]
  exact Reader.holding_apply memory address free views ending

end TransitMemory

/-! ### The strings that the host takes over -/

namespace Surroundings

variable {Native Value : Type} (around : Surroundings Native)

/-- Gives a string back to the library. -/
def givingTextBack (library : LibraryId) (address : Address)
    (memory : TransitMemory Value (Host Native)) : TransitMemory Value (Host Native) :=
  { memory with rest := around.release library (.text (memory.texts address)) memory.rest }

/-- Every owned string is taken over like this. -/
theorem takeText_eq_takenText (library : LibraryId) (operation : String) (raw : Option Address)
    (memory : TransitMemory Value (Host Native)) :
    let reading := Reader.takenText operation (around.givingTextBack library) raw memory
    around.takeText library (memory.string raw) operation memory.rest =
      (reading.1, reading.2.1.rest) := by
  cases raw with
  | none => rfl
  | some address => rfl

end Surroundings

/-- Every field is copied like this. -/
theorem Reader.copiedField_outcome {Value State : Type} (field : String) (raw : Option Address)
    (memory : TransitMemory Value State) :
    (Reader.copiedField field raw memory).1 = .ofExcept (copyField (memory.string raw) field) := by
  cases raw with
  | none => rfl
  | some address => rfl

end WalletBridge
