/-
This file proves that strict reading accepts nothing but the octets of texts. That a text's octets
are read back as the text is the easy half; here it is shown that octets in which strict reading
finds characters are spelled exactly like these characters, so that no octets are read as a text
that would be written otherwise.

The point where this could fail is the second octet of a character: without its check the same
character would have several spellings, and numbers that are no characters would be read as some.
-/

import WalletBridge.Proofs.Utf8RoundTrip

namespace WalletBridge.Utf8

/-! ### Octets behind the first -/

theorem toNat_of_isContinuation {octet : UInt8} (continues : isContinuation octet = true) :
    128 ≤ octet.toNat ∧ octet.toNat < 192 := by
  have range : ∀ low : Fin 256, isContinuation (UInt8.ofNat low.val) = true →
      128 ≤ low.val ∧ low.val < 192 := by decide +kernel
  refine range ⟨octet.toNat, octet.toNat_lt⟩ ?_
  rw [UInt8.ofNat_toNat]
  exact continues

theorem payload_eq (octet : UInt8) : payload octet = octet.toNat % 64 :=
  toNat_and_mask octet 0x3F fun number => Nat.and_two_pow_sub_one_eq_mod number 6

/-- An octet that continues a character carries its six low bits and nothing else. -/
theorem trailing_payload {octet : UInt8} (continues : isContinuation octet = true) :
    trailing (payload octet) = octet := by
  obtain ⟨least, most⟩ := toNat_of_isContinuation continues
  have same : octet.toNat % 64 % 64 + 128 = octet.toNat := by omega
  rw [trailing, payload_eq, same, UInt8.ofNat_toNat]

theorem payload_lt (octet : UInt8) : payload octet < 64 := by
  rw [payload_eq]
  exact Nat.mod_lt _ (by decide)

/-- What the second octet is checked for: no overlong form, no surrogate, nothing beyond the last
code point. -/
theorem admitsSecond_bounds {lead second : UInt8} (admitted : admitsSecond lead second = true) :
    isContinuation second = true ∧ (lead.toNat = 224 → 32 ≤ payload second) ∧
      (lead.toNat = 237 → payload second < 32) ∧ (lead.toNat = 240 → 16 ≤ payload second) ∧
      (lead.toNat = 244 → payload second < 16) := by
  simp only [admitsSecond, Bool.and_eq_true, Bool.or_eq_true, bne_iff_ne, ne_eq,
    decide_eq_true_eq, ge_iff_le, UInt8.le_iff_toNat_le, UInt8.lt_iff_toNat_lt,
    ← UInt8.toNat_inj] at admitted
  obtain ⟨⟨⟨⟨continues, three⟩, surrogate⟩, four⟩, last⟩ := admitted
  have range := toNat_of_isContinuation continues
  simp only [UInt8.reduceToNat] at three surrogate four last
  rw [payload_eq]
  exact ⟨continues, by omega, by omega, by omega, by omega⟩

/-! ### Characters by their octets -/

theorem toNat_ofNat {code : Nat} (valid : code.isValidChar) : (Char.ofNat code).toNat = code := by
  rw [Char.ofNat, dif_pos valid]
  rfl

/-- The octets of a character whose number is known. -/
theorem encodeChar_ofNat {code : Nat} (valid : code.isValidChar) :
    encodeChar (Char.ofNat code) =
      if code ≤ 127 then [UInt8.ofNat code]
      else if code ≤ 2047 then [UInt8.ofNat (code / 64 % 32 + 192), trailing code]
      else if code ≤ 65535 then
        [UInt8.ofNat (code / 4096 % 16 + 224), trailing (code / 64), trailing code]
      else
        [UInt8.ofNat (code / 262144 % 8 + 240), trailing (code / 4096), trailing (code / 64),
          trailing code] := by
  have octets := encodeChar_eq (Char.ofNat code)
  rw [toNat_ofNat valid] at octets
  exact octets

/-- A continuation octet is the one that the lowest six bits of a number are spelled as. -/
theorem trailing_of_payload {octet : UInt8} (continues : isContinuation octet = true) {bits : Nat}
    (same : bits % 64 = payload octet % 64) : trailing bits = octet := by
  rw [← trailing_payload continues, trailing, trailing, same]

theorem encodeChar_two {lead second : UInt8} (least : 194 ≤ lead.toNat) (most : lead.toNat < 224)
    (continues : isContinuation second = true) :
    encodeChar (Char.ofNat ((lead &&& 0x1F).toNat * 64 + payload second)) = [lead, second] := by
  have bits : (lead &&& 0x1F).toNat = lead.toNat % 32 :=
    toNat_and_mask lead 0x1F fun number => Nat.and_two_pow_sub_one_eq_mod number 5
  have low := payload_lt second
  rw [bits, encodeChar_ofNat (.inl (by omega)), if_neg (by omega), if_pos (by omega),
    trailing_of_payload continues (by omega)]
  have top : (lead.toNat % 32 * 64 + payload second) / 64 % 32 + 192 = lead.toNat := by omega
  rw [top, UInt8.ofNat_toNat]

theorem encodeChar_three {lead second third : UInt8} (least : 224 ≤ lead.toNat)
    (most : lead.toNat < 240) (admitted : admitsSecond lead second = true)
    (continues : isContinuation third = true) :
    encodeChar (Char.ofNat ((lead &&& 0x0F).toNat * 4096 + payload second * 64 + payload third)) =
      [lead, second, third] := by
  have bits : (lead &&& 0x0F).toNat = lead.toNat % 16 :=
    toNat_and_mask lead 0x0F fun number => Nat.and_two_pow_sub_one_eq_mod number 4
  obtain ⟨goesOn, notOverlong, noSurrogate, -, -⟩ := admitsSecond_bounds admitted
  have middle := payload_lt second
  have low := payload_lt third
  have valid : (lead.toNat % 16 * 4096 + payload second * 64 + payload third).isValidChar := by
    unfold Nat.isValidChar
    omega
  rw [bits, encodeChar_ofNat valid, if_neg (by omega), if_neg (by omega), if_pos (by omega),
    trailing_of_payload goesOn (by omega),
    trailing_of_payload continues (by omega)]
  have top : (lead.toNat % 16 * 4096 + payload second * 64 + payload third) / 4096 % 16 + 224 =
      lead.toNat := by omega
  rw [top, UInt8.ofNat_toNat]

theorem encodeChar_four {lead second third fourth : UInt8} (least : 240 ≤ lead.toNat)
    (most : lead.toNat < 245) (admitted : admitsSecond lead second = true)
    (continues : isContinuation third = true) (ends : isContinuation fourth = true) :
    encodeChar (Char.ofNat ((lead &&& 0x07).toNat * 262144 + payload second * 4096 +
      payload third * 64 + payload fourth)) = [lead, second, third, fourth] := by
  have bits : (lead &&& 0x07).toNat = lead.toNat % 8 :=
    toNat_and_mask lead 0x07 fun number => Nat.and_two_pow_sub_one_eq_mod number 3
  obtain ⟨goesOn, -, -, notOverlong, inRange⟩ := admitsSecond_bounds admitted
  have upper := payload_lt second
  have middle := payload_lt third
  have low := payload_lt fourth
  have valid : (lead.toNat % 8 * 262144 + payload second * 4096 + payload third * 64 +
      payload fourth).isValidChar := by
    unfold Nat.isValidChar
    omega
  rw [bits, encodeChar_ofNat valid, if_neg (by omega), if_neg (by omega), if_neg (by omega),
    trailing_of_payload goesOn (by omega),
    trailing_of_payload continues (by omega),
    trailing_of_payload ends (by omega)]
  have top : (lead.toNat % 8 * 262144 + payload second * 4096 + payload third * 64 +
      payload fourth) / 262144 % 8 + 240 = lead.toNat := by omega
  rw [top, UInt8.ofNat_toNat]

/-- The range that a first octet lies in, by the width that it announces. -/
theorem range_of_leadWidth (lead : UInt8) :
    (leadWidth lead = 1 → lead.toNat < 128) ∧
      (leadWidth lead = 2 → 194 ≤ lead.toNat ∧ lead.toNat < 224) ∧
      (leadWidth lead = 3 → 224 ≤ lead.toNat ∧ lead.toNat < 240) ∧
      (leadWidth lead = 4 → 240 ≤ lead.toNat ∧ lead.toNat < 245) := by
  refine ⟨?_, ?_, ?_, ?_⟩ <;> intro width <;> rw [leadWidth_eq] at width <;>
    split_ifs at width <;> omega

/-- A piece that is a character covers exactly the octets of this character. -/
theorem octets_of_next {lead : UInt8} {rest : Bytes} {value : Char} {width : Nat}
    (piece : next lead rest = .scalar value width) :
    ∃ others back, rest = others ++ back ∧ encodeChar value = lead :: others ∧
      width = others.length + 1 := by
  obtain ⟨oneRange, twoRange, threeRange, fourRange⟩ := range_of_leadWidth lead
  unfold next at piece
  split at piece
  next one =>
    have ascii := oneRange one
    cases piece
    refine ⟨[], rest, rfl, ?_, rfl⟩
    rw [encodeChar_ofNat (.inl (by omega)), if_pos (by omega), UInt8.ofNat_toNat]
  next two =>
    have range := twoRange two
    split at piece
    · cases piece
    next second back =>
      split at piece
      next continues =>
        cases piece
        exact ⟨[second], back, rfl, encodeChar_two range.1 range.2 continues, rfl⟩
      next => cases piece
  next three =>
    have range := threeRange three
    split at piece
    · cases piece
    next second others =>
      split at piece
      next admitted =>
        split at piece
        · cases piece
        next third back =>
          split at piece
          next continues =>
            cases piece
            exact ⟨[second, third], back, rfl,
              encodeChar_three range.1 range.2 admitted continues, rfl⟩
          next => cases piece
      next => cases piece
  next four =>
    have range := fourRange four
    split at piece
    · cases piece
    next second others =>
      split at piece
      next admitted =>
        split at piece
        · cases piece
        next third more =>
          split at piece
          next continues =>
            split at piece
            · cases piece
            next fourth back =>
              split at piece
              next ends =>
                cases piece
                exact ⟨[second, third, fourth], back, rfl,
                  encodeChar_four range.1 range.2 admitted continues ends, rfl⟩
              next => cases piece
          next => cases piece
      next => cases piece
  next => cases piece

/-! ### Texts -/

/-- Every byte string begins with characters, as many as there are. -/
theorem exists_front (octets : Bytes) :
    ∃ characters rest, octets = encodeChars characters ++ rest ∧
      ∀ value width more, pieces rest ≠ .scalar value width :: more := by
  -- The induction is on the number of octets: what is left behind a character is shorter.
  induction length : octets.length using Nat.strongRecOn generalizing octets with
  | ind count inductionHypothesis =>
    cases octets with
    | nil => exact ⟨[], [], rfl, fun _ _ _ => nofun⟩
    | cons lead rest =>
      have first : pieces (lead :: rest) =
          next lead rest :: scan ((next lead rest).width - 1) rest := rfl
      cases piece : next lead rest with
      | broken width => exact ⟨[], _, rfl, by rw [first, piece]; exact fun _ _ _ => nofun⟩
      | cutShort width => exact ⟨[], _, rfl, by rw [first, piece]; exact fun _ _ _ => nofun⟩
      | scalar value width =>
        obtain ⟨others, back, rfl, spelled, -⟩ := octets_of_next piece
        have shorter : back.length < count := by
          rw [← length, List.length_cons, List.length_append]
          omega
        obtain ⟨characters, left, rfl, last⟩ := inductionHypothesis _ shorter back rfl
        refine ⟨value :: characters, left, ?_, last⟩
        rw [encodeChars_cons, spelled, List.cons_append, List.cons_append, List.append_assoc]

/-- Octets that strict reading finds characters in are the octets of these characters. -/
theorem eq_encodeChars_of_charsFrom {octets : Bytes} {start : Nat} {characters : List Char}
    (read : charsFrom start (pieces octets) = .ok characters) :
    octets = encodeChars characters := by
  obtain ⟨front, rest, rfl, last⟩ := exists_front octets
  rw [pieces_encodeChars_append, charsFrom_scalars_append] at read
  cases rest with
  | nil =>
    cases read
    show encodeChars front ++ [] = encodeChars (front ++ [])
    rw [List.append_nil, List.append_nil]
  | cons lead back =>
    have first : pieces (lead :: back) =
        next lead back :: scan ((next lead back).width - 1) back := rfl
    rw [first] at read last
    cases piece : next lead back with
    | scalar value width => exact absurd (congrArg (· :: _) piece) (last value width _)
    | broken width => rw [piece] at read; cases read
    | cutShort width => rw [piece] at read; cases read

/-- Strict reading finds a text exactly in the octets of this text. -/
theorem decode_eq_ok_iff {octets : Bytes} {text : String} :
    decode octets = .ok text ↔ octets = encode text := by
  refine ⟨fun read => ?_, fun spelled => by rw [spelled, decode_encode]⟩
  rw [decode] at read
  cases ended : charsFrom 0 (pieces octets) with
  | error fault => rw [ended] at read; cases read
  | ok characters =>
    rw [ended] at read
    cases read
    rw [encode, String.toList_ofList, ← eq_encodeChars_of_charsFrom ended]

/-- Strict reading fails exactly on octets that spell no text. -/
theorem exists_decode_eq_error_iff {octets : Bytes} :
    (∃ fault, decode octets = .error fault) ↔ ∀ text, octets ≠ encode text := by
  cases read : decode octets with
  | ok text =>
    refine iff_of_false (fun ⟨fault, failed⟩ => by cases failed) fun none => ?_
    exact none text (decode_eq_ok_iff.mp read)
  | error fault =>
    refine iff_of_true ⟨fault, rfl⟩ fun text spelled => ?_
    rw [spelled, decode_encode] at read
    cases read

end WalletBridge.Utf8
