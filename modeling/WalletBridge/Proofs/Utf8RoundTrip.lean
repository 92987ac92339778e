/-
This file proves that a text survives its way through octets. The scan of a text's octets finds the
text's characters again, each as one piece, so strict reading and lossy reading both give the text
back. A text that is handed out as a terminated string loses its zero characters to the replacement
character and nothing else: no octet of it is zero, and what a reader sees up to the end is the text
with these characters replaced.
-/

import Mathlib.Data.List.Basic
import WalletBridge.Native.Heap
import WalletBridge.Host.Text

namespace WalletBridge

namespace Utf8

/-! ### Marked octets -/

/-- The octet that carries the six low bits of a number after the first octet of a character. -/
def trailing (bits : Nat) : UInt8 := UInt8.ofNat (bits % 64 + 128)

theorem toNat_trailing (bits : Nat) : (trailing bits).toNat = bits % 64 + 128 := by
  rw [trailing, UInt8.toNat_ofNat']
  omega

theorem isContinuation_trailing (bits : Nat) : isContinuation (trailing bits) = true := by
  have marked : ∀ low : Fin 64, isContinuation (UInt8.ofNat (low.val + 128)) = true := by decide
  exact marked ⟨bits % 64, Nat.mod_lt bits (by decide)⟩

/-- The low bits of an octet, behind a mask that takes the rest by a size. -/
theorem toNat_and_mask (octet mask : UInt8) {size : Nat}
    (masks : ∀ number, number &&& mask.toNat = number % size) :
    (octet &&& mask).toNat = octet.toNat % size := by
  rw [UInt8.toNat_and, masks]

theorem payload_trailing (bits : Nat) : payload (trailing bits) = bits % 64 := by
  have masks : ∀ number, number &&& (0x3F : UInt8).toNat = number % 64 := fun number =>
    Nat.and_two_pow_sub_one_eq_mod number 6
  rw [payload, toNat_and_mask _ _ masks, toNat_trailing]
  omega

/-- The width that a first octet announces, by the range it lies in. -/
theorem leadWidth_eq (lead : UInt8) :
    leadWidth lead =
      if lead.toNat < 128 then 1 else if lead.toNat < 194 then 0 else if lead.toNat < 224 then 2
      else if lead.toNat < 240 then 3 else if lead.toNat < 245 then 4 else 0 := by
  simp only [leadWidth, UInt8.lt_iff_toNat_lt]
  rfl

/-- A second octet passes where it makes no overlong form, no surrogate and no number beyond the
last code point. -/
theorem admitsSecond_trailing {lead : UInt8} {bits : Nat}
    (notOverlongThree : lead.toNat = 224 → 32 ≤ bits % 64)
    (noSurrogate : lead.toNat = 237 → bits % 64 < 32)
    (notOverlongFour : lead.toNat = 240 → 16 ≤ bits % 64)
    (inRange : lead.toNat = 244 → bits % 64 < 16) :
    admitsSecond lead (trailing bits) = true := by
  have octet := toNat_trailing bits
  simp only [admitsSecond, isContinuation_trailing, Bool.true_and, Bool.and_eq_true,
    Bool.or_eq_true, bne_iff_ne, ne_eq, decide_eq_true_eq, ge_iff_le, UInt8.le_iff_toNat_le,
    UInt8.lt_iff_toNat_lt, ← UInt8.toNat_inj, octet]
  simp only [UInt8.reduceToNat]
  omega

/-! ### Characters by their width -/

theorem toNat_marked {bits mark : Nat} (fits : bits + mark < 256) :
    (UInt8.ofNat (bits + mark)).toNat = bits + mark := by
  rw [UInt8.toNat_ofNat']
  omega

theorem next_one {code : Nat} (ascii : code < 128) (rest : Bytes) :
    next (UInt8.ofNat code) rest = .scalar (Char.ofNat code) 1 := by
  have first : (UInt8.ofNat code).toNat = code := @toNat_marked code 0 (by omega)
  have width : leadWidth (UInt8.ofNat code) = 1 := by
    rw [leadWidth_eq, first, if_pos ascii]
  simp only [next, width, first]

theorem next_two {top low : Nat} (notOverlong : 2 ≤ top) (fits : top < 32) (rest : Bytes) :
    next (UInt8.ofNat (top + 192)) (trailing low :: rest) =
      .scalar (Char.ofNat (top * 64 + low % 64)) 2 := by
  have first : (UInt8.ofNat (top + 192)).toNat = top + 192 := toNat_marked (by omega)
  have width : leadWidth (UInt8.ofNat (top + 192)) = 2 := by
    rw [leadWidth_eq, first, if_neg (by omega), if_neg (by omega), if_pos (by omega)]
  have bits : (UInt8.ofNat (top + 192) &&& 0x1F).toNat = top := by
    have masks : ∀ number, number &&& (0x1F : UInt8).toNat = number % 32 := fun number =>
      Nat.and_two_pow_sub_one_eq_mod number 5
    rw [toNat_and_mask _ _ masks, first]
    omega
  simp only [next, width, isContinuation_trailing, if_true, payload_trailing, bits]

theorem next_three {top middle low : Nat} (fits : top < 16)
    (notOverlong : top = 0 → 32 ≤ middle % 64) (noSurrogate : top = 13 → middle % 64 < 32)
    (rest : Bytes) :
    next (UInt8.ofNat (top + 224)) (trailing middle :: trailing low :: rest) =
      .scalar (Char.ofNat (top * 4096 + middle % 64 * 64 + low % 64)) 3 := by
  have first : (UInt8.ofNat (top + 224)).toNat = top + 224 := toNat_marked (by omega)
  have width : leadWidth (UInt8.ofNat (top + 224)) = 3 := by
    rw [leadWidth_eq, first, if_neg (by omega), if_neg (by omega), if_neg (by omega),
      if_pos (by omega)]
  have admitted : admitsSecond (UInt8.ofNat (top + 224)) (trailing middle) = true := by
    refine admitsSecond_trailing ?_ ?_ ?_ ?_ <;> rw [first] <;> omega
  have bits : (UInt8.ofNat (top + 224) &&& 0x0F).toNat = top := by
    have masks : ∀ number, number &&& (0x0F : UInt8).toNat = number % 16 := fun number =>
      Nat.and_two_pow_sub_one_eq_mod number 4
    rw [toNat_and_mask _ _ masks, first]
    omega
  simp only [next, width, admitted, isContinuation_trailing, if_true, payload_trailing, bits]

theorem next_four {top upper middle low : Nat} (fits : top < 5)
    (notOverlong : top = 0 → 16 ≤ upper % 64) (inRange : top = 4 → upper % 64 < 16)
    (rest : Bytes) :
    next (UInt8.ofNat (top + 240)) (trailing upper :: trailing middle :: trailing low :: rest) =
      .scalar (Char.ofNat (top * 262144 + upper % 64 * 4096 + middle % 64 * 64 + low % 64)) 4 := by
  have first : (UInt8.ofNat (top + 240)).toNat = top + 240 := toNat_marked (by omega)
  have width : leadWidth (UInt8.ofNat (top + 240)) = 4 := by
    rw [leadWidth_eq, first, if_neg (by omega), if_neg (by omega), if_neg (by omega),
      if_neg (by omega), if_pos (by omega)]
  have admitted : admitsSecond (UInt8.ofNat (top + 240)) (trailing upper) = true := by
    refine admitsSecond_trailing ?_ ?_ ?_ ?_ <;> rw [first] <;> omega
  have bits : (UInt8.ofNat (top + 240) &&& 0x07).toNat = top := by
    have masks : ∀ number, number &&& (0x07 : UInt8).toNat = number % 8 := fun number =>
      Nat.and_two_pow_sub_one_eq_mod number 3
    rw [toNat_and_mask _ _ masks, first]
    omega
  simp only [next, width, admitted, isContinuation_trailing, if_true, payload_trailing, bits]

theorem encodeChar_eq (character : Char) :
    let code := character.toNat
    encodeChar character =
      if code ≤ 127 then [UInt8.ofNat code]
      else if code ≤ 2047 then [UInt8.ofNat (code / 64 % 32 + 192), trailing code]
      else if code ≤ 65535 then
        [UInt8.ofNat (code / 4096 % 16 + 224), trailing (code / 64), trailing code]
      else
        [UInt8.ofNat (code / 262144 % 8 + 240), trailing (code / 4096), trailing (code / 64),
          trailing code] := rfl

/-- The octets of a character start with one piece, which is the character and covers them all. -/
theorem next_encodeChar (character : Char) (rest : Bytes) :
    ∃ lead others, encodeChar character = lead :: others ∧
      next lead (others ++ rest) = .scalar character (lead :: others).length := by
  have valid : character.toNat < 0xD800 ∨ 0xDFFF < character.toNat ∧ character.toNat < 0x110000 :=
    character.valid
  have number := Char.ofNat_toNat character
  rw [encodeChar_eq]
  generalize character.toNat = code at valid number
  -- Every width puts the number together again from the bits of its octets; that no surrogate and
  -- no overlong form comes out is what the second octet is checked for.
  by_cases one : code ≤ 127
  · refine ⟨_, _, if_pos one, ?_⟩
    rw [next_one (by omega), number]
    rfl
  rw [if_neg one]
  by_cases two : code ≤ 2047
  · have total : code / 64 % 32 * 64 + code % 64 = code := by omega
    refine ⟨_, _, if_pos two, ?_⟩
    rw [List.cons_append, next_two (by omega) (by omega), total, number]
    rfl
  rw [if_neg two]
  by_cases three : code ≤ 65535
  · have total : code / 4096 % 16 * 4096 + code / 64 % 64 * 64 + code % 64 = code := by omega
    refine ⟨_, _, if_pos three, ?_⟩
    rw [List.cons_append, List.cons_append, next_three (by omega) (by omega) (by omega), total,
      number]
    rfl
  rw [if_neg three]
  have total : code / 262144 % 8 * 262144 + code / 4096 % 64 * 4096 + code / 64 % 64 * 64 +
      code % 64 = code := by omega
  refine ⟨_, _, rfl, ?_⟩
  rw [List.cons_append, List.cons_append, List.cons_append,
    next_four (by omega) (by omega) (by omega), total, number]
  rfl

/-! ### Texts -/

theorem scan_append (front rest : Bytes) : scan front.length (front ++ rest) = scan 0 rest := by
  induction front with
  | nil => rfl
  | cons octet front inductionHypothesis => exact inductionHypothesis

theorem encodeChars_cons (character : Char) (characters : List Char) :
    encodeChars (character :: characters) = encodeChar character ++ encodeChars characters := rfl

/-- The pieces of the octets of some characters. -/
def scalars (characters : List Char) : List Piece :=
  characters.map fun character => .scalar character (encodeChar character).length

/-- The scan finds the characters that some octets begin with, and goes on behind them. -/
theorem pieces_encodeChars_append (characters : List Char) (rest : Bytes) :
    pieces (encodeChars characters ++ rest) = scalars characters ++ pieces rest := by
  induction characters with
  | nil => rfl
  | cons character characters inductionHypothesis =>
    obtain ⟨lead, others, octets, piece⟩ :=
      next_encodeChar character (encodeChars characters ++ rest)
    have split : encodeChars (character :: characters) ++ rest =
        lead :: (others ++ (encodeChars characters ++ rest)) := by
      rw [encodeChars_cons, octets, List.append_assoc, List.cons_append]
    have head : scalars (character :: characters) =
        .scalar character (lead :: others).length :: scalars characters := by
      rw [scalars, List.map_cons, octets]
      rfl
    rw [split, head, List.cons_append, ← inductionHypothesis, pieces, scan, piece]
    exact congrArg _ (scan_append others (encodeChars characters ++ rest))

theorem pieces_encodeChars (characters : List Char) :
    pieces (encodeChars characters) = scalars characters := by
  have whole := pieces_encodeChars_append characters []
  rw [List.append_nil] at whole
  exact whole.trans (List.append_nil _)

/-- Strict reading takes the characters over, and goes on behind them. -/
theorem charsFrom_scalars_append (characters : List Char) (more : List Piece) (start : Nat) :
    charsFrom start (scalars characters ++ more) =
      (charsFrom (start + (encodeChars characters).length) more).map (characters ++ ·) := by
  induction characters generalizing start with
  | nil =>
    show charsFrom start more = (charsFrom start more).map _
    cases charsFrom start more <;> rfl
  | cons character characters inductionHypothesis =>
    have longer : start + (encodeChars (character :: characters)).length =
        start + (encodeChar character).length + (encodeChars characters).length := by
      rw [encodeChars_cons, List.length_append, ← Nat.add_assoc]
    show charsFrom start (.scalar character (encodeChar character).length ::
      (scalars characters ++ more)) = _
    rw [charsFrom, inductionHypothesis, longer]
    cases charsFrom _ more <;> rfl

/-- Lossy reading takes the characters over. -/
theorem map_toChar_scalars (characters : List Char) :
    (scalars characters).map Piece.toChar = characters := by
  rw [scalars, List.map_map]
  exact List.map_id characters

/-- Strict reading gives a text back. -/
theorem decode_encode (text : String) : decode (encode text) = .ok text := by
  have read := charsFrom_scalars_append text.toList [] 0
  rw [List.append_nil] at read
  rw [decode, encode, pieces_encodeChars, read]
  show Except.ok (String.ofList (text.toList ++ [])) = _
  rw [List.append_nil, String.ofList_toList]

/-- Lossy reading gives a text back. -/
theorem decodeLossy_encode (text : String) : decodeLossy (encode text) = text := by
  rw [decodeLossy, encode, pieces_encodeChars, map_toChar_scalars, String.ofList_toList]

/-! ### Terminated strings -/

theorem marked_ne_zero {bits mark : Nat} (fits : bits + mark < 256) (positive : 0 < bits + mark) :
    UInt8.ofNat (bits + mark) ≠ 0 := by
  intro zero
  have number := toNat_marked fits
  rw [zero, UInt8.toNat_zero] at number
  omega

theorem trailing_ne_zero (bits : Nat) : trailing bits ≠ 0 :=
  marked_ne_zero (by omega) (by omega)

/-- Only the zero character has a zero octet. -/
theorem ne_zero_of_mem_encodeChar {character : Char} (nonzero : character ≠ '\x00')
    {octet : UInt8} (member : octet ∈ encodeChar character) : octet ≠ 0 := by
  have positive : 0 < character.toNat := by
    refine Nat.pos_of_ne_zero fun none => nonzero ?_
    rw [← Char.ofNat_toNat character, none]
  rw [encodeChar_eq] at member
  generalize character.toNat = code at positive member
  split at member
  · rw [List.mem_singleton.mp member]
    exact @marked_ne_zero code 0 (by omega) positive
  split at member
  · simp only [List.mem_cons, List.not_mem_nil, or_false] at member
    rcases member with rfl | rfl
    · exact marked_ne_zero (by omega) (by omega)
    · exact trailing_ne_zero _
  split at member
  · simp only [List.mem_cons, List.not_mem_nil, or_false] at member
    rcases member with rfl | rfl | rfl
    · exact marked_ne_zero (by omega) (by omega)
    · exact trailing_ne_zero _
    · exact trailing_ne_zero _
  · simp only [List.mem_cons, List.not_mem_nil, or_false] at member
    rcases member with rfl | rfl | rfl | rfl
    · exact marked_ne_zero (by omega) (by omega)
    · exact trailing_ne_zero _
    · exact trailing_ne_zero _
    · exact trailing_ne_zero _

/-- No octet of a text without the zero character ends a terminated string. -/
theorem untilZero_encode_of_notMem {text : String} (zeroFree : '\x00' ∉ text.toList) :
    (encode text).untilZero = encode text := by
  refine Bytes.untilZero_of_forall_ne fun octet member => ?_
  rw [encode, encodeChars, List.mem_flatMap] at member
  obtain ⟨character, among, within⟩ := member
  exact ne_zero_of_mem_encodeChar (fun zero => zeroFree (zero ▸ among)) within

/-- A character as a terminated string can hold it. -/
def withoutZero (character : Char) : Char :=
  if character = '\x00' then replacement else character

theorem withoutZero_ne (character : Char) : withoutZero character ≠ '\x00' := by
  unfold withoutZero
  split
  · decide
  · assumption

/-- A text with the replacement character in the place of each zero character. -/
def withoutZeros (text : String) : String := String.ofList (text.toList.map withoutZero)

example : withoutZeros "bad\x00checksum" = "bad\uFFFDchecksum" := by decide

theorem zero_notMem_withoutZeros (text : String) : '\x00' ∉ (withoutZeros text).toList := by
  rw [withoutZeros, String.toList_ofList]
  intro member
  obtain ⟨original, -, zero⟩ := List.mem_map.mp member
  exact withoutZero_ne original zero

theorem untilZero_encode_withoutZeros (text : String) :
    (encode (withoutZeros text)).untilZero = encode (withoutZeros text) :=
  untilZero_encode_of_notMem (zero_notMem_withoutZeros text)

/-- Replacing the zero octets of a character is replacing the zero character. -/
theorem flatMap_encodeChar (character : Char) :
    ((encodeChar character).flatMap fun octet =>
      if octet = 0 then [0xEF, 0xBF, 0xBD] else [octet]) = encodeChar (withoutZero character) := by
  unfold withoutZero
  split
  next zero =>
    subst zero
    decide
  next nonzero =>
    have kept : ∀ octet ∈ encodeChar character,
        (if octet = 0 then [0xEF, 0xBF, 0xBD] else [octet]) = [octet] :=
      fun octet member => if_neg (ne_zero_of_mem_encodeChar nonzero member)
    rw [List.flatMap_congr kept, List.flatMap_singleton']

end Utf8

/-- What is handed out for a text is the text without its zero characters. -/
theorem Body.ownedOctets_eq (text : String) :
    Body.ownedOctets text = Utf8.encode (Utf8.withoutZeros text) := by
  rw [Body.ownedOctets, Utf8.encode, Utf8.encode, Utf8.withoutZeros, String.toList_ofList,
    Utf8.encodeChars, Utf8.encodeChars, List.flatMap_assoc, List.flatMap_map]
  exact List.flatMap_congr fun character _ => Utf8.flatMap_encodeChar character

/-- A text that is handed out is read back without its zero characters. -/
theorem copyLossy_ownedOctets (text : String) :
    copyLossy (some (Body.ownedOctets text)) = Utf8.withoutZeros text := by
  rw [copyLossy, Body.ownedOctets_eq, Utf8.untilZero_encode_withoutZeros, Utf8.decodeLossy_encode]

end WalletBridge
