/-
This file holds what is known of machine words: how many values those have that bound amounts,
indices and counts, and checked arithmetic on words. An operation has a result exactly when the
exact result fits in the word, and otherwise the program stops with a fixed sentence. The sum of a
list of natural numbers is what such sums are measured against.
-/

namespace WalletBridge

/-! ### How many values words have -/

/-- How many values a word of 16 bits has. -/
def values16 : Nat := 0x10000

/-- How many values a word of 31 bits has. -/
def values31 : Nat := 0x80000000

/-- How many values a word of 32 bits has. -/
def values32 : Nat := 0x100000000

/-- How many values a word of 63 bits has. -/
def values63 : Nat := 0x8000000000000000

/-- How many values a word of 64 bits has. -/
def values64 : Nat := 0x10000000000000000

/-! ### Exact sums -/

/-- The sum of a list. -/
def total : List Nat → Nat
  | [] => 0
  | first :: rest => first + total rest

theorem total_append (left right : List Nat) :
    total (left ++ right) = total left + total right := by
  induction left with
  | nil => simp [total]
  | cons first rest inductionHypothesis => simp [total, inductionHypothesis, Nat.add_assoc]

/-! ### Checked arithmetic -/

/-- The program stops with a message. -/
structure Halt where
  message : String
  deriving Repr, DecidableEq

namespace Word

/-- The halt of an addition whose sum does not fit. -/
def addOverflow : Halt := ⟨"attempt to add with overflow"⟩

/-- The halt of a subtraction whose difference does not fit. -/
def subtractOverflow : Halt := ⟨"attempt to subtract with overflow"⟩

/-- The sum of two words, when it fits in 64 bits. -/
def add (left right : UInt64) : Except Halt UInt64 :=
  if left.toNat + right.toNat < values64 then .ok (left + right) else .error addOverflow

/-- The difference of two words, and zero where it would be less. -/
def saturatingSubtract (left right : UInt64) : UInt64 := if right ≤ left then left - right else 0

theorem toNat_saturatingSubtract (left right : UInt64) :
    (saturatingSubtract left right).toNat = left.toNat - right.toNat := by
  unfold saturatingSubtract
  split
  · rename_i within
    exact UInt64.toNat_sub_of_le _ _ within
  · rename_i beyond
    have less := UInt64.lt_iff_toNat_lt.mp (UInt64.not_le.mp beyond)
    exact (Nat.sub_eq_zero_of_le (Nat.le_of_lt less)).symm

/-- The sum of words from left to right, when no partial sum leaves 64 bits. -/
def sum (first : UInt64) (others : List UInt64) : Except Halt UInt64 :=
  others.foldlM add first

/-- A word of 64 bits read as a signed word with the same bits. -/
def toSigned (value : UInt64) : Int := Int.bmod value.toNat values64

/-- The difference of two signed words of 64 bits, when it fits in one. -/
def subtractSigned (left right : Int) : Except Halt Int :=
  let difference := left - right
  if -(values63 : Int) ≤ difference ∧ difference < values63 then .ok difference
  else .error subtractOverflow

end Word

end WalletBridge
