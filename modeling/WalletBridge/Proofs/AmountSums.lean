/-
This file finds out when the sums and differences of amounts are right. A sum of words is checked at
every step, and because amounts are not negative, a partial sum leaves the words only if the whole
sum does: the sums of a balance are exact or the program stops, for whatever amounts crossed the
boundary.

The difference of a transaction is another matter. Both amounts are read as signed words before they
are subtracted, and an amount in the upper half of the words turns negative by that. If both are in
the same half, the two turns cancel, and the difference is exact and always fits. If they are in
different halves the check is the wrong way round: the program stops when the difference would fit,
and when it does not fit there is a number all the same, which is off by the size of the words.
-/

import WalletBridge.Host.Facade

namespace WalletBridge

/-! ### Sums -/

namespace Word

/-- What an exact sum is: the number itself, or a halt if no word holds it. -/
def IsSum (exact : Nat) : Except Halt UInt64 → Prop
  | .ok value => value.toNat = exact
  | .error halt => halt = addOverflow ∧ values64 ≤ exact

theorem add_isSum (left right : UInt64) : IsSum (left.toNat + right.toNat) (add left right) := by
  rw [add]
  split
  · rename_i fits
    show (left + right).toNat = _
    rw [UInt64.toNat_add]
    exact Nat.mod_eq_of_lt fits
  · rename_i tooMuch
    exact ⟨rfl, Nat.le_of_not_lt tooMuch⟩

/-- A partial sum leaves the words only if the whole sum does. -/
theorem sum_isSum (first : UInt64) (others : List UInt64) :
    IsSum (first.toNat + WalletBridge.total (others.map UInt64.toNat)) (sum first others) := by
  induction others generalizing first with
  | nil => rfl
  | cons other rest inductionHypothesis =>
    have step := add_isSum first other
    rw [List.map_cons, WalletBridge.total, ← Nat.add_assoc]
    rcases added : add first other with halt | partialSum
    · rw [added] at step
      have stopped : sum first (other :: rest) = .error halt := by
        rw [sum, List.foldlM_cons, added]
        rfl
      rw [stopped]
      exact ⟨step.1, Nat.le_trans step.2 (Nat.le_add_right _ _)⟩
    · rw [added] at step
      have onward : sum first (other :: rest) = sum partialSum rest := by
        rw [sum, List.foldlM_cons, added]
        rfl
      rw [onward, ← show partialSum.toNat = _ from step]
      exact inductionHypothesis partialSum

end Word

namespace Balance

theorem total_isSum (balance : Balance) :
    Word.IsSum
      (balance.immature.toNat + balance.trustedPending.toNat + balance.untrustedPending.toNat +
        balance.confirmed.toNat) balance.total := by
  have exact := Word.sum_isSum balance.immature
    [balance.trustedPending, balance.untrustedPending, balance.confirmed]
  simp only [List.map_cons, List.map_nil, WalletBridge.total, ← Nat.add_assoc, Nat.add_zero]
    at exact
  exact exact

theorem trustedSpendable_isSum (balance : Balance) :
    Word.IsSum (balance.confirmed.toNat + balance.trustedPending.toNat)
      balance.trustedSpendable :=
  Word.add_isSum balance.confirmed balance.trustedPending

end Balance

/-! ### Differences -/

namespace Word

/-- Whether a signed word holds a number. -/
def FitsSigned (number : Int) : Prop := -(values63 : Int) ≤ number ∧ number < values63

instance (number : Int) : Decidable (FitsSigned number) := inferInstanceAs (Decidable (_ ∧ _))

/-- What an exact difference is: the number itself, or a halt if no signed word holds it. -/
def IsDifference (exact : Int) (result : Except Halt Int) : Prop :=
  result = if FitsSigned exact then .ok exact else .error subtractOverflow

/-- Whether two words lie in the same half of the words. -/
def SameHalf (left right : UInt64) : Prop := left.toNat < values63 ↔ right.toNat < values63

instance (left right : UInt64) : Decidable (SameHalf left right) :=
  inferInstanceAs (Decidable (_ ↔ _))

theorem toSigned_of_lt {value : UInt64} (low : value.toNat < values63) :
    toSigned value = value.toNat := by
  rw [toSigned]
  refine Int.bmod_eq_of_le ?_ ?_
  · omega
  · simp only [values63, values64] at *
    omega

theorem toSigned_of_le {value : UInt64} (high : values63 ≤ value.toNat) :
    toSigned value = value.toNat - values64 := by
  have bound : value.toNat < values64 := value.toNat_lt
  rw [toSigned, ← Int.sub_bmod_right]
  refine Int.bmod_eq_of_le ?_ ?_
  · simp only [values63, values64] at *
    omega
  · simp only [values64] at *
    omega

/-- The exact difference of two words. -/
def difference (left right : UInt64) : Int := (left.toNat : Int) - right.toNat

/-- In the same half the difference is exact, and it fits. -/
theorem subtractSigned_of_sameHalf {left right : UInt64} (same : SameHalf left right) :
    FitsSigned (difference left right) ∧
      subtractSigned (toSigned left) (toSigned right) = .ok (difference left right) := by
  have boundLeft : left.toNat < values64 := left.toNat_lt
  have boundRight : right.toNat < values64 := right.toNat_lt
  have fits : FitsSigned (difference left right) := by
    simp only [SameHalf, FitsSigned, difference, values63, values64] at *
    omega
  have read : toSigned left - toSigned right = difference left right := by
    by_cases low : left.toNat < values63
    · rw [toSigned_of_lt low, toSigned_of_lt (same.mp low), difference]
    · have high : ¬right.toNat < values63 := fun lowRight => low (same.mpr lowRight)
      rw [toSigned_of_le (Nat.le_of_not_lt low), toSigned_of_le (Nat.le_of_not_lt high),
        difference]
      omega
  refine ⟨fits, ?_⟩
  rw [subtractSigned, read]
  exact if_pos fits

/-- In different halves the two readings are apart by the exact difference and the size of the
words. -/
theorem toSigned_sub_of_not_sameHalf {left right : UInt64} (apart : ¬SameHalf left right) :
    toSigned left - toSigned right =
      if right.toNat < left.toNat then difference left right - values64
      else difference left right + values64 := by
  by_cases low : left.toNat < values63
  · have high : values63 ≤ right.toNat :=
      Nat.le_of_not_lt fun lowRight => apart ⟨fun _ => lowRight, fun _ => low⟩
    rw [toSigned_of_lt low, toSigned_of_le high, if_neg (by omega), difference]
    omega
  · have lowRight : right.toNat < values63 :=
      Nat.lt_of_not_le fun high =>
        apart ⟨fun isLow => absurd isLow low, fun isLow => absurd high (Nat.not_le.mpr isLow)⟩
    rw [toSigned_of_le (Nat.le_of_not_lt low), toSigned_of_lt lowRight, if_pos (by omega),
      difference]
    omega

/-- In different halves the check is the wrong way round. A difference that fits stops the program,
and one that does not fit comes out off by the size of the words. -/
theorem subtractSigned_of_not_sameHalf {left right : UInt64} (apart : ¬SameHalf left right) :
    subtractSigned (toSigned left) (toSigned right) =
      if FitsSigned (difference left right) then .error subtractOverflow
      else .ok (Int.bmod (difference left right) values64) := by
  have boundLeft : left.toNat < values64 := left.toNat_lt
  have boundRight : right.toNat < values64 := right.toNat_lt
  have read := toSigned_sub_of_not_sameHalf apart
  rw [subtractSigned]
  by_cases fits : FitsSigned (difference left right)
  · have leaves : ¬FitsSigned (toSigned left - toSigned right) := by
      rw [read]
      simp only [FitsSigned, difference, values63, values64] at *
      split <;> omega
    rw [if_pos fits]
    exact if_neg leaves
  · have stays : FitsSigned (toSigned left - toSigned right) := by
      rw [read]
      simp only [FitsSigned, difference, values63, values64] at *
      split <;> omega
    have wrapped : toSigned left - toSigned right = Int.bmod (difference left right) values64 := by
      have congruent : Int.bmod (toSigned left - toSigned right) values64 =
          Int.bmod (difference left right) values64 := by
        rw [toSigned, toSigned, Int.bmod_sub_bmod, Int.sub_bmod_bmod, difference]
      rw [← congruent]
      refine (Int.bmod_eq_of_le ?_ ?_).symm <;>
        simp only [FitsSigned, values63, values64] at * <;> omega
    rw [if_neg fits, ← wrapped]
    exact if_pos stays

/-- A difference of words that does not fit is not what comes out for it. -/
theorem bmod_difference_ne {left right : UInt64} (tooMuch : ¬FitsSigned (difference left right)) :
    Int.bmod (difference left right) values64 ≠ difference left right := by
  intro same
  have lower : -((values64 / 2 : Nat) : Int) ≤ Int.bmod (difference left right) values64 :=
    Int.le_bmod (by decide)
  have upper : Int.bmod (difference left right) values64 < ((values64 + 1) / 2 : Nat) :=
    Int.bmod_lt (by decide)
  rw [same] at lower upper
  exact tooMuch ⟨lower, upper⟩

end Word

/-! ### Amounts that crossed the boundary -/

/-- When a transaction crosses, its two amounts stay as they are. -/
theorem TransactionDetails.amounts_of_ofRaw {raw : RawTransaction} {details : TransactionDetails}
    (read : TransactionDetails.ofRaw raw = .ok details) :
    details.received = raw.received ∧ details.sent = raw.sent := by
  rw [ofRaw] at read
  cases text : copyField raw.txid "txid" with
  | error error =>
    rw [text] at read
    cases read
  | ok txid =>
    rw [text] at read
    cases read
    exact ⟨rfl, rfl⟩

/-- The sums of a balance that crossed the boundary are exact, or the program stops because no word
holds them. The difference of a transaction that crossed the boundary is exact, or the program stops
because no signed word holds it, if and only if both amounts are in the same half of the words. Then
it always fits. Otherwise the program stops when the difference fits, and gives another number when
it does not. -/
theorem sums_exact_and_net_exact_iff_sameHalf (balance : RawBalance) (raw : RawTransaction)
    (details : TransactionDetails) (read : TransactionDetails.ofRaw raw = .ok details) :
    let exact := Word.difference raw.received raw.sent
    Word.IsSum
        (balance.immature.toNat + balance.trustedPending.toNat + balance.untrustedPending.toNat +
          balance.confirmed.toNat) (Balance.ofRaw balance).total ∧
      Word.IsSum (balance.confirmed.toNat + balance.trustedPending.toNat)
        (Balance.ofRaw balance).trustedSpendable ∧
      (Word.IsDifference exact details.net ↔ Word.SameHalf raw.received raw.sent) ∧
      (Word.SameHalf raw.received raw.sent →
        Word.FitsSigned exact ∧ details.net = .ok exact) ∧
      (¬Word.SameHalf raw.received raw.sent →
        (Word.FitsSigned exact → details.net = .error Word.subtractOverflow) ∧
          (¬Word.FitsSigned exact → ∃ other, details.net = .ok other ∧ other ≠ exact)) := by
  intro exact
  refine ⟨Balance.total_isSum (Balance.ofRaw balance),
    Balance.trustedSpendable_isSum (Balance.ofRaw balance), ?_⟩
  obtain ⟨received, sent⟩ := TransactionDetails.amounts_of_ofRaw read
  have net : details.net =
      Word.subtractSigned (Word.toSigned raw.received) (Word.toSigned raw.sent) := by
    rw [TransactionDetails.net, received, sent]
  rw [net]
  by_cases same : Word.SameHalf raw.received raw.sent
  · obtain ⟨fits, ended⟩ := Word.subtractSigned_of_sameHalf same
    refine ⟨iff_of_true ?_ same, fun _ => ⟨fits, ended⟩, fun apart => absurd same apart⟩
    exact ended.trans (if_pos fits).symm
  · have ended := Word.subtractSigned_of_not_sameHalf same
    refine ⟨iff_of_false ?_ same, fun isSame => absurd isSame same, fun _ => ⟨?_, ?_⟩⟩
    · intro right
      rw [Word.IsDifference, ended] at right
      by_cases fits : Word.FitsSigned exact
      · rw [if_pos fits, if_pos fits] at right
        cases right
      · rw [if_neg fits, if_neg fits] at right
        cases right
    · exact fun fits => ended.trans (if_pos fits)
    · exact fun tooMuch => ⟨_, ended.trans (if_neg tooMuch), Word.bmod_difference_ne tooMuch⟩

/-- A transaction whose amounts may lie in different halves of the words. -/
def unevenTransaction (received sent : UInt64) : RawTransaction :=
  ⟨some [0x61], received, sent, -1, false, 0, 0⟩

/-- The same transaction behind the boundary. -/
def unevenDetails (received sent : UInt64) : TransactionDetails :=
  ⟨"a", received, sent, none, none⟩

theorem ofRaw_unevenTransaction (received sent : UInt64) :
    TransactionDetails.ofRaw (unevenTransaction received sent) =
      .ok (unevenDetails received sent) := by
  have text : copyField (some [0x61]) "txid" = .ok "a" := rfl
  have fee : feeOfCode (-1) = none := by decide
  rw [TransactionDetails.ofRaw, unevenTransaction, text, fee]
  rfl

/-- A transaction that gets half of the words and spends one stops the program, although the
difference is the greatest signed word. -/
theorem sums_exact_and_net_exact_iff_sameHalf_uneven :
    TransactionDetails.ofRaw (unevenTransaction 0x8000000000000000 1) =
        .ok (unevenDetails 0x8000000000000000 1) ∧
      Word.FitsSigned (Word.difference 0x8000000000000000 1) ∧
      (unevenDetails 0x8000000000000000 1).net = .error Word.subtractOverflow := by
  have read := ofRaw_unevenTransaction 0x8000000000000000 1
  have apart : ¬Word.SameHalf 0x8000000000000000 1 := by decide
  have fits : Word.FitsSigned (Word.difference 0x8000000000000000 1) := by decide
  obtain ⟨_, _, _, _, uneven⟩ := sums_exact_and_net_exact_iff_sameHalf ⟨0, 0, 0, 0⟩ _ _ read
  exact ⟨read, fits, (uneven apart).1 fits⟩

/-- A transaction that gets half of the words and spends nothing comes out as a loss. -/
theorem net_need_not_be_exact :
    ¬∀ (raw : RawTransaction) (details : TransactionDetails),
      TransactionDetails.ofRaw raw = .ok details →
        Word.IsDifference (Word.difference raw.received raw.sent) details.net := by
  intro alwaysExact
  have stops := alwaysExact _ _ (ofRaw_unevenTransaction 0x8000000000000000 0)
  have apart : ¬Word.SameHalf 0x8000000000000000 0 := by decide
  have tooMuch : ¬Word.FitsSigned (Word.difference 0x8000000000000000 0) := by decide
  have goesOn := (Word.subtractSigned_of_not_sameHalf apart).trans (if_neg tooMuch)
  rw [Word.IsDifference, TransactionDetails.net, unevenDetails, goesOn, unevenTransaction,
    if_neg tooMuch] at stops
  cases stops

end WalletBridge
