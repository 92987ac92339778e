/-
This file finds out where the sums of a payment leave the machine words. Amounts are added up in
the order of the recipients, up to the first that carries too little, so all that matters is the sum
of what comes before it. The fee is the rate times the weight of what is written so far, and is
added to the amounts only when no recipient was refused. An attempt to pay panics where one of these
numbers does not fit, and for two more reasons that are not about numbers of the plan: where change
has no script, and where the search for funds panics.

None of this depends on the funds. Engines are therefore described by what they do before they look
at the funds and by what they do then; the engine without a network is one of them.
-/

import WalletBridge.Engine.Offline

namespace WalletBridge

/-- Whether an attempt ended by a panic. -/
def Attempt.isPanic {Cause Content : Type} : Attempt Cause Content → Bool
  | .panicked _ => true
  | _ => false

namespace Payment

theorem amount_of_lt {value : Nat} (fits : value < values64) : amount value = .value value :=
  if_pos fits

theorem amount_of_not_lt {value : Nat} (tooMuch : ¬value < values64) :
    amount value = .panicked (some "an amount does not fit") :=
  if_neg tooMuch

/-! ### Recipients -/

/-- What some payments come to. -/
def amounts (payments : List (Bytes × UInt64)) : Nat :=
  total (payments.map fun payment => payment.2.toNat)

theorem amounts_cons (payment : Bytes × UInt64) (rest : List (Bytes × UInt64)) :
    amounts (payment :: rest) = payment.2.toNat + amounts rest := rfl

/-- The payments before the first one that carries too little. -/
def worthwhile (payments : List (Bytes × UInt64)) : List (Bytes × UInt64) :=
  payments.takeWhile fun payment => decide (Script.dustLimit payment.1 ≤ payment.2.toNat)

theorem worthwhile_cons_dust {payment : Bytes × UInt64} (rest : List (Bytes × UInt64))
    (dust : payment.2.toNat < Script.dustLimit payment.1) : worthwhile (payment :: rest) = [] := by
  rw [worthwhile, List.takeWhile_cons_of_neg]
  rw [decide_eq_true_eq]
  omega

theorem worthwhile_cons_clean {payment : Bytes × UInt64} (rest : List (Bytes × UInt64))
    (clean : ¬payment.2.toNat < Script.dustLimit payment.1) :
    worthwhile (payment :: rest) = payment :: worthwhile rest := by
  rw [worthwhile, List.takeWhile_cons_of_pos, worthwhile]
  rw [decide_eq_true_eq]
  omega

/-- The sum is the whole sum, or ends at the first payment that carries too little, unless it has
left the words before. -/
theorem outgoing_eq (payments : List (Bytes × UInt64)) (place : Nat) {sum : Nat}
    (fits : sum < values64) :
    outgoing place sum payments =
      if values64 ≤ sum + amounts (worthwhile payments) then
        .panicked (some "an amount does not fit")
      else if worthwhile payments = payments then .value (sum + amounts payments)
      else .refused (.belowDustLimit (place + (worthwhile payments).length)) := by
  induction payments generalizing place sum with
  | nil =>
    have within : ¬values64 ≤ sum + amounts (worthwhile []) := Nat.not_le.mpr fits
    rw [if_neg within]
    rfl
  | cons payment rest inductionHypothesis =>
    rw [outgoing]
    by_cases dust : payment.2.toNat < Script.dustLimit payment.1
    · have within : ¬values64 ≤ sum + amounts [] := Nat.not_le.mpr fits
      rw [if_pos dust, worthwhile_cons_dust rest dust, if_neg within,
        if_neg (List.cons_ne_nil _ _).symm]
      rfl
    · rw [if_neg dust, worthwhile_cons_clean rest dust, amounts_cons, ← Nat.add_assoc]
      by_cases within : sum + payment.2.toNat < values64
      · rw [amount_of_lt within]
        show outgoing (place + 1) (sum + payment.2.toNat) rest = _
        rw [inductionHypothesis (place + 1) within]
        simp only [List.cons.injEq, true_and, List.length_cons, amounts_cons, ← Nat.add_assoc,
          Nat.add_right_comm place 1]
      · rw [amount_of_not_lt within, if_pos (by omega)]
        rfl

/-! ### Prices -/

/-- What so many units of weight cost, whether or not it fits. -/
def price (rate weight : Nat) : Nat := (rate * weight + 999) / 1000

theorem cost_of_lt {rate weight : Nat} (fits : rate * weight + 999 < values64) :
    cost rate weight = .value (price rate weight) := by
  unfold cost
  rw [amount_of_lt fits]
  rfl

theorem cost_of_not_lt {rate weight : Nat} (tooMuch : ¬rate * weight + 999 < values64) :
    cost rate weight = .panicked (some "an amount does not fit") := by
  unfold cost
  rw [amount_of_not_lt tooMuch]

/-- The numbers of a plan that do not fit in a word: the amounts before the first recipient that
gets too little, the rate times the weight, or both together. -/
inductive Overflows (rate : Nat) (payments : List (Bytes × UInt64)) : Prop where
  | amounts : values64 ≤ amounts (worthwhile payments) → Overflows rate payments
  | product : worthwhile payments = payments → values64 ≤ rate * weight payments + 999 →
      Overflows rate payments
  | sum : worthwhile payments = payments →
      values64 ≤ Payment.amounts payments + price rate (weight payments) → Overflows rate payments

/-- What has to be found among the funds, when there is a script for change. -/
def needed (rate : Nat) (hasScript : Bool) (payments : List (Bytes × UInt64)) :
    Attempt BuildFailure Nat :=
  andThen (outgoing 0 0 payments) fun sum =>
  andThen (cost rate (weight payments)) fun fee =>
  if !hasScript then .panicked (some "a script without an address") else amount (sum + fee)

/-- Either something does not fit, or change has no script, or a recipient gets too little, or the
sum is known. -/
theorem needed_cases (rate : Nat) (hasScript : Bool) (payments : List (Bytes × UInt64)) :
    (needed rate hasScript payments).isPanic = true ∧
        (Overflows rate payments ∨ worthwhile payments = payments ∧ hasScript = false) ∨
      (∃ failure, needed rate hasScript payments = .refused failure) ∧
        ¬Overflows rate payments ∧ worthwhile payments ≠ payments ∨
      needed rate hasScript payments =
          .value (amounts payments + price rate (weight payments)) ∧
        ¬Overflows rate payments ∧ worthwhile payments = payments ∧ hasScript = true := by
  have fits : (0 : Nat) < values64 := by decide
  rw [needed, outgoing_eq payments 0 fits, Nat.zero_add, Nat.zero_add]
  by_cases amountsOver : values64 ≤ amounts (worthwhile payments)
  · rw [if_pos amountsOver]
    exact .inl ⟨rfl, .inl (.amounts amountsOver)⟩
  rw [if_neg amountsOver]
  by_cases clean : worthwhile payments = payments
  · rw [if_pos clean]
    by_cases productFits : rate * weight payments + 999 < values64
    · rw [cost_of_lt productFits]
      cases hasScript with
      | false => exact .inl ⟨rfl, .inr ⟨clean, rfl⟩⟩
      | true =>
        show (amount (amounts payments + price rate (weight payments))).isPanic = true ∧ _ ∨ _
        by_cases sumFits : amounts payments + price rate (weight payments) < values64
        · refine .inr (.inr ⟨amount_of_lt sumFits, ?_, clean, rfl⟩)
          rintro (tooMuch | ⟨-, tooMuch⟩ | ⟨-, tooMuch⟩)
          · exact amountsOver tooMuch
          · exact Nat.not_lt.mpr tooMuch productFits
          · exact Nat.not_lt.mpr tooMuch sumFits
        · rw [amount_of_not_lt sumFits]
          exact .inl ⟨rfl, .inl (.sum clean (Nat.not_lt.mp sumFits))⟩
    · rw [cost_of_not_lt productFits]
      exact .inl ⟨rfl, .inl (.product clean (Nat.not_lt.mp productFits))⟩
  · rw [if_neg clean]
    refine .inr (.inl ⟨⟨_, rfl⟩, ?_, clean⟩)
    rintro (tooMuch | ⟨same, -⟩ | ⟨same, -⟩)
    · exact amountsOver tooMuch
    · exact clean same
    · exact clean same

end Payment

/-! ### Engines -/

/-- The rate that a plan is priced at. -/
def PaymentPlan.rateOrDefault (plan : PaymentPlan) : Nat :=
  (plan.rate.map (·.toNat)).getD Payment.defaultRate

/-- What is to be found for a plan, whether or not it fits: the payments and the fee for them. -/
def PaymentPlan.needed (plan : PaymentPlan) : Nat :=
  Payment.amounts plan.payments +
    Payment.price plan.rateOrDefault (Payment.weight plan.payments)

/-- An engine that knows what it needs before it looks at the funds: it adds up the payments, prices
what is written so far, looks for a script for change and adds the fee. The funds come after that,
and what is written to a store is written without a panic. -/
structure WalletEngine.PricesFirst (engine : WalletEngine) where
  /-- Whether a wallet can be told to pay at all. -/
  isReady : engine.Wallet → Bool
  /-- What is wrong with a wallet that cannot. -/
  unready : BuildFailure
  /-- Whether there is a script for change. -/
  hasScript : engine.Wallet → Bool
  /-- Finds so much among the funds, and writes the transaction. -/
  spend : PaymentPlan → Nat → engine.Wallet → engine.World →
    Attempt BuildFailure PartialTransaction × engine.Wallet × engine.World
  build_eq : ∀ plan wallet world, engine.build plan wallet world =
    if isReady wallet then
      match Payment.needed plan.rateOrDefault (hasScript wallet) plan.payments with
      | .value needed => spend plan needed wallet world
      | .refused failure => (.refused failure, wallet, world)
      | .panicked text => (.panicked text, wallet, world)
    else (.refused unready, wallet, world)
  persist_isPanic : ∀ wallet store world, (engine.persist wallet store world).1.isPanic = false

namespace WalletEngine.PricesFirst

variable {engine : WalletEngine} (pricing : engine.PricesFirst)

/-- Building panics where a number does not fit, where change has no script, and where looking for
the funds panics. -/
theorem build_isPanic_iff (plan : PaymentPlan) (wallet : engine.Wallet) (world : engine.World) :
    (engine.build plan wallet world).1.isPanic = true ↔
      pricing.isReady wallet = true ∧
        (Payment.Overflows plan.rateOrDefault plan.payments ∨
          Payment.worthwhile plan.payments = plan.payments ∧
            (pricing.hasScript wallet = false ∨
              (pricing.spend plan plan.needed wallet world).1.isPanic = true)) := by
  rw [pricing.build_eq]
  cases pricing.isReady wallet with
  | false => exact iff_of_false Bool.false_ne_true fun panics => Bool.false_ne_true panics.1
  | true =>
    rw [if_pos rfl, eq_self, true_and]
    rcases Payment.needed_cases plan.rateOrDefault (pricing.hasScript wallet) plan.payments with
      ⟨panics, cause⟩ | ⟨⟨failure, refused⟩, within, dust⟩ | ⟨known, within, clean, script⟩
    · refine iff_of_true ?_ (cause.imp_right fun ⟨clean, missing⟩ => ⟨clean, .inl missing⟩)
      cases ended : Payment.needed plan.rateOrDefault (pricing.hasScript wallet) plan.payments with
      | panicked text => rfl
      | value sum => rw [ended] at panics; cases panics
      | refused failure => rw [ended] at panics; cases panics
    · rw [refused]
      refine iff_of_false Bool.false_ne_true ?_
      rintro (tooMuch | ⟨clean, -⟩)
      · exact within tooMuch
      · exact dust clean
    · rw [known, script]
      constructor
      · exact fun panics => .inr ⟨clean, .inr panics⟩
      · rintro (tooMuch | ⟨-, missing | panics⟩)
        · exact absurd tooMuch within
        · cases missing
        · exact panics

end WalletEngine.PricesFirst

/-! ### The engine without a network -/

namespace Payment

variable {First Second Third : Type}

theorem andThen_value (content : First) (next : First → Attempt BuildFailure Second) :
    andThen (.value content) next = next content := rfl

theorem andThen_assoc (first : Attempt BuildFailure First)
    (second : First → Attempt BuildFailure Second) (third : Second → Attempt BuildFailure Third) :
    andThen (andThen first second) third =
      andThen first fun content => andThen (second content) third := by
  cases first <;> rfl

theorem andThen_ite {condition : Bool} {left right : Attempt BuildFailure First}
    (next : First → Attempt BuildFailure Second) :
    andThen (if condition then left else right) next =
      if condition then andThen left next else andThen right next := by
  cases condition <;> rfl

/-- What a wallet without funds does once it knows what it needs: it prices the change and gives
up. -/
def giveUp (rate needed : Nat) : Attempt BuildFailure PartialTransaction :=
  andThen (cost rate changeWeight) fun _ => .refused (missing needed)

theorem attempt_eq (plan : PaymentPlan) (wallet : DescriptorWallet) :
    attempt plan wallet =
      if hasClearPolicy wallet then
        andThen (needed plan.rateOrDefault (hasChangeScript wallet) plan.payments)
          (giveUp plan.rateOrDefault)
      else .refused (.other "a way to spend has to be chosen") := by
  unfold attempt
  cases hasClearPolicy wallet with
  | false => rfl
  | true =>
    simp only [needed, andThen_assoc, andThen_ite]
    rfl

theorem build_eq (plan : PaymentPlan) (wallet : DescriptorWallet) (disk : Disk) :
    (attempt plan wallet, wallet, disk) =
      if hasClearPolicy wallet then
        match needed plan.rateOrDefault (hasChangeScript wallet) plan.payments with
        | .value needed => (giveUp plan.rateOrDefault needed, wallet, disk)
        | .refused failure => (.refused failure, wallet, disk)
        | .panicked text => (.panicked text, wallet, disk)
      else (.refused (.other "a way to spend has to be chosen"), wallet, disk) := by
  rw [attempt_eq]
  generalize needed plan.rateOrDefault (hasChangeScript wallet) plan.payments = known
  cases hasClearPolicy wallet with
  | false => rfl
  | true =>
    rw [if_pos rfl, if_pos rfl]
    cases known with
    | value sum => rw [andThen_value]
    | refused failure => rfl
    | panicked text => rfl

theorem giveUp_isPanic_iff (rate needed : Nat) :
    (giveUp rate needed).isPanic = true ↔ values64 ≤ rate * changeWeight + 999 := by
  unfold giveUp
  by_cases fits : rate * changeWeight + 999 < values64
  · rw [cost_of_lt fits]
    exact iff_of_false Bool.false_ne_true (Nat.not_le.mpr fits)
  · rw [cost_of_not_lt fits]
    exact iff_of_true rfl (Nat.not_lt.mp fits)

end Payment

/-- The engine of a machine without a network knows what it needs first, and then gives up. -/
def offlinePricing : offlineEngine.PricesFirst where
  isReady := Payment.hasClearPolicy
  unready := .other "a way to spend has to be chosen"
  hasScript := Payment.hasChangeScript
  spend plan needed wallet disk := (Payment.giveUp plan.rateOrDefault needed, wallet, disk)
  build_eq := Payment.build_eq
  persist_isPanic _ _ _ := rfl

/-- Without funds, looking for them panics only where the change is too dear for a word. -/
theorem offlinePricing_spend_isPanic_iff (plan : PaymentPlan) (needed : Nat)
    (wallet : offlineEngine.Wallet) (disk : offlineEngine.World) :
    (offlinePricing.spend plan needed wallet disk).1.isPanic = true ↔
      values64 ≤ plan.rateOrDefault * Payment.changeWeight + 999 := by
  have spent : offlinePricing.spend plan needed wallet disk =
      (Payment.giveUp plan.rateOrDefault needed, wallet, disk) := rfl
  rw [spent, Payment.giveUp_isPanic_iff]

end WalletBridge
