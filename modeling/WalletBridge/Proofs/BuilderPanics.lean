/-
This file says when a builder that was told nothing but what it accepted makes the building of a
transaction panic. A builder takes every amount, and every rate that fits a word as it is kept, so
what it was told need not fit together: the amounts are added up and the rate is multiplied only
when the transaction is built. The answer then has the code of a panic where one of these numbers
leaves the words, and otherwise the code of its cause or none.
-/

import WalletBridge.Proofs.FileCalls
import WalletBridge.Proofs.PaymentOverflow
import WalletBridge.Proofs.WalletChanges

namespace WalletBridge

variable {engine : WalletEngine} {payload : Payload} {Content Cause Result : Type}

/-! ### Calls on a builder -/

theorem BuildFailure.code_ne_panic (failure : BuildFailure) : failure.code ≠ "Panic" := by
  cases failure <;> simp [code]

/-- A call that tells a builder something. -/
inductive BuilderCall where
  | recipient (address : NativeString) (amount : UInt64)
  | rate (satPerVb : UInt64)

namespace BuilderCall

/-- The entry point behind a call. -/
def entry (builder : Address) : BuilderCall → Entry .unit
  | .recipient address amount => .addRecipient (some builder) address amount
  | .rate satPerVb => .feeRate (some builder) satPerVb

/-- What a builder has been told after a call that it accepts. -/
def told? (params : BuilderParams) : BuilderCall → Option BuilderParams
  | .recipient address amount =>
    ((Body.text? address).bind BitcoinAddress.parse?).map fun recipient =>
      { params with recipients := params.recipients ++ [(recipient, amount)] }
  | .rate satPerVb =>
    if satPerVb.toNat * 250 < values64 then
      some { params with rate := some (UInt64.ofNat (satPerVb.toNat * 250)) }
    else none

/-- A builder keeps what it accepts, and a call that it does not accept changes nothing. -/
theorem ofEntry_apply {heap : NativeHeap engine} {builder : Address} {params : BuilderParams}
    (held : heap.object? builder = some (.builder params)) (call : BuilderCall) :
    (∃ told, call.told? params = some told ∧
        Body.ofEntry (call.entry builder) heap =
          (.value 0, heap.replace builder (.builder told))) ∨
      (∃ fault, call.told? params = none ∧
        Body.ofEntry (call.entry builder) heap = (.refused fault, heap)) := by
  cases call with
  | recipient address amount =>
    show (∃ told, ((Body.text? address).bind BitcoinAddress.parse?).map _ = some told ∧
        Body.addRecipient (some builder) address amount heap = _) ∨
      ∃ fault, ((Body.text? address).bind BitcoinAddress.parse?).map _ = none ∧
        Body.addRecipient (some builder) address amount heap = _
    rw [Body.addRecipient, Body.bind_apply, Body.builder_apply held]
    rcases Body.text_apply "address" address heap with
      ⟨read, isText, ended⟩ | ⟨fault, noText, ended⟩
    · simp only [Body.bind_apply, ended, isText, Option.bind_some]
      cases BitcoinAddress.parse? read with
      | none => exact .inr ⟨_, rfl, rfl⟩
      | some recipient => exact .inl ⟨_, rfl, rfl⟩
    · simp only [Body.bind_apply, ended, noText]
      exact .inr ⟨fault, rfl, rfl⟩
  | rate satPerVb =>
    show (∃ told, _ ∧ Body.feeRate (some builder) satPerVb heap = _) ∨
      ∃ fault, _ ∧ Body.feeRate (some builder) satPerVb heap = _
    rw [Body.feeRate, Body.bind_apply, Body.builder_apply held]
    by_cases fits : satPerVb.toNat * 250 < values64
    · refine .inl ⟨_, if_pos fits, ?_⟩
      simp only [fits, if_true]
      rfl
    · refine .inr ⟨.feeRate satPerVb, if_neg fits, ?_⟩
      simp only [fits, if_false]
      rfl

end BuilderCall

/-- Giving back the answer to an accepted call undoes what the answer added to the count. -/
theorem NativeHeap.release_accepted (heap : NativeHeap engine) :
    (heap.counted 1).release (.transit payload none) = heap := by
  rw [release_transit, counted_counted]
  exact heap.counted_zero

/-- The memory after some calls on a builder, each of which was accepted and its answer given
back. -/
def NativeHeap.told? (builder : Address) : List BuilderCall → NativeHeap engine →
    Option (NativeHeap engine)
  | [], heap => some heap
  | call :: rest, heap =>
    match heap.answer (call.entry builder) with
    | (some ⟨_, none⟩, after) => told? builder rest (after.release (.transit .unit none))
    | _ => none

/-- After accepted calls the builder has been told them one after another, and no other object has
changed. -/
theorem NativeHeap.object?_of_told? {builder : Address} (calls : List BuilderCall)
    {heap after : NativeHeap engine} {params : BuilderParams}
    (held : heap.object? builder = some (.builder params))
    (accepted : heap.told? builder calls = some after) :
    ∃ told, calls.foldlM BuilderCall.told? params = some told ∧
      after.object? builder = some (.builder told) ∧
      ∀ other, other ≠ builder → after.object? other = heap.object? other := by
  induction calls generalizing heap params with
  | nil =>
    cases accepted
    exact ⟨params, rfl, held, fun _ _ => rfl⟩
  | cons call rest inductionHypothesis =>
    rw [told?, answer, Body.respond] at accepted
    rcases call.ofEntry_apply held with ⟨told, isTold, ended⟩ | ⟨fault, -, ended⟩
    · rw [ended] at accepted
      have kept : (heap.replace builder (.builder told)).object? builder =
          some (.builder told) := object?_replace_self held _
      change told? builder rest
        (((heap.replace builder (.builder told)).counted 1).release _) = _ at accepted
      rw [release_accepted] at accepted
      obtain ⟨final, isFinal, self, others⟩ := inductionHypothesis kept accepted
      refine ⟨final, ?_, self, fun other apart => ?_⟩
      · rw [List.foldlM_cons, isTold]
        exact isFinal
      · rw [others other apart]
        exact object?_replace_ne apart _
    · rw [ended] at accepted
      cases accepted

/-! ### Building -/

/-- The code that a change of a wallet is answered with, given what became of writing it. -/
def concludedCode? (fault : Cause → NativeFault) (changed : Attempt Cause Content)
    (written : Attempt String Unit) : Option String :=
  match changed with
  | .value _ => (written.mapCause NativeFault.store).faultCode?
  | .refused cause => some (fault cause).code
  | .panicked _ => some "Panic"

theorem faultCode?_conclude (place : Address) (state : OpenWallet engine)
    (fault : Cause → NativeFault) (changed : Attempt Cause Content) (heap : NativeHeap engine) :
    (Body.conclude place state fault changed heap).1.faultCode? =
      concludedCode? fault changed (engine.persist state.wallet state.store heap.world).1 := by
  cases changed with
  | refused cause => rfl
  | panicked text => rfl
  | value content =>
    rcases persisted : engine.persist state.wallet state.store heap.world with
      ⟨written, wallet, world⟩
    rw [Body.conclude_value content persisted]
    cases written <;> rfl

/-- What always succeeds changes no code. -/
theorem faultCode?_bind {first : Body engine Content} {next : Content → Body engine Result}
    (succeeds : ∀ content heap, (next content heap).1.faultCode? = none)
    (heap : NativeHeap engine) :
    ((first >>= next) heap).1.faultCode? = (first heap).1.faultCode? := by
  rw [Body.bind_apply]
  rcases first heap with ⟨attempt, after⟩
  cases attempt with
  | value content => exact succeeds content after
  | refused fault => rfl
  | panicked text => rfl

/-- What the engine is asked to build for a builder. -/
def BuilderParams.plan (params : BuilderParams) : PaymentPlan :=
  ⟨Body.paymentsTo params.recipients, params.rate⟩

variable {heap after : NativeHeap engine} {builder wallet : Address} {params : BuilderParams}
  {state : OpenWallet engine}

/-- The code that a builder's transaction is answered with: that of an address of another chain, or
that of the build and of the writing behind it. -/
theorem errorCode?_finish (told : heap.object? builder = some (.builder params))
    (held : heap.object? wallet = some (.wallet state)) :
    let built := engine.build params.plan state.wallet heap.world
    (heap.answer (.finish (some builder) (some wallet))).1.errorCode? =
      if ∀ recipient ∈ params.recipients, recipient.1.fits state.chain = true then
        concludedCode? .build built.1 (engine.persist built.2.1 state.store built.2.2).1
      else some "AddressNetwork" := by
  intro built
  rw [errorCode?_answer]
  show ((Body.finish (some builder) (some wallet) >>= fun transaction =>
    Body.newObject (.psbt transaction)) heap).1.faultCode? = _
  rw [faultCode?_bind fun _ _ => rfl]
  by_cases fit : ∀ recipient ∈ params.recipients, recipient.1.fits state.chain = true
  · rw [if_pos fit, Body.finish_apply told held fit, faultCode?_conclude]
    rfl
  · obtain ⟨reason, ended⟩ := Body.finish_foreign told held fit
    rw [if_neg fit, ended]
    rfl

/-- Building ends with a panic exactly where the engine's build does, as long as the addresses are of
the wallet's chain and nothing panics while it is written. -/
theorem errorCode?_finish_eq_panic_iff (told : heap.object? builder = some (.builder params))
    (held : heap.object? wallet = some (.wallet state))
    (writes : ∀ wallet store world, (engine.persist wallet store world).1.isPanic = false) :
    (heap.answer (.finish (some builder) (some wallet))).1.errorCode? = some "Panic" ↔
      (∀ recipient ∈ params.recipients, recipient.1.fits state.chain = true) ∧
        (engine.build params.plan state.wallet heap.world).1.isPanic = true := by
  rw [errorCode?_finish told held]
  by_cases fit : ∀ recipient ∈ params.recipients, recipient.1.fits state.chain = true
  · rw [if_pos fit]
    rcases engine.build params.plan state.wallet heap.world with ⟨built, changed, world⟩
    cases built with
    | panicked text => exact iff_of_true rfl ⟨fit, rfl⟩
    | refused failure =>
      refine iff_of_false (fun code => ?_) fun panics => Bool.false_ne_true panics.2
      exact failure.code_ne_panic (Option.some.inj code)
    | value transaction =>
      refine iff_of_false (fun code => ?_) fun panics => Bool.false_ne_true panics.2
      have quiet := writes changed state.store world
      change ((engine.persist changed state.store world).1.mapCause _).faultCode? = _ at code
      cases written : (engine.persist changed state.store world).1 with
      | value done => rw [written] at code; cases code
      | refused reason =>
        rw [written] at code
        have persist : some "Persist" = some "Panic" := code
        exact absurd persist (by decide)
      | panicked text => rw [written] at quiet; cases quiet
  · rw [if_neg fit]
    refine iff_of_false (by decide) fun panics => fit panics.1

/-- A builder that was told only what it accepted makes building panic exactly in these cases, if all
addresses are of the wallet's chain and the wallet can be told to pay: the amounts before the first
recipient that gets too little leave the words; no recipient gets too little, and the rate times the
weight or the amounts with the fee leave the words; or no recipient gets too little, and change has
no script or looking for the funds panics. -/
theorem finish_panics_iff_overflow (pricing : engine.PricesFirst) (calls : List BuilderCall)
    (blank : heap.object? builder = some (.builder ⟨[], none⟩))
    (held : heap.object? wallet = some (.wallet state))
    (accepted : heap.told? builder calls = some after) :
    ∃ params, calls.foldlM BuilderCall.told? ⟨[], none⟩ = some params ∧
      ((after.answer (.finish (some builder) (some wallet))).1.errorCode? = some "Panic" ↔
        (∀ recipient ∈ params.recipients, recipient.1.fits state.chain = true) ∧
          pricing.isReady state.wallet = true ∧
          (Payment.Overflows params.plan.rateOrDefault params.plan.payments ∨
            Payment.worthwhile params.plan.payments = params.plan.payments ∧
              (pricing.hasScript state.wallet = false ∨
                (pricing.spend params.plan params.plan.needed state.wallet after.world).1.isPanic =
                  true))) := by
  have apart : wallet ≠ builder := by
    rintro rfl
    rw [held] at blank
    cases blank
  obtain ⟨params, isTold, told, others⟩ := heap.object?_of_told? calls blank accepted
  have kept : after.object? wallet = some (.wallet state) := (others wallet apart).trans held
  refine ⟨params, isTold, ?_⟩
  rw [errorCode?_finish_eq_panic_iff told kept pricing.persist_isPanic,
    pricing.build_isPanic_iff]

/-- A wallet of one key that has handed its address out. -/
def loneKeyWallet : DescriptorWallet :=
  ⟨.regtest, .witnessKeyHash (.single none ⟨Secp256k1.generator, .compressed⟩), none,
    ⟨some 0, none⟩, .nothing⟩

/-- A memory with a new builder and a wallet. -/
def builderHeap : NativeHeap offlineEngine :=
  ⟨.empty ["/tmp"],
    [(1, .builder ⟨[], none⟩), (2, .wallet ⟨loneKeyWallet, .memory 0, .regtest⟩)], 2, 2⟩

/-- A call that adds a payment to a fixed address. -/
def payment (amount : UInt64) : BuilderCall :=
  .recipient (some (Utf8.encode "bcrt1qqyqszqgpqyqszqgpqyqszqgpqyqszqgpvxat9t")) amount

/-- What the wallet's transaction is answered with after some calls that are accepted. -/
def codeAfter? (calls : List BuilderCall) : Option (Option String) :=
  (builderHeap.told? 1 calls).map fun after =>
    (after.answer (.finish (some 1) (some 2))).1.errorCode?

/-- What the builder has been told after a payment at two satoshi for a virtual octet. -/
def modestParams : BuilderParams :=
  ⟨[(.witness "bcrt" 0 (List.replicate 20 1), 100000)], some 500⟩

theorem finish_panics_iff_overflow_modest :
    ∃ after, builderHeap.told? 1 [payment 100000, .rate 2] = some after ∧
      (after.answer (.finish (some 1) (some 2))).1.errorCode? ≠ some "Panic" := by
  have accepts : (builderHeap.told? 1 [payment 100000, .rate 2]).isSome = true := by
    decide +kernel
  have known : [payment 100000, .rate 2].foldlM BuilderCall.told? ⟨[], none⟩ =
      some modestParams := by decide +kernel
  obtain ⟨after, accepted⟩ := Option.isSome_iff_exists.mp accepts
  have blank : builderHeap.object? 1 = some (.builder ⟨[], none⟩) := rfl
  have held : builderHeap.object? 2 = some (.wallet ⟨loneKeyWallet, .memory 0, .regtest⟩) := rfl
  obtain ⟨params, isTold, exactly⟩ :=
    finish_panics_iff_overflow offlinePricing [payment 100000, .rate 2] blank held accepted
  obtain rfl : modestParams = params := Option.some.inj (known.symm.trans isTold)
  refine ⟨after, accepted, fun panics => ?_⟩
  obtain ⟨-, -, cause⟩ := exactly.mp panics
  rcases cause with (tooMuch | ⟨-, tooMuch⟩ | ⟨-, tooMuch⟩) | ⟨-, missing | givesUp⟩
  · exact absurd tooMuch (by decide +kernel)
  · exact absurd tooMuch (by decide +kernel)
  · exact absurd tooMuch (by decide +kernel)
  · exact absurd missing (by decide +kernel)
  · rw [offlinePricing_spend_isPanic_iff] at givesUp
    exact absurd givesUp (by decide +kernel)

/-- Every call is accepted, and building panics: the amounts do not fit together, or the fee does not
fit. -/
theorem accepted_calls_may_panic :
    codeAfter? [payment 18446744073709551615, payment 1000] = some (some "Panic") ∧
      codeAfter? [payment 1000, .rate 73786976294838206] = some (some "Panic") := by
  decide +kernel

end WalletBridge
