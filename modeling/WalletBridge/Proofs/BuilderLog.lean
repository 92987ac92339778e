/-
This file says what a transaction is built from. A builder is used by a sequence of calls: some add
a payment, some set the rate, some build, and each of them may fail at any stage, while anything
else goes on in the process. The calls and what became of them are written down in a log, and the
builder always holds what can be read off that log: the payments of the calls that returned, in
their order and as often as they were made, and the rate of the last call that returned and set one.
A call that fails leaves no trace, and neither does building.

When a transaction is built, the engine is therefore asked for these payments at this rate and for
no others. The one thing that is looked at before it is asked is the chain of the addresses: where
one of them is of another chain, the wallet, the stores and the memory are what they were.
-/

import WalletBridge.Proofs.ArgumentChecks
import WalletBridge.Proofs.BuilderFrame
import WalletBridge.Proofs.BuilderPanics
import WalletBridge.Proofs.LiveAllocations

namespace WalletBridge

variable {engine : WalletEngine} {loader : Loader} {payload : Payload} {Content : Type}

/-! ### Questions to the native library -/

/-- What the host makes of an error of the native side. -/
def NativeFault.bridged (fault : NativeFault) : BridgeError :=
  .native fault.code (Utf8.withoutZeros fault.message)

/-- What a caller sees of a run, and the native side. -/
theorem Host.of_seen {State : Type} {run : Outcome Content × Host State}
    {outcome : Outcome Content} {native : State}
    (seen : run.map id Host.native = (outcome, native)) :
    run.1 = outcome ∧ run.2.native = native :=
  Prod.mk.inj seen

section Query

variable {library : LibraryId} {entry : Entry payload} {process : Host (NativeHeap engine)}
  {after : NativeHeap engine} {convert : payload.Raw → Action (NativeHeap engine) Content}

/-- An entry point that ends with an error is read as that error. -/
theorem Surroundings.query_of_refused {fault : NativeFault}
    (ended : Body.ofEntry entry process.native = (.refused fault, after)) :
    ((nativeSurroundings engine loader).query library entry convert process).map id Host.native =
      (.failure fault.bridged, after) := by
  have answered : (nativeSurroundings engine loader).side.answer library entry process.native =
      (some ⟨payload.blank, some (Body.rawError fault)⟩, after.counted 4) :=
    NativeHeap.answer_of_refused ended
  rw [query, Run.bind_apply, ask, answered]
  exact congrArg₂ (fun error native => (Outcome.failure error, native)) (readError_rawError fault)
    (after.release_refused payload fault)

theorem Surroundings.query_of_panicked {text : Option String}
    (ended : Body.ofEntry entry process.native = (.panicked text, after)) :
    ((nativeSurroundings engine loader).query library entry convert process).map id Host.native =
      (.failure (NativeFault.panicked text).bridged, after) := by
  have answered : (nativeSurroundings engine loader).side.answer library entry process.native =
      (some ⟨payload.blank, some (Body.rawError (.panicked text))⟩, after.counted 4) :=
    NativeHeap.answer_of_panicked ended
  rw [query, Run.bind_apply, ask, answered]
  exact congrArg₂ (fun error native => (Outcome.failure error, native))
    (readError_rawError (.panicked text)) (after.release_refused payload (.panicked text))

/-- An entry point that ends with a value is read by the conversion, here by one that does nothing to
the native side. -/
theorem Surroundings.query_of_value {raw : payload.Raw} {content : Content}
    (ended : Body.ofEntry entry process.native = (.value raw, after))
    (reads : ∀ process, (convert raw process).map id Host.native =
      (.value content, process.native)) :
    ((nativeSurroundings engine loader).query library entry convert process).map id Host.native =
      (.value content, after) := by
  have answered : (nativeSurroundings engine loader).side.answer library entry process.native =
      (some ⟨raw, none⟩, after.counted 1) :=
    NativeHeap.answer_of_value ended
  have read := reads { process with
    native := after.counted 1
    journal := .asked library payload entry (some ⟨raw, none⟩) :: process.journal }
  have outcome := congrArg Prod.fst read
  have kept := congrArg Prod.snd read
  rw [query, Run.bind_apply, ask, answered]
  refine Prod.ext outcome ?_
  refine (congrArg (NativeHeap.release · (.transit payload none)) kept).trans ?_
  exact after.release_accepted

end Query

/-! ### Calls on a builder and their log -/

/-- A call on a builder. -/
inductive BuilderUse where
  | recipient (address : String) (amount : UInt64)
  | rate (satPerVb : UInt64)
  | finish (wallet : Wallet)

/-- Makes a call. What a building returns is left aside. -/
def BuilderUse.make {State : Type} (around : Surroundings State) (builder : TxBuilder) :
    BuilderUse → Action State Unit
  | .recipient address amount => around.addRecipient builder address amount
  | .rate satPerVb => around.feeRate builder satPerVb
  | .finish wallet => do
    let _ ← around.finish builder wallet
    pure ()

/-- The calls that were made on a builder and what became of them, in their order. -/
abbrev BuilderLog := List (BuilderUse × Outcome Unit)

namespace BuilderLog

/-- The payment of a call that added one. -/
def added? : BuilderUse × Outcome Unit → Option (String × UInt64)
  | (.recipient address amount, .value _) => some (address, amount)
  | _ => none

/-- The rate of a call that set it. -/
def set? : BuilderUse × Outcome Unit → Option UInt64
  | (.rate satPerVb, .value _) => some satPerVb
  | _ => none

/-- The payments of the calls that returned, in their order. -/
def added (log : BuilderLog) : List (String × UInt64) := log.filterMap added?

/-- The rate of the last call that returned and set one. -/
def lastRate? (log : BuilderLog) : Option UInt64 := (log.filterMap set?).getLast?

end BuilderLog

/-- What a builder has been told is what its log says: a recipient for each payment, with the address
that its text spells, and the rate that was set last, for a thousand units of weight. -/
structure BuilderParams.Replays (params : BuilderParams) (log : BuilderLog) : Prop where
  recipients : params.recipients.map (fun (recipient, amount) => (some recipient, amount)) =
    log.added.map fun (address, amount) => (BitcoinAddress.parse? address, amount)
  rate : params.rate.map UInt64.toNat = log.lastRate?.map fun satPerVb => satPerVb.toNat * 250

/-- A log and the process in which it has come about, from the moment that the builder was new: calls
on the builder, and between them whatever else the native side is asked for. -/
inductive BuilderRun (loader : Loader) (builder : TxBuilder) (start : Host (NativeHeap engine)) :
    BuilderLog → Host (NativeHeap engine) → Prop where
  | start : BuilderRun loader builder start [] start
  | call {log : BuilderLog} {process : Host (NativeHeap engine)} (use : BuilderUse) :
      BuilderRun loader builder start log process →
      BuilderRun loader builder start
        (log ++ [(use, (use.make (nativeSurroundings engine loader) builder process).1)])
        (use.make (nativeSurroundings engine loader) builder process).2
  | elsewhere {log : BuilderLog} {process after : Host (NativeHeap engine)} {address : Address} :
      BuilderRun loader builder start log process →
      builder.handle.slot = some address → process.native.Passes address after.native →
      BuilderRun loader builder start log after

namespace BuilderParams

variable {params : BuilderParams} {log : BuilderLog}

theorem Replays.nil : (⟨[], none⟩ : BuilderParams).Replays [] :=
  ⟨rfl, rfl⟩

/-- A call that added no payment and set no rate leaves what the log says. -/
theorem Replays.idle (replays : params.Replays log) {entry : BuilderUse × Outcome Unit}
    (noPayment : BuilderLog.added? entry = none) (noRate : BuilderLog.set? entry = none) :
    params.Replays (log ++ [entry]) := by
  refine ⟨?_, ?_⟩
  · rw [BuilderLog.added, List.filterMap_append, List.filterMap_cons_none noPayment,
      List.filterMap_nil, List.append_nil]
    exact replays.recipients
  · rw [BuilderLog.lastRate?, List.filterMap_append, List.filterMap_cons_none noRate,
      List.filterMap_nil, List.append_nil]
    exact replays.rate

theorem Replays.failed (replays : params.Replays log) (use : BuilderUse)
    {outcome : Outcome Unit} (failed : outcome ≠ .value ()) :
    params.Replays (log ++ [(use, outcome)]) := by
  cases outcome with
  | value done => exact absurd rfl failed
  | failure error => cases use <;> exact replays.idle rfl rfl
  | halted halt => cases use <;> exact replays.idle rfl rfl

theorem Replays.recipient (replays : params.Replays log) {address : String} {amount : UInt64}
    {recipient : BitcoinAddress} (parsed : BitcoinAddress.parse? address = some recipient) :
    ({ params with recipients := params.recipients ++ [(recipient, amount)] } :
      BuilderParams).Replays (log ++ [(.recipient address amount, .value ())]) := by
  refine ⟨?_, ?_⟩
  · have added : BuilderLog.added (log ++ [(.recipient address amount, .value ())]) =
        log.added ++ [(address, amount)] := List.filterMap_append
    have payment : [(BitcoinAddress.parse? address, amount)] = [(some recipient, amount)] := by
      rw [parsed]
    rw [added, List.map_append, List.map_append, replays.recipients]
    exact congrArg (_ ++ ·) payment.symm
  · have unset : BuilderLog.lastRate? (log ++ [(.recipient address amount, .value ())]) =
        log.lastRate? := by
      rw [BuilderLog.lastRate?, List.filterMap_append]
      exact congrArg List.getLast? (List.append_nil _)
    rw [unset]
    exact replays.rate

theorem Replays.rate_set (replays : params.Replays log) {satPerVb : UInt64}
    (fits : satPerVb.toNat * 250 < values64) :
    ({ params with rate := some (UInt64.ofNat (satPerVb.toNat * 250)) } :
      BuilderParams).Replays (log ++ [(.rate satPerVb, .value ())]) := by
  refine ⟨?_, ?_⟩
  · have unpaid : BuilderLog.added (log ++ [(.rate satPerVb, .value ())]) = log.added := by
      rw [BuilderLog.added, List.filterMap_append]
      exact List.append_nil _
    rw [unpaid]
    exact replays.recipients
  · have last : BuilderLog.lastRate? (log ++ [(.rate satPerVb, .value ())]) = some satPerVb := by
      rw [BuilderLog.lastRate?, List.filterMap_append]
      exact List.getLast?_concat
    rw [last, Option.map_some, Option.map_some, UInt64.toNat_ofNat_of_lt' fits]

/-- What was told is all in the log. -/
theorem Replays.unique {other : BuilderParams} (replays : params.Replays log)
    (also : other.Replays log) : params = other := by
  have recipients : params.recipients = other.recipients := by
    refine List.map_injective_iff.mpr ?_ (replays.recipients.trans also.recipients.symm)
    rintro ⟨first, amount⟩ ⟨second, _⟩ same
    obtain ⟨recipients, rfl⟩ := Prod.mk.inj same
    rw [Option.some.inj recipients]
  have rate : params.rate = other.rate :=
    Option.map_injective (fun _ _ => UInt64.toNat.inj) (replays.rate.trans also.rate.symm)
  cases params
  cases other
  cases recipients
  cases rate
  rfl

end BuilderParams

/-! ### What the calls do -/

section Calls

variable {library : NativeLibrary} {address place : Address} {params : BuilderParams}
  {process : Host (NativeHeap engine)} {log : BuilderLog} {state : OpenWallet engine}

/-- A text that has gone out is read again as it was. -/
theorem Body.text?_of_argumentOctets {text name : String} {octets : Bytes}
    (out : argumentOctets text name = .ok octets) : Body.text? (some octets) = some text := by
  rw [argumentOctets] at out
  cases found : (Utf8.encode text).findIdx? (· == 0) with
  | some position => simp [found] at out
  | none =>
    simp only [found, Except.ok.injEq] at out
    subst out
    have nonzero : ∀ octet ∈ Utf8.encode text, octet ≠ 0 := by
      simpa [List.findIdx?_eq_none_iff] using found
    show (Utf8.decode (Utf8.encode text).untilZero).toOption = _
    rw [Bytes.untilZero_of_forall_ne nonzero, Utf8.decode_encode]
    rfl

/-- A builder that is told something returns, and keeps what it was told, or fails and keeps nothing
of it. -/
theorem Surroundings.query_builderCall
    (told : process.native.object? address = some (.builder params)) (call : BuilderCall) :
    let answer := (nativeSurroundings engine loader).query library.id (call.entry address)
      (fun _ => Run.pure ()) process
    (∃ later, call.told? params = some later ∧
        answer.map id Host.native = (.value (), process.native.replace address (.builder later))) ∨
      ∃ error, call.told? params = none ∧
        answer.map id Host.native = (.failure error, process.native) := by
  intro answer
  rcases call.ofEntry_apply told with ⟨later, accepted, ended⟩ | ⟨fault, refused, ended⟩
  · exact .inl ⟨later, accepted, Surroundings.query_of_value ended fun _ => rfl⟩
  · exact .inr ⟨_, refused, Surroundings.query_of_refused ended⟩

/-- A question that tells a builder nothing, read by what does nothing to the native side. -/
theorem NativeHeap.Keeps.query (keeps : process.native.Keeps address params)
    {id : LibraryId} {entry : Entry payload} (silent : ¬ entry.Tells address)
    {convert : payload.Raw → Action (NativeHeap engine) Content}
    (quiet : ∀ raw process, (convert raw process).2.native = process.native) :
    ((nativeSurroundings engine loader).query id entry convert process).2.native.Keeps address
      params := by
  have answered := keeps.answer silent
  rcases reached : process.native.answer entry with ⟨reply, after⟩
  rw [reached] at answered
  have given : ∀ error kind, Release.transit payload error ≠ .object kind address :=
    fun _ _ same => Release.noConfusion same
  have replied : (nativeSurroundings engine loader).side.answer id entry process.native =
      (reply, after) := reached
  rw [Surroundings.query, Run.bind_apply, Surroundings.ask, replied]
  cases reply with
  | none => exact answered
  | some transit =>
    obtain ⟨raw, error⟩ := transit
    cases error with
    | some error => exact answered.release (given _)
    | none =>
      let asked : Host (NativeHeap engine) := { process with
        native := after
        journal := .asked id payload entry (some ⟨raw, none⟩) :: process.journal }
      have kept : (convert raw asked).2.native.Keeps address params := by
        rw [quiet raw asked]
        exact answered
      exact kept.release (given none)

/-- A payment is added if its address can be read, and if not, nothing has happened. -/
theorem Surroundings.addRecipient_cases (loader : Loader) (library : NativeLibrary)
    (told : process.native.object? address = some (.builder params)) (text : String)
    (amount : UInt64) :
    let added := (nativeSurroundings engine loader).addRecipient ⟨⟨library, some address⟩⟩ text
      amount process
    (∃ recipient, BitcoinAddress.parse? text = some recipient ∧ added.map id Host.native =
        (.value (), process.native.replace address (.builder
          { params with recipients := params.recipients ++ [(recipient, amount)] }))) ∨
      ∃ error, added.map id Host.native = (.failure error, process.native) := by
  intro added
  cases out : argumentOctets text "address" with
  | error error =>
    refine .inr ⟨error, ?_⟩
    simp only [added, addRecipient, out]
    rfl
  | ok octets =>
    have asked : added = (nativeSurroundings engine loader).query library.id
        ((BuilderCall.recipient (some octets) amount).entry address) (fun _ => Run.pure ())
        process := by
      simp only [added, addRecipient, out]
      rfl
    rw [asked]
    rcases query_builderCall told (.recipient (some octets) amount) with
      ⟨later, accepted, ended⟩ | ⟨error, -, ended⟩
    · rw [BuilderCall.told?, Body.text?_of_argumentOctets out, Option.bind_some,
        Option.map_eq_some_iff] at accepted
      obtain ⟨recipient, parsed, rfl⟩ := accepted
      exact .inl ⟨recipient, parsed, ended⟩
    · exact .inr ⟨error, ended⟩

/-- A rate is set if it fits a word as it is kept, and if not, nothing has happened. -/
theorem Surroundings.feeRate_cases (loader : Loader) (library : NativeLibrary)
    (told : process.native.object? address = some (.builder params)) (satPerVb : UInt64) :
    let set := (nativeSurroundings engine loader).feeRate ⟨⟨library, some address⟩⟩ satPerVb process
    (satPerVb.toNat * 250 < values64 ∧ set.map id Host.native =
        (.value (), process.native.replace address (.builder
          { params with rate := some (UInt64.ofNat (satPerVb.toNat * 250)) }))) ∨
      ∃ error, set.map id Host.native = (.failure error, process.native) := by
  intro set
  rcases query_builderCall told (.rate satPerVb) with ⟨later, accepted, ended⟩ | ⟨error, -, ended⟩
  · rw [BuilderCall.told?, Option.ite_none_right_eq_some] at accepted
    obtain ⟨fits, told⟩ := accepted
    cases told
    exact .inl ⟨fits, ended⟩
  · exact .inr ⟨error, ended⟩

/-- Building tells a builder nothing. -/
theorem NativeHeap.Keeps.finish (keeps : process.native.Keeps address params) (wallet : Wallet) :
    ((nativeSurroundings engine loader).finish ⟨⟨library, some address⟩⟩ wallet
      process).2.native.Keeps address params := by
  cases live : wallet.handle.slot with
  | none =>
    simp only [Surroundings.finish, Handle.address, live]
    exact keeps
  | some place =>
    simp only [Surroundings.finish, Handle.address, live]
    have silent : ¬ (Entry.finish (some address) (some place)).Tells address := id
    refine keeps.query silent fun raw process => ?_
    cases raw <;> rfl

/-- A call on a builder whose log says what it was told. -/
theorem BuilderUse.make_keeps (keeps : process.native.Keeps address params)
    (replays : params.Replays log) (use : BuilderUse) :
    let made := use.make (nativeSurroundings engine loader) ⟨⟨library, some address⟩⟩ process
    ∃ later : BuilderParams, made.2.native.Keeps address later ∧
      later.Replays (log ++ [(use, made.1)]) := by
  intro made
  have changed : ∀ {later : BuilderParams}, made.1 = .value () →
      made.2.native = process.native.replace address (.builder later) →
      later.Replays (log ++ [(use, .value ())]) →
      ∃ later : BuilderParams, made.2.native.Keeps address later ∧
        later.Replays (log ++ [(use, made.1)]) := by
    intro later outcome native accepted
    rw [outcome, native]
    exact ⟨later, ⟨NativeHeap.object?_replace_self keeps.told _, keeps.within⟩, accepted⟩
  have unchanged : ∀ {error}, made.1 = .failure error → made.2.native = process.native →
      ∃ later : BuilderParams, made.2.native.Keeps address later ∧
        later.Replays (log ++ [(use, made.1)]) := by
    intro error outcome native
    rw [outcome, native]
    exact ⟨params, keeps, replays.failed use (by simp)⟩
  cases use with
  | recipient text amount =>
    rcases Surroundings.addRecipient_cases loader library keeps.told text amount with
      ⟨recipient, parsed, ended⟩ | ⟨error, ended⟩
    · obtain ⟨outcome, native⟩ := Host.of_seen ended
      exact changed outcome native (replays.recipient parsed)
    · obtain ⟨outcome, native⟩ := Host.of_seen ended
      exact unchanged outcome native
  | rate satPerVb =>
    rcases Surroundings.feeRate_cases loader library keeps.told satPerVb with
      ⟨fits, ended⟩ | ⟨error, ended⟩
    · obtain ⟨outcome, native⟩ := Host.of_seen ended
      exact changed outcome native (replays.rate_set fits)
    · obtain ⟨outcome, native⟩ := Host.of_seen ended
      exact unchanged outcome native
  | finish wallet =>
    have finished : made.2 = ((nativeSurroundings engine loader).finish
        ⟨⟨library, some address⟩⟩ wallet process).2 := by
      simp only [made, make, Run.bind_apply]
      rcases (nativeSurroundings engine loader).finish ⟨⟨library, some address⟩⟩ wallet process with
        ⟨outcome, after⟩
      cases outcome <;> rfl
    refine ⟨params, ?_, replays.idle rfl rfl⟩
    rw [finished]
    exact keeps.finish wallet

/-! ### What is built -/

/-- What the building of these payments at this rate comes to: the engine builds them from the
wallet's funds, and the wallet that it returns takes the place of the one before and is written to
its store. -/
def NativeHeap.building (place : Address) (state : OpenWallet engine) (params : BuilderParams)
    (heap : NativeHeap engine) : Attempt NativeFault PartialTransaction × NativeHeap engine :=
  let (attempt, changed, world) := engine.build params.plan state.wallet heap.world
  Body.conclude place { state with wallet := changed } .build attempt { heap with world := world }

/-- What a caller gets of a building: the transaction behind a handle, or the error. -/
def NativeHeap.finished (library : NativeLibrary) :
    Attempt NativeFault PartialTransaction × NativeHeap engine →
      Outcome Psbt × NativeHeap engine
  | (.value signed, after) =>
    (.value ⟨⟨library, some (after.made + 1)⟩⟩, (after.handObject (.psbt signed)).2)
  | (.refused fault, after) => (.failure fault.bridged, after)
  | (.panicked text, after) => (.failure (NativeFault.panicked text).bridged, after)

theorem Surroundings.finish_apply {wallet : Wallet} (live : wallet.handle.slot = some place) :
    (nativeSurroundings engine loader).finish ⟨⟨library, some address⟩⟩ wallet process =
      (nativeSurroundings engine loader).query library.id (.finish (some address) (some place))
        (fun raw => do
          let handle ← Handle.wrap .psbt library raw
          pure ⟨handle⟩) process := by
  simp only [finish, Handle.address, live]
  rfl

/-- Addresses of the wallet's chain: the engine is asked for what the builder was told. -/
theorem Surroundings.finish_of_fits {wallet : Wallet} (live : wallet.handle.slot = some place)
    (told : process.native.object? address = some (.builder params))
    (held : process.native.object? place = some (.wallet state))
    (fit : ∀ recipient ∈ params.recipients, recipient.1.fits state.chain = true) :
    ((nativeSurroundings engine loader).finish ⟨⟨library, some address⟩⟩ wallet process).map id
        Host.native =
      NativeHeap.finished library (process.native.building place state params) := by
  have built : Body.finish (some address) (some place) process.native =
      process.native.building place state params := Body.finish_apply told held fit
  have entered : Body.ofEntry (.finish (some address) (some place)) process.native =
      (Body.finish (some address) (some place) >>= fun signed => Body.newObject (.psbt signed))
        process.native := rfl
  rw [Body.bind_apply, built] at entered
  rw [finish_apply live]
  generalize process.native.building place state params = ended at entered ⊢
  obtain ⟨attempt, after⟩ := ended
  cases attempt with
  | value signed => exact query_of_value entered fun _ => rfl
  | refused fault => exact query_of_refused entered
  | panicked text => exact query_of_panicked entered

/-- An address of another chain: nobody is asked for anything. -/
theorem Surroundings.finish_of_foreign {wallet : Wallet} (live : wallet.handle.slot = some place)
    (told : process.native.object? address = some (.builder params))
    (held : process.native.object? place = some (.wallet state))
    (foreign : ¬∀ recipient ∈ params.recipients, recipient.1.fits state.chain = true) :
    ∃ reason, ((nativeSurroundings engine loader).finish ⟨⟨library, some address⟩⟩ wallet
      process).map id Host.native = (.failure (.native "AddressNetwork" reason), process.native) := by
  obtain ⟨reason, ended⟩ := Body.finish_foreign told held foreign
  have entered : Body.ofEntry (.finish (some address) (some place)) process.native =
      (.refused (.foreignAddress reason), process.native) := by
    show (Body.finish (some address) (some place) >>= _) process.native = _
    rw [Body.bind_apply, ended]
  rw [finish_apply live]
  exact ⟨_, query_of_refused entered⟩

/-- A new builder has been told nothing. -/
theorem Surroundings.newBuilder_keeps {first start : Host (NativeHeap engine)}
    {builder : TxBuilder}
    (made : (nativeSurroundings engine loader).newBuilder first = (.value builder, start)) :
    ∃ library address, builder = ⟨⟨library, some address⟩⟩ ∧
      start.native.Keeps address ⟨[], none⟩ := by
  rw [newBuilder, Run.bind_apply] at made
  rcases bound : (nativeSurroundings engine loader).library first with ⟨outcome, process⟩
  rw [bound] at made
  cases outcome with
  | failure error => cases made
  | halted halt => cases made
  | value library =>
    cases made
    refine ⟨library, process.native.made + 1, rfl, ?_, Nat.le_refl _⟩
    show List.lookup _ (_ :: process.native.objects) = _
    rw [List.lookup_cons_self]

end Calls

/-- As long as a builder is not released, it has been told what its log says. -/
theorem BuilderRun.keeps {start process : Host (NativeHeap engine)} {library : NativeLibrary}
    {address : Address} {log : BuilderLog} (blank : start.native.Keeps address ⟨[], none⟩)
    (run : BuilderRun loader ⟨⟨library, some address⟩⟩ start log process) :
    ∃ params : BuilderParams, process.native.Keeps address params ∧ params.Replays log := by
  -- By induction on the calls: the object at the address goes along with the log.
  induction run with
  | start => exact ⟨_, blank, .nil⟩
  | call use _ inductionHypothesis =>
    obtain ⟨params, keeps, replays⟩ := inductionHypothesis
    exact use.make_keeps keeps replays
  | elsewhere _ slot passes inductionHypothesis =>
    obtain ⟨params, keeps, replays⟩ := inductionHypothesis
    cases slot
    exact ⟨params, keeps.passes passes, replays⟩

/-- Whatever was called on a new builder, and whatever happened beside, with the wallet at hand it
builds exactly the payments of the calls that returned, in their order and as often as they were
made, at the rate of the last call that returned and set one; what the caller gets and what becomes
of the memory is what that building comes to. Where one of the addresses is of another chain, that is
the error, and nobody has been asked for anything. -/
theorem finish_replays_log {builder : TxBuilder} {first start process : Host (NativeHeap engine)}
    {log : BuilderLog}
    (made : (nativeSurroundings engine loader).newBuilder first = (.value builder, start))
    (run : BuilderRun loader builder start log process) :
    ∃ params : BuilderParams, params.Replays log ∧ ∀ wallet : Wallet,
      let finish := (nativeSurroundings engine loader).finish builder wallet process
      (wallet.handle.slot = none → finish = (.failure (.useAfterFree .wallet), process)) ∧
      ∀ place state, wallet.handle.slot = some place →
        process.native.object? place = some (.wallet state) →
        if ∀ recipient ∈ params.recipients, recipient.1.fits state.chain = true then
          finish.map id Host.native =
            NativeHeap.finished builder.handle.library
              (process.native.building place state params)
        else
          ∃ reason, finish.map id Host.native =
            (.failure (.native "AddressNetwork" reason), process.native) := by
  obtain ⟨library, address, rfl, blank⟩ := Surroundings.newBuilder_keeps made
  obtain ⟨params, keeps, replays⟩ := run.keeps blank
  refine ⟨params, replays, fun wallet => ⟨fun gone => ?_, fun place state live held => ?_⟩⟩
  · simp only [Surroundings.finish, Handle.address, gone]
    rfl
  · split
    next fit => exact Surroundings.finish_of_fits live keeps.told held fit
    next foreign => exact Surroundings.finish_of_foreign live keeps.told held foreign

/-- Makes a call and writes down what became of it. -/
def BuilderUse.note {State : Type} (around : Surroundings State) (builder : TxBuilder)
    (noted : BuilderLog × Host State) (use : BuilderUse) : BuilderLog × Host State :=
  (noted.1 ++ [(use, (use.make around builder noted.2).1)], (use.make around builder noted.2).2)

theorem BuilderRun.note_all {builder : TxBuilder} {start : Host (NativeHeap engine)}
    (uses : List BuilderUse) {noted : BuilderLog × Host (NativeHeap engine)}
    (run : BuilderRun loader builder start noted.1 noted.2) :
    let later := uses.foldl (BuilderUse.note (nativeSurroundings engine loader) builder) noted
    BuilderRun loader builder start later.1 later.2 := by
  induction uses generalizing noted with
  | nil => exact run
  | cons use rest inductionHypothesis => exact inductionHypothesis (run.call use)

/-- A process that has bound a library and has one wallet open. -/
def loneWalletProcess : Host (NativeHeap offlineEngine) :=
  ⟨none, ⟨some (.ok ⟨0, "linked", abiVersion⟩), 1⟩,
    ⟨.empty ["/tmp"], [(1, .wallet ⟨loneKeyWallet, .memory 0, .regtest⟩)], 1, 1⟩, .zero, []⟩

/-- Calls on a builder, many of which fail: a text with a zero character, one that is no
address, a rate that is too large, a building without funds, and one from a released wallet. -/
def mixedUses : List BuilderUse :=
  [.recipient "bcrt1qqyqszqgpqyqszqgpqyqszqgpqyqszqgpvxat9t" 1000, .recipient "\x00" 5,
   .rate 2, .recipient "INVALID_ADDRESS" 7,
   .recipient "bcrt1qqyqszqgpqyqszqgpqyqszqgpqyqszqgpvxat9t" 1000, .rate 73786976294838207,
   .rate 3, .finish ⟨⟨⟨0, "linked", abiVersion⟩, some 1⟩, .regtest⟩,
   .finish ⟨⟨⟨0, "linked", abiVersion⟩, none⟩, .regtest⟩]

/-- What a builder has been told by these calls. -/
def mixedParams : BuilderParams :=
  ⟨List.replicate 2 (.witness "bcrt" 0 (List.replicate 20 1), 1000), some 750⟩

/-- The chain of an open wallet. -/
def NativeHeap.chainAt? (heap : NativeHeap engine) (place : Address) : Option Chain :=
  match heap.object? place with
  | some (.wallet state) => some state.chain
  | _ => none

theorem NativeHeap.exists_of_chainAt? {heap : NativeHeap engine} {place : Address} {chain : Chain}
    (found : heap.chainAt? place = some chain) :
    ∃ state, heap.object? place = some (.wallet state) ∧ state.chain = chain := by
  rw [chainAt?] at found
  split at found
  next state held => exact ⟨state, held, Option.some.inj found⟩
  next => cases found

theorem finish_replays_log_mixed :
    let around := nativeSurroundings offlineEngine fun _ => .error "absent"
    let builder : TxBuilder := ⟨⟨⟨0, "linked", abiVersion⟩, some 2⟩⟩
    let wallet : Wallet := ⟨⟨⟨0, "linked", abiVersion⟩, some 1⟩, .regtest⟩
    let start := (around.newBuilder loneWalletProcess).2
    let made := mixedUses.foldl (BuilderUse.note around builder) ([], start)
    made.1.length = 9 ∧ mixedParams.Replays made.1 ∧
      ∃ state, made.2.native.object? 1 = some (.wallet state) ∧
        (around.finish builder wallet made.2).map id Host.native =
          NativeHeap.finished ⟨0, "linked", abiVersion⟩
            (made.2.native.building 1 state mixedParams) := by
  intro around builder wallet start made
  have payments : made.1.added = List.replicate 2
      ("bcrt1qqyqszqgpqyqszqgpqyqszqgpqyqszqgpvxat9t", 1000) := by decide +kernel
  have rate : made.1.lastRate? = some 3 := by decide +kernel
  have expected : mixedParams.Replays made.1 := by
    refine ⟨?_, ?_⟩
    · rw [payments]
      decide +kernel
    · rw [rate]
      rfl
  have chain : made.2.native.chainAt? 1 = some .regtest := by decide +kernel
  obtain ⟨state, held, isRegtest⟩ := NativeHeap.exists_of_chainAt? chain
  have began : around.newBuilder loneWalletProcess = (.value builder, start) := rfl
  have run : BuilderRun (fun _ => .error "absent") builder start made.1 made.2 :=
    BuilderRun.note_all mixedUses .start
  obtain ⟨params, replays, finishes⟩ := finish_replays_log began run
  obtain rfl := replays.unique expected
  have fit : ∀ recipient ∈ mixedParams.recipients, recipient.1.fits state.chain = true := by
    rw [isRegtest]
    decide
  have finished := (finishes wallet).2 1 state rfl held
  rw [if_pos fit] at finished
  exact ⟨by decide +kernel, expected, state, held, finished⟩

end WalletBridge
