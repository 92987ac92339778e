/-
This file proves that the settings of a connection reach the engine as the caller chose them. On
the way an absent timeout is a negative number of a wider type, an absent proxy is a null pointer,
and the two counts are kept at one or more in more than one place: by the setters, but not where
settings are written or read as data, and again by the native side. All of that is without a trace
in what the engine works with, which is the address, the proxy, the retries and the timeout as they
are chosen, and the two counts as they are chosen or one in the place of zero.

A setting with a zero character is the one thing that cannot go out, and then nothing is called.
-/

import WalletBridge.Proofs.SentTexts

namespace WalletBridge

variable {engine : WalletEngine} {loader : Loader}

/-! ### What the engine works with -/

/-- The settings that a connection is made and used with. -/
structure WorkingSettings where
  request : ConnectionRequest
  /-- How many unused scripts end a search. -/
  stopGap : UInt64
  /-- How many questions are asked at once. -/
  batchSize : UInt64

/-- A count, or one if it is zero. -/
def atLeastOne (count : UInt64) : UInt64 := if count = 0 then 1 else count

/-- The settings as they are to be worked with. -/
def ElectrumConfig.working (config : ElectrumConfig) : WorkingSettings where
  request := ⟨config.url, config.socks5, config.retry, config.timeout⟩
  stopGap := atLeastOne config.stopGap
  batchSize := atLeastOne config.batchSize

/-- What a caller gets when the engine connects with some settings, and the native side then: a
connection that holds the two counts, behind a handle, or the engine's error. -/
def NativeHeap.connecting (library : NativeLibrary) (settings : WorkingSettings)
    (heap : NativeHeap engine) : Outcome Blockchain × NativeHeap engine :=
  let (attempt, world) := engine.connect settings.request heap.world
  let after := { heap with world := world }
  match attempt with
  | .value client =>
    (.value ⟨⟨library, some (heap.made + 1)⟩⟩,
      (after.handObject (.blockchain ⟨client, settings.stopGap, settings.batchSize⟩)).2)
  | .refused reason => (.failure (NativeFault.connection reason).bridged, after)
  | .panicked text => (.failure (NativeFault.panicked text).bridged, after)

/-! ### Counts and timeouts -/

theorem max_one_eq_atLeastOne (count : UInt64) : max count 1 = atLeastOne count := by
  show (if count ≤ 1 then 1 else count) = if count = 0 then 1 else count
  have small : count ≤ 1 ↔ count = 0 ∨ count = 1 := by
    rw [UInt64.le_iff_toNat_le, ← UInt64.toNat_inj, ← UInt64.toNat_inj]
    exact Nat.le_one_iff_eq_zero_or_eq_one
  grind

theorem atLeastOne_atLeastOne (count : UInt64) :
    atLeastOne (atLeastOne count) = atLeastOne count := by
  grind [atLeastOne]

/-- The number that a timeout is on the way. -/
theorem Body.timeoutOf_ofNat (seconds : UInt8) :
    Body.timeoutOf (Int16.ofNat seconds.toNat) = some seconds := by
  have small : seconds.toNat < 256 := seconds.toNat_lt
  have same : (Int16.ofNat seconds.toNat).toInt = seconds.toNat :=
    Int16.toInt_ofNat_of_lt (by omega)
  rw [Body.timeoutOf, same, if_pos ⟨by omega, by omega⟩, Int.toNat_natCast, UInt8.ofNat_toNat]

/-- A timeout comes back as it went out, and none as none. -/
theorem ElectrumConfig.timeoutOf_toRaw (config : ElectrumConfig) (url : Bytes)
    (socks5 : NativeString) :
    Body.timeoutOf (config.toRaw url socks5).timeout = config.timeout := by
  rw [ElectrumConfig.toRaw]
  cases config.timeout with
  | none => rfl
  | some seconds => exact Body.timeoutOf_ofNat seconds

/-! ### Setters -/

/-- A setter with what it is to set. -/
inductive SettingChoice where
  | socks5 (proxy : String)
  | retry (count : UInt8)
  | timeout (seconds : UInt8)
  | stopGap (count : UInt64)
  | batchSize (count : UInt64)

namespace SettingChoice

/-- Calls the setter. -/
def set (config : ElectrumConfig) : SettingChoice → ElectrumConfig
  | .socks5 proxy => config.withSocks5 proxy
  | .retry count => config.withRetry count
  | .timeout seconds => config.withTimeout seconds
  | .stopGap count => config.withStopGap count
  | .batchSize count => config.withBatchSize count

/-- Writes the member itself, as it is given. -/
def write (config : ElectrumConfig) : SettingChoice → ElectrumConfig
  | .socks5 proxy => { config with socks5 := some proxy }
  | .retry count => { config with retry := count }
  | .timeout seconds => { config with timeout := some seconds }
  | .stopGap count => { config with stopGap := count }
  | .batchSize count => { config with batchSize := count }

/-- Settings that are worked with alike stay so, whether the next member is set or written. -/
theorem working_set {config other : ElectrumConfig} (alike : config.working = other.working)
    (choice : SettingChoice) : (choice.set config).working = (choice.write other).working := by
  simp only [ElectrumConfig.working, WorkingSettings.mk.injEq, ConnectionRequest.mk.injEq] at alike
  obtain ⟨⟨url, socks5, retry, timeout⟩, stopGap, batchSize⟩ := alike
  cases choice <;>
    simp only [set, write, ElectrumConfig.working, ElectrumConfig.withSocks5,
      ElectrumConfig.withRetry, ElectrumConfig.withTimeout, ElectrumConfig.withStopGap,
      ElectrumConfig.withBatchSize, max_one_eq_atLeastOne, atLeastOne_atLeastOne, url, socks5,
      retry, timeout, stopGap, batchSize]

/-- A chain of setters is worked with as if its members had been written. -/
theorem working_foldl_set (choices : List SettingChoice) {config other : ElectrumConfig}
    (alike : config.working = other.working) :
    (choices.foldl set config).working = (choices.foldl write other).working := by
  induction choices generalizing config other with
  | nil => exact alike
  | cons choice choices inductionHypothesis => exact inductionHypothesis (working_set alike choice)

end SettingChoice

/-! ### The way to the engine -/

/-- A text without a zero character goes out, and is read as it was. -/
theorem exists_readsAs_of_zeroFree {text : String} (zeroFree : '\x00' ∉ text.toList)
    (name : String) :
    ∃ octets, argumentOctets text name = .ok octets ∧
      NativeString.ReadsAs (some octets) text := by
  have none := (textFault?_eq_none (text, name)).mpr zeroFree
  rw [textFault?] at none
  cases out : argumentOctets text name with
  | ok octets => exact ⟨octets, rfl, NativeString.readsAs_of_argumentOctets out⟩
  | error fault =>
    rw [out] at none
    cases none

/-- A text with a zero character has a first one. -/
theorem exists_firstZeroAt {text : String} (zero : '\x00' ∈ text.toList) :
    ∃ position, FirstZeroAt text position := by
  obtain ⟨front, back, split, zeroFree⟩ := List.eq_append_cons_of_mem zero
  exact ⟨_, front, back, split, zeroFree, rfl⟩

/-- The native side reads its settings back and connects with them. -/
theorem Body.connect_apply {config : ElectrumConfig} {url : Bytes} {socks5 : NativeString}
    (readUrl : NativeString.ReadsAs (some url) config.url)
    (readSocks5 : socks5.ReadsAsOptional config.socks5) (heap : NativeHeap engine) :
    Body.connect (some (config.toRaw url socks5)) heap =
      (Body.withWorld .connection (engine.connect config.working.request) >>= fun client =>
        pure ⟨client, config.working.stopGap, config.working.batchSize⟩) heap := by
  -- The timeout depends on neither of the two strings, so any others may stand beside it.
  have entered : Body.connect (some (config.toRaw url socks5)) heap =
      (Body.text "url" (some url) >>= fun url => Body.optionalText "socks5" socks5 >>= fun socks5 =>
        Body.withWorld .connection (engine.connect ⟨url, socks5, config.retry,
          Body.timeoutOf (config.toRaw (Utf8.encode url) none).timeout⟩) >>= fun client =>
        pure ⟨client, max config.stopGap 1, max config.batchSize 1⟩) heap := rfl
  rw [entered, Body.bind_apply, readUrl engine "url" heap]
  show (Body.optionalText "socks5" socks5 >>= _) heap = _
  rw [Body.bind_apply, readSocks5 engine "socks5" heap]
  simp only [ElectrumConfig.timeoutOf_toRaw, max_one_eq_atLeastOne]
  rfl

/-- Behind its checks a connection is what the engine makes of the settings. -/
theorem Surroundings.query_connect {config : ElectrumConfig} {url : Bytes} {socks5 : NativeString}
    (readUrl : NativeString.ReadsAs (some url) config.url)
    (readSocks5 : socks5.ReadsAsOptional config.socks5) (library : NativeLibrary)
    (process : Host (NativeHeap engine)) :
    ((nativeSurroundings engine loader).query library.id (.connect (some (config.toRaw url socks5)))
        (fun raw => do
          let handle ← Handle.wrap .blockchain library raw
          pure (Blockchain.mk handle)) process).map id Host.native =
      process.native.connecting library config.working := by
  have entered : Body.ofEntry (.connect (some (config.toRaw url socks5))) process.native =
      (Body.connect (some (config.toRaw url socks5)) >>= fun source =>
        Body.newObject (.blockchain source)) process.native := rfl
  rw [Body.bind_apply, Body.connect_apply readUrl readSocks5, Body.bind_apply,
    Body.withWorld] at entered
  rw [NativeHeap.connecting]
  generalize engine.connect config.working.request process.native.world = ended at entered ⊢
  obtain ⟨attempt, world⟩ := ended
  cases attempt with
  | value client => exact query_of_value entered fun _ => rfl
  | refused reason => exact query_of_refused entered
  | panicked text => exact query_of_panicked entered

namespace ElectrumConfig

variable {config : ElectrumConfig} {process : Host (NativeHeap engine)} {library : NativeLibrary}

/-- Neither the address nor the proxy has a zero character. -/
def IsZeroFree (config : ElectrumConfig) : Prop :=
  '\x00' ∉ config.url.toList ∧ ∀ proxy ∈ config.socks5, '\x00' ∉ proxy.toList

/-- Settings without a zero character go out, and are read as they were. -/
theorem IsZeroFree.goes_out (zeroFree : config.IsZeroFree) :
    ∃ url socks5, argumentOctets config.url "url" = .ok url ∧
      optionalOctets config.socks5 "socks5" = .ok socks5 ∧
      NativeString.ReadsAs (some url) config.url ∧ socks5.ReadsAsOptional config.socks5 := by
  obtain ⟨urlFree, socks5Free⟩ := zeroFree
  obtain ⟨url, urlOut, readUrl⟩ := exists_readsAs_of_zeroFree urlFree "url"
  cases proxied : config.socks5 with
  | none => exact ⟨url, none, urlOut, rfl, readUrl, fun _ _ _ => rfl⟩
  | some proxy =>
    obtain ⟨socks5, socks5Out, readSocks5⟩ :=
      exists_readsAs_of_zeroFree (socks5Free proxy proxied) "socks5"
    refine ⟨url, some socks5, urlOut, ?_, readUrl, readSocks5.optional⟩
    rw [optionalOctets, socks5Out]
    rfl

theorem connect_of_zeroFree (zeroFree : config.IsZeroFree)
    (bound : (nativeSurroundings engine loader).boundLibrary process = .ok library) :
    ((nativeSurroundings engine loader).connect config process).map id Host.native =
      process.native.connecting library config.working := by
  obtain ⟨binding, opened⟩ := TextOperation.library_of_bound bound
  obtain ⟨url, socks5, urlOut, socks5Out, readUrl, readSocks5⟩ := zeroFree.goes_out
  rw [Surroundings.connect, opened, urlOut, socks5Out]
  exact Surroundings.query_connect readUrl readSocks5 library (process.withBinding binding)

/-- A zero in the address is found first, and one in the proxy behind an address without. -/
theorem texts_of_zero (zero : ¬config.IsZeroFree) :
    ∃ before name text behind position,
      (TextOperation.connect config).texts = before ++ ⟨name, some text⟩ :: behind ∧
        (∀ earlier ∈ before, earlier.IsZeroFree) ∧ FirstZeroAt text position := by
  -- The address goes out first: only behind one without a zero does the proxy count.
  by_cases inUrl : '\x00' ∈ config.url.toList
  · obtain ⟨position, first⟩ := exists_firstZeroAt inUrl
    exact ⟨[], "url", config.url, _, position, rfl, nofun, first⟩
  · have inSocks5 : ∃ proxy ∈ config.socks5, '\x00' ∈ proxy.toList := by
      by_contra none
      exact zero ⟨inUrl, fun proxy proxied within => none ⟨proxy, proxied, within⟩⟩
    obtain ⟨proxy, proxied, inProxy⟩ := inSocks5
    obtain ⟨position, first⟩ := exists_firstZeroAt inProxy
    have urlFree : ∀ earlier ∈ [SentText.mk "url" (some config.url)], earlier.IsZeroFree :=
      List.forall_mem_singleton.mpr fun text same => Option.some.inj same ▸ inUrl
    refine ⟨[⟨"url", some config.url⟩], "socks5", proxy, [], position, ?_, urlFree, first⟩
    rw [TextOperation.texts, proxied]
    rfl

/-- A setting with a zero character is refused before anything is called. -/
theorem connect_of_zero {State : Type} {around : Surroundings State} {process : Host State}
    (zero : ¬config.IsZeroFree) :
    ∃ fault binding, around.connect config process = (.failure fault, process.withBinding binding) ∧
      ∀ library, around.boundLibrary process = .ok library → fault.kind = .invalidInput := by
  cases bound : around.boundLibrary process with
  | error cause =>
    obtain ⟨binding, found, -⟩ := around.library_apply process
    refine ⟨.linkage cause, binding, ?_, nofun⟩
    rw [Surroundings.connect, Run.bind_apply, found, bound]
    rfl
  | ok library =>
    obtain ⟨before, name, text, behind, position, split, zeroFree, first⟩ := texts_of_zero zero
    have ready : (TextOperation.connect config).Ready around process library := bound
    obtain ⟨binding, refused⟩ :=
      TextOperation.perform_of_firstZeroAt ready split zeroFree first
    exact ⟨zeroFault name position, binding, refused, fun _ _ => rfl⟩

/-- The engine connects with the settings as they are, whoever made them: with the address, the
proxy, the retries and the timeout that were chosen, and with the two counts that were chosen or one
for zero. Where the address or the proxy has a zero character nothing is called, and the input is
refused if there is a library at all. A chain of setters makes settings that are worked with as if
they had been written. -/
theorem connects_with_chosen_settings (loader : Loader) (config : ElectrumConfig)
    (process : Host (NativeHeap engine)) :
    (∀ library, (nativeSurroundings engine loader).boundLibrary process = .ok library →
        config.IsZeroFree →
          ((nativeSurroundings engine loader).connect config process).map id Host.native =
            process.native.connecting library config.working) ∧
      (¬config.IsZeroFree →
        ∃ fault binding, (nativeSurroundings engine loader).connect config process =
            (.failure fault, process.withBinding binding) ∧
          ∀ library, (nativeSurroundings engine loader).boundLibrary process = .ok library →
            fault.kind = .invalidInput) ∧
      ∀ choices : List SettingChoice,
        (choices.foldl SettingChoice.set config).working =
          (choices.foldl SettingChoice.write config).working :=
  ⟨fun _ bound zeroFree => connect_of_zeroFree zeroFree bound, connect_of_zero,
    fun choices => SettingChoice.working_foldl_set choices rfl⟩

/-- An engine whose connections show what they were made with. -/
def echoEngine : WalletEngine :=
  { offlineEngine with
    Client := ConnectionRequest
    connect := fun request disk => (.value request, disk)
    scan := fun _ _ _ _ disk => (.refused "no answer", disk) }

/-- A process that has bound a library over this engine. -/
def echoProcess : Host (NativeHeap echoEngine) :=
  ⟨none, TextOperation.linkedProcess.binding, .fresh (.empty []), .zero, []⟩

/-- Settings that no setter makes, at the ends of their ranges. -/
def writtenSettings : ElectrumConfig := ⟨"tcp://é", some "", 0, some 255, 0, 7⟩

/-- The greatest timeout and the empty proxy arrive, and a stop gap of zero is one; a proxy that
ends in a zero is refused. -/
theorem connects_with_chosen_settings_written :
    let around := nativeSurroundings echoEngine fun _ => .error "absent"
    (around.connect writtenSettings echoProcess).map id Host.native =
        (.value ⟨⟨TextOperation.linkedLibrary, some 1⟩⟩,
          ⟨.empty [], [(1, .blockchain ⟨⟨"tcp://é", some "", 0, some 255⟩, 1, 7⟩)], 1, 1⟩) ∧
      ∃ fault binding,
        around.connect { writtenSettings with socks5 := some "p\x00" } echoProcess =
            (.failure fault, echoProcess.withBinding binding) ∧
          fault.kind = .invalidInput := by
  intro around
  have bound : around.boundLibrary echoProcess = .ok TextOperation.linkedLibrary := rfl
  have zeroFree : writtenSettings.IsZeroFree :=
    ⟨by decide, fun proxy proxied => Option.some.inj proxied ▸ by decide⟩
  have zero : ¬IsZeroFree { writtenSettings with socks5 := some "p\x00" } :=
    fun free => free.2 _ rfl (by decide)
  obtain ⟨connected, -, -⟩ :=
    connects_with_chosen_settings (fun _ => .error "absent") writtenSettings echoProcess
  obtain ⟨-, refused, -⟩ := connects_with_chosen_settings (fun _ => .error "absent")
    { writtenSettings with socks5 := some "p\x00" } echoProcess
  obtain ⟨fault, binding, ended, kind⟩ := refused zero
  exact ⟨connected _ bound zeroFree, fault, binding, ended, kind _ bound⟩

end ElectrumConfig

end WalletBridge
