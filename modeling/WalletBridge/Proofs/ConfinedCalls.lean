/-
This file tells the operations that work on objects from those that look for a library. An object
keeps the library that made it, so an operation on it never looks at the binding: run with another
binding it ends the same way and leaves everything else the same, and it calls no other library. The
operations that open something are the only ones that ask for the bound library, and they do so
once, before they call anything.

Neither kind frees an object or counts a release; that is left to the session around them.
-/

import WalletBridge.Host.Session
import WalletBridge.Proofs.PointerUse

namespace WalletBridge

/-- An object that is there and was made by a library. -/
structure Object.MadeBy (library : NativeLibrary) (object : Object) : Prop where
  library_eq : object.handle.library = library
  live : object.isLive = true

variable {State Content Other : Type} {around : Surroundings State} {library : NativeLibrary}

namespace Host

/-- A process with another binding. -/
def withBinding (binding : Binding) (process : Host State) : Host State :=
  { process with binding := binding }

/-- What a process can do by calling one library without giving an object back. -/
structure CallsOnly (library : LibraryId) (before after : Host State) : Prop where
  environment : after.environment = before.environment
  explicit : after.lifecycle.explicit = before.lifecycle.explicit
  byDrop : after.lifecycle.byDrop = before.lifecycle.byDrop
  journal : ∃ added, after.journal = added ++ before.journal ∧
    ∀ crossing ∈ added, crossing.library = library ∧ crossing.freed? = none

namespace CallsOnly

variable {id : LibraryId} {before between after process : Host State}

theorem refl (process : Host State) : CallsOnly id process process :=
  ⟨rfl, rfl, rfl, [], rfl, nofun⟩

theorem trans (first : CallsOnly id before between) (second : CallsOnly id between after) :
    CallsOnly id before after := by
  obtain ⟨earlier, journal, calls⟩ := first.journal
  obtain ⟨later, journalAfter, callsAfter⟩ := second.journal
  refine ⟨second.environment.trans first.environment, second.explicit.trans first.explicit,
    second.byDrop.trans first.byDrop, later ++ earlier, ?_, ?_⟩
  · rw [journalAfter, journal, List.append_assoc]
  · exact List.forall_mem_append.mpr ⟨callsAfter, calls⟩

/-- One crossing that gives no object back. -/
theorem single (crossing : Crossing) (native : State) (keeps : crossing.freed? = none) :
    CallsOnly crossing.library process
      { process with native := native, journal := crossing :: process.journal } :=
  ⟨rfl, rfl, rfl, [crossing], rfl, List.forall_mem_singleton.mpr ⟨rfl, keeps⟩⟩

theorem withBinding (calls : CallsOnly id before after) (binding : Binding) :
    CallsOnly id before (after.withBinding binding) :=
  ⟨calls.environment, calls.explicit, calls.byDrop, calls.journal⟩

end CallsOnly

end Host

/-! ### Actions that never look at the binding -/

/-- An action that calls one library only, whatever the binding holds; what it gives is as
described. -/
structure Confined (library : NativeLibrary) (made : Content → Prop)
    (action : Action State Content) : Prop where
  detached : ∀ process binding, action (process.withBinding binding) =
    ((action process).1, (action process).2.withBinding binding)
  calls : ∀ process : Host State, process.CallsOnly library.id (action process).2
  makes : ∀ process content, (action process).1 = .value content → made content

namespace Confined

variable {made : Content → Prop}

/-- The binding is left as it is. -/
theorem binding_eq {action : Action State Content} (confined : Confined library made action)
    (process : Host State) : (action process).2.binding = process.binding := by
  have same := confined.detached process process.binding
  exact congrArg (·.2.binding) same

theorem pure {content : Content} (holds : made content) :
    Confined library made (Run.pure content : Action State Content) where
  detached _ _ := rfl
  calls process := .refl process
  makes := by
    rintro process _ ⟨⟩
    exact holds

theorem fail (error : BridgeError) :
    Confined library made (Run.fail error : Action State Content) :=
  ⟨fun _ _ => rfl, .refl, nofun⟩

theorem lift (result : Except BridgeError Content) (holds : ∀ content, made content) :
    Confined library made (Run.lift result : Action State Content) :=
  ⟨fun _ _ => rfl, .refl, fun _ content _ => holds content⟩

theorem bind {middle : Content → Prop} {last : Other → Prop} {first : Action State Content}
    {next : Content → Action State Other} (confinedFirst : Confined library middle first)
    (confinedNext : ∀ content, middle content → Confined library last (next content)) :
    Confined library last (first >>= next) where
  detached process binding := by
    rw [Run.bind_apply, Run.bind_apply, confinedFirst.detached]
    rcases ended : first process with ⟨content | error | halt, between⟩
    · have holds : middle content := confinedFirst.makes process content (by rw [ended])
      exact (confinedNext content holds).detached between binding
    · rfl
    · rfl
  calls process := by
    have calls := confinedFirst.calls process
    rw [Run.bind_apply]
    rcases ended : first process with ⟨content | error | halt, between⟩
    · have holds : middle content := confinedFirst.makes process content (by rw [ended])
      rw [ended] at calls
      exact calls.trans ((confinedNext content holds).calls between)
    · rwa [ended] at calls
    · rwa [ended] at calls
  makes process result gives := by
    rw [Run.bind_apply] at gives
    rcases ended : first process with ⟨content | error | halt, between⟩ <;> rw [ended] at gives
    · have holds : middle content := confinedFirst.makes process content (by rw [ended])
      exact (confinedNext content holds).makes between result gives
    · cases gives
    · cases gives

/-- A cleanup may give back anything but an object. -/
theorem guarded {body : Action State Content} {freed : Release} (noObject : freed.pointer? = none)
    (confined : Confined library made body) :
    Confined library made (body.guarded (around.release library.id freed)) where
  detached process binding := by
    rw [Run.guarded, confined.detached]
    rfl
  calls process :=
    (confined.calls process).trans (.single (.released library.id freed) _ noObject)
  makes process content gives := confined.makes process content gives

theorem each {Item : Type} {run : Item → Action State Content}
    (confined : ∀ item, Confined library (fun _ => True) (run item)) (items : List Item) :
    Confined library (fun _ => True) (Run.each run items) := by
  induction items with
  | nil => exact pure trivial
  | cons item items inductionHypothesis =>
    refine bind (confined item) fun content _ => ?_
    refine bind inductionHypothesis fun contents _ => ?_
    exact pure trivial

/-! ### Crossing the boundary -/

theorem wrap (kind : ResourceKind) (raw : Option Address) :
    Confined library (fun handle => handle.library = library ∧ handle.isLive = true)
      (Handle.wrap kind library raw : Action State (Handle kind)) := by
  cases raw with
  | none => exact fail _
  | some address =>
    refine ⟨fun _ _ => rfl, fun process => ⟨rfl, rfl, rfl, [], rfl, nofun⟩, ?_⟩
    rintro process _ ⟨⟩
    exact ⟨rfl, rfl⟩

/-- A facade around a wrapped object is an object of the library. -/
theorem wrapInto {Facade : Type} (kind : ResourceKind) (raw : Option Address)
    (build : Handle kind → Facade) (object : Facade → Object)
    (madeBy : ∀ handle : Handle kind, handle.library = library → handle.isLive = true →
      (object (build handle)).MadeBy library) :
    Confined library (fun facade => (object facade).MadeBy library)
      (Handle.wrap kind library raw >>= fun handle => Run.pure (build handle) :
        Action State Facade) :=
  bind (wrap kind raw) fun handle owned => pure (madeBy handle owned.1 owned.2)

theorem takeText (raw : NativeString) (operation : String) :
    Confined library (fun _ => True) (around.takeText library.id raw operation) := by
  cases raw with
  | none => exact fail _
  | some octets => exact guarded rfl (lift (readOwned octets) fun _ => trivial)

theorem sequence {Raw : Type} (freed : List Raw → Nat → Release)
    (noObject : ∀ elements spare, (freed elements spare).pointer? = none)
    (release : Block Raw → Host State → Host State)
    (release_held : ∀ elements spare,
      release (.held elements spare) = around.release library.id (freed elements spare))
    (element : Raw → Except BridgeError Content) (block : Block Raw) :
    Confined library (fun _ => True)
      (toSequence block (release block) fun raw => Run.lift (element raw)) := by
  cases block with
  | null claimed =>
    simp only [toSequence]
    split
    · exact pure trivial
    · exact fail _
  | held elements spare =>
    rw [release_held]
    exact guarded (noObject elements spare)
      (each (fun raw => lift (element raw) fun _ => trivial) elements)

theorem call {payload : Payload} (direct : DirectCall payload) :
    Confined library (fun _ => True) (around.call library.id direct) :=
  ⟨fun _ _ => rfl, fun _ => .single (.handed library.id payload direct _) _ rfl,
    fun _ _ _ => trivial⟩

theorem query {payload : Payload} (entry : Entry payload)
    {convert : payload.Raw → Action State Content}
    (converts : ∀ value, Confined library made (convert value)) :
    Confined library made (around.query library.id entry convert) := by
  have asked : Confined library (fun _ => True) (around.ask library.id entry) :=
    ⟨fun _ _ => rfl, fun _ => .single (.asked library.id payload entry _) _ rfl,
      fun _ _ _ => trivial⟩
  refine bind asked fun reply _ => ?_
  match reply with
  | none => exact fail _
  | some ⟨value, some error⟩ => exact guarded rfl (fail (readError error))
  | some ⟨value, none⟩ => exact guarded rfl (converts value)

/-! ### Facades -/

/-- A look at an argument comes before the calls. -/
theorem checked {result : Except BridgeError Content} {last : Other → Prop}
    {next : Content → Action State Other}
    (confined : ∀ content, Confined library last (next content)) :
    Confined library last (Run.lift result >>= next) :=
  bind (lift result fun _ => trivial) fun content _ => confined content

theorem newWallet (descriptor : String) (change : Option String) (network : Network)
    (database : DatabaseConfig) :
    Confined database.handle.library
      (fun wallet => (Object.wallet wallet).MadeBy database.handle.library)
      (around.newWallet descriptor change network database) := by
  refine checked fun descriptorOctets => checked fun changeOctets => ?_
  refine checked fun networkOctets => checked fun address => ?_
  refine query (.newWallet (some descriptorOctets) changeOctets (some networkOctets) (some address))
    fun raw => ?_
  exact wrapInto .wallet raw (Wallet.mk · network) .wallet fun _ same live => ⟨same, live⟩

theorem peekAddress (wallet : Wallet) (index : UInt32) :
    Confined wallet.handle.library (fun _ => True) (around.peekAddress wallet index) :=
  checked fun address => query (.peekAddress (some address) index) fun raw => takeText raw _

theorem revealNextAddress (wallet : Wallet) :
    Confined wallet.handle.library (fun _ => True) (around.revealNextAddress wallet) :=
  checked fun address => query (.revealNextAddress (some address)) fun raw => takeText raw _

theorem walletBalance (wallet : Wallet) :
    Confined wallet.handle.library (fun _ => True) (around.walletBalance wallet) :=
  checked fun address => query (.balance (some address)) fun _ => pure trivial

theorem listUnspent (wallet : Wallet) :
    Confined wallet.handle.library (fun _ => True) (around.listUnspent wallet) :=
  checked fun address => query (.listUnspent (some address)) fun block =>
    sequence .outputs (fun _ _ => rfl) (around.releaseOutputs _) (fun _ _ => rfl) LocalUtxo.ofRaw
      block

theorem listTransactions (wallet : Wallet) :
    Confined wallet.handle.library (fun _ => True) (around.listTransactions wallet) :=
  checked fun address => query (.listTransactions (some address)) fun block =>
    sequence .transactions (fun _ _ => rfl) (around.releaseTransactions _) (fun _ _ => rfl)
      TransactionDetails.ofRaw block

theorem sync (wallet : Wallet) (blockchain : Blockchain) :
    Confined wallet.handle.library (fun _ => True) (around.sync wallet blockchain) :=
  checked fun walletAddress => checked fun chainAddress =>
    query (.sync (some walletAddress) (some chainAddress)) fun _ => pure trivial

theorem sign (wallet : Wallet) (psbt : Psbt) :
    Confined wallet.handle.library (fun _ => True) (around.sign wallet psbt) :=
  checked fun walletAddress => checked fun psbtAddress =>
    query (.sign (some walletAddress) (some psbtAddress)) fun _ => pure trivial

theorem addRecipient (builder : TxBuilder) (recipient : String) (amount : UInt64) :
    Confined builder.handle.library (fun _ => True)
      (around.addRecipient builder recipient amount) :=
  checked fun octets => checked fun address =>
    query (.addRecipient (some address) (some octets) amount) fun _ => pure trivial

theorem feeRate (builder : TxBuilder) (satPerVb : UInt64) :
    Confined builder.handle.library (fun _ => True) (around.feeRate builder satPerVb) :=
  checked fun address => query (.feeRate (some address) satPerVb) fun _ => pure trivial

/-- A transaction is of the builder's library, whatever the wallet is of. -/
theorem finish (builder : TxBuilder) (wallet : Wallet) :
    Confined builder.handle.library (fun psbt => (Object.psbt psbt).MadeBy builder.handle.library)
      (around.finish builder wallet) :=
  checked fun builderAddress => checked fun walletAddress =>
    query (.finish (some builderAddress) (some walletAddress)) fun raw =>
      wrapInto .psbt raw Psbt.mk .psbt fun _ same live => ⟨same, live⟩

theorem serialize (psbt : Psbt) :
    Confined psbt.handle.library (fun _ => True) (around.serialize psbt) :=
  checked fun address =>
    bind (call (.serialize (some address))) fun raw _ => takeText raw _

theorem txid (psbt : Psbt) : Confined psbt.handle.library (fun _ => True) (around.txid psbt) :=
  checked fun address => bind (call (.txid (some address))) fun raw _ => takeText raw _

end Confined

/-! ### Actions that look for the bound library -/

/-- An action that checks its arguments, asks for the bound library once, and is confined to that
library from then on. -/
inductive Opens (around : Surroundings State) (made : NativeLibrary → Content → Prop) :
    Action State Content → Prop where
  | library {tail : NativeLibrary → Action State Content}
      (confined : ∀ library, Confined library (made library) (tail library)) :
      Opens around made (around.library >>= tail)
  | checked {Middle : Type} {result : Except BridgeError Middle}
      {next : Middle → Action State Content} (opens : ∀ content, Opens around made (next content)) :
      Opens around made (Run.lift result >>= next)

/-- The library that a process has bound, or would bind if it were asked for one. -/
def Surroundings.boundLibrary (around : Surroundings State) (process : Host State) : Bound :=
  (process.binding.bind (.default process.environment) around.loader).1

/-- Asking for the library changes nothing but the binding, and the next one who asks gets the same
answer. -/
theorem Surroundings.library_apply (around : Surroundings State) (process : Host State) :
    ∃ binding,
      around.library process =
        (.ofExcept ((around.boundLibrary process).mapError .linkage),
          process.withBinding binding) ∧
        around.boundLibrary (process.withBinding binding) = around.boundLibrary process := by
  obtain ⟨environment, ⟨slot, nextId⟩, native, lifecycle, journal⟩ := process
  cases slot with
  | none =>
    refine ⟨⟨some ((LibraryConfig.default environment).open around.loader nextId), nextId + 1⟩,
      ?_, rfl⟩
    simp only [Surroundings.library, Surroundings.boundLibrary, Binding.bind, Binding.getOrBind,
      Binding.look, Binding.fill]
    cases (LibraryConfig.default environment).open around.loader nextId <;> rfl
  | some held =>
    refine ⟨⟨some held, nextId⟩, ?_, rfl⟩
    cases held <;> rfl

/-- An action that is confined leaves the bound library as it is. -/
theorem Confined.boundLibrary_eq {made : Content → Prop} {action : Action State Content}
    (confined : Confined library made action) (process : Host State) :
    around.boundLibrary (action process).2 = around.boundLibrary process := by
  rw [Surroundings.boundLibrary, Surroundings.boundLibrary, confined.binding_eq,
    (confined.calls process).environment]

namespace Opens

variable {made : NativeLibrary → Content → Prop} {action : Action State Content}

/-- With a bound library, that one is called, and it stays the bound one. -/
theorem calls_bound (opens : Opens around made action) (process : Host State)
    (bound : around.boundLibrary process = .ok library) :
    process.CallsOnly library.id (action process).2 ∧
      around.boundLibrary (action process).2 = .ok library ∧
      ∀ content, (action process).1 = .value content → made library content := by
  induction opens with
  | library confined =>
    obtain ⟨binding, found, again⟩ := around.library_apply process
    rw [Run.bind_apply, found, bound]
    refine ⟨?_, ?_, (confined library).makes _⟩
    · exact ((Host.CallsOnly.refl process).withBinding binding).trans ((confined library).calls _)
    · exact ((confined library).boundLibrary_eq _).trans (again.trans bound)
  | @checked _ result _ _ inductionHypothesis =>
    cases result with
    | ok content => exact inductionHypothesis content
    | error error => exact ⟨.refl process, bound, nofun⟩

/-- Without a bound library nothing is called. -/
theorem calls_unbound (opens : Opens around made action) (process : Host State)
    {cause : LinkageError} (unbound : around.boundLibrary process = .error cause)
    (id : LibraryId) :
    process.CallsOnly id (action process).2 ∧ ∀ content, (action process).1 ≠ .value content := by
  induction opens with
  | library confined =>
    obtain ⟨binding, refused, _⟩ := around.library_apply process
    rw [Run.bind_apply, refused, unbound]
    exact ⟨(Host.CallsOnly.refl process).withBinding binding, nofun⟩
  | @checked _ result _ _ inductionHypothesis =>
    cases result with
    | ok content => exact inductionHypothesis content
    | error error => exact ⟨.refl process, nofun⟩

/-- Either way one library at most is called, and it made what the action gives. -/
theorem calls (opens : Opens around made action) (process : Host State) :
    ∃ id, process.CallsOnly id (action process).2 ∧
      ∀ content, (action process).1 = .value content → ∃ library, made library content := by
  cases bound : around.boundLibrary process with
  | ok library =>
    obtain ⟨calls, _, makes⟩ := opens.calls_bound process bound
    exact ⟨library.id, calls, fun content gives => ⟨library, makes content gives⟩⟩
  | error cause =>
    obtain ⟨calls, nothing⟩ := opens.calls_unbound process bound 0
    exact ⟨0, calls, fun content gives => absurd gives (nothing content)⟩

/-! ### Facades -/

theorem memoryDatabase :
    Opens around (fun library database => (Object.database database).MadeBy library)
      around.memoryDatabase :=
  .library fun _ => .bind (.call .memoryDatabase) fun raw _ =>
    .wrapInto .databaseConfig raw DatabaseConfig.mk .database fun _ same live => ⟨same, live⟩

theorem fileDatabase (path : Bytes) :
    Opens around (fun library database => (Object.database database).MadeBy library)
      (around.fileDatabase path) :=
  .checked fun _ => .library fun _ => .checked fun octets =>
    .query (.openDatabase (some octets)) fun raw =>
      .wrapInto .databaseConfig raw DatabaseConfig.mk .database fun _ same live => ⟨same, live⟩

theorem connect (config : ElectrumConfig) :
    Opens around (fun library blockchain => (Object.blockchain blockchain).MadeBy library)
      (around.connect config) :=
  .library fun _ => .checked fun url => .checked fun socks5 =>
    .query (.connect (some (config.toRaw url socks5))) fun raw =>
      .wrapInto .blockchain raw Blockchain.mk .blockchain fun _ same live => ⟨same, live⟩

theorem newBuilder :
    Opens around (fun library builder => (Object.builder builder).MadeBy library)
      around.newBuilder :=
  .library fun _ => .bind (.call .newBuilder) fun raw _ =>
    .wrapInto .txBuilder raw TxBuilder.mk .builder fun _ same live => ⟨same, live⟩

theorem parsePsbt (base64 : String) :
    Opens around (fun library psbt => (Object.psbt psbt).MadeBy library)
      (around.parsePsbt base64) :=
  .library fun _ => .checked fun octets => .query (.parsePsbt (some octets)) fun raw =>
    .wrapInto .psbt raw Psbt.mk .psbt fun _ same live => ⟨same, live⟩

/-- An adopted address is taken for an object of the bound library. -/
theorem adopt (kind : ResourceKind) (address : Option Address) :
    Opens around (fun library handle => (Object.bare kind handle).MadeBy library)
      (do
        let library ← around.library
        Handle.wrap kind library address) := by
  refine .library fun library => ?_
  have wrapped : Confined library _ (Handle.wrap kind library address : Action State _) :=
    .wrap kind address
  exact ⟨wrapped.detached, wrapped.calls, fun process handle gives =>
    ⟨(wrapped.makes process handle gives).1, (wrapped.makes process handle gives).2⟩⟩

end Opens

end WalletBridge
