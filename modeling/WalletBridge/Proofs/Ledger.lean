/-
This file says what it is to keep account of everything that a host has to give back. A holding is
either a release that is due or an object that a handle owns. A ledger is any property of a process
and its holdings that survives each of the few things a process does: asking an entry point adds
what the answer makes due, a release settles one due, wrapping turns a due object into a handle,
and releasing a handle settles it. An action settles what it takes when it turns some holdings into
the holdings of its result, and into nothing when it ends without a result. That is proved here once
for the ways to cross the boundary, whatever the ledger and whatever the native side answers.
-/

import WalletBridge.Boundary.Crossing
import WalletBridge.Host.Facade

namespace WalletBridge

/-! ### Holdings -/

/-- Something that the host has to give back. -/
inductive Holding where
  /-- An allocation that was handed over and is in no handle. -/
  | due (library : LibraryId) (release : Release)
  /-- An object that a handle owns. -/
  | handle (library : LibraryId) (kind : ResourceKind) (address : Address)
  deriving DecidableEq

namespace Holding

/-- The release that settles a holding, with its library. -/
def debt : Holding → LibraryId × Release
  | .due library release => (library, release)
  | .handle library kind address => (library, .object kind address)

/-- Whether a holding is an object in a handle. -/
def isHandle : Holding → Bool
  | .due .. => false
  | .handle .. => true

end Holding

/-- What a crossing adds to the holdings. -/
def Crossing.holdings (crossing : Crossing) : List Holding :=
  crossing.due.map fun debt => .due debt.1 debt.2

/-- The holdings that a payload is: an allocation of its library, or nothing. -/
def Payload.holdings (library : LibraryId) (payload : Payload) (value : payload.Raw) :
    List Holding :=
  (payloadRelease? payload value).toList.map (.due library)

theorem Crossing.holdings_asked_error (library : LibraryId) (payload : Payload)
    (entry : Entry payload) (value : payload.Raw) (error : RawError) :
    (Crossing.asked library payload entry (some ⟨value, some error⟩)).holdings =
      [.due library (.transit payload (some error))] := rfl

theorem Crossing.holdings_asked_value (library : LibraryId) (payload : Payload)
    (entry : Entry payload) (value : payload.Raw) :
    (Crossing.asked library payload entry (some ⟨value, none⟩)).holdings =
      .due library (.transit payload none) :: payload.holdings library value := by
  simp [holdings, due, transitRelease?, Payload.holdings, Function.comp_def]

theorem Crossing.holdings_handed (library : LibraryId) (payload : Payload)
    (call : DirectCall payload) (value : payload.Raw) :
    (Crossing.handed library payload call value).holdings = payload.holdings library value := by
  simp [holdings, due, Payload.holdings, Function.comp_def]

/-- The holding of a handle, as long as its object is there. -/
def Handle.holdings {kind : ResourceKind} (handle : Handle kind) : List Holding :=
  handle.slot.toList.map (.handle handle.library.id kind)

/-- The holdings of an outcome: those of its value, if it is one. -/
def Outcome.holdings {Content : Type} (left : Content → List Holding) :
    Outcome Content → List Holding
  | .value content => left content
  | _ => []

/-! ### Ledgers -/

variable {State Content Other : Type} {around : Surroundings State}

/-- A way to keep account of the holdings of a process. -/
structure Ledger (around : Surroundings State) where
  Holds : Host State → List Holding → Prop
  /-- The order of the holdings does not matter. -/
  perm {process : Host State} {first second : List Holding} (same : first.Perm second)
    (holds : Holds process first) : Holds process second
  rebind {process : Host State} {holdings : List Holding} (binding : Binding)
    (holds : Holds process holdings) : Holds { process with binding := binding } holdings
  /-- An answer adds what it makes due. -/
  ask {process : Host State} {holdings : List Holding} {payload : Payload} (library : LibraryId)
    (entry : Entry payload) (reply : Reply payload) (native : State)
    (answered : around.side.answer library entry process.native = (reply, native))
    (holds : Holds process holdings) :
    Holds
      { process with
        native := native
        journal := .asked library payload entry reply :: process.journal }
      ((Crossing.asked library payload entry reply).holdings ++ holdings)
  /-- So does what a direct call hands over. -/
  call {process : Host State} {holdings : List Holding} {payload : Payload} (library : LibraryId)
    (direct : DirectCall payload) (value : payload.Raw) (native : State)
    (handed : around.side.hand library direct process.native = (value, native))
    (holds : Holds process holdings) :
    Holds
      { process with
        native := native
        journal := .handed library payload direct value :: process.journal }
      ((Crossing.handed library payload direct value).holdings ++ holdings)
  /-- A release settles a due. -/
  release {process : Host State} {holdings : List Holding} (library : LibraryId) (freed : Release)
    (holds : Holds process (.due library freed :: holdings)) :
    Holds (around.release library freed process) holdings
  /-- Wrapping puts a due object into a handle. -/
  wrap {process : Host State} {holdings : List Holding} (library : LibraryId)
    (kind : ResourceKind) (address : Address)
    (holds : Holds process (.due library (.object kind address) :: holdings)) :
    Holds { process with lifecycle := process.lifecycle.recordWrapped }
      (.handle library kind address :: holdings)
  /-- The release of a handle settles it. -/
  unwrap {process : Host State} {holdings : List Holding} (library : LibraryId)
    (kind : ResourceKind) (address : Address) (cause : ReleaseCause)
    (holds : Holds process (.handle library kind address :: holdings)) :
    Holds
      { around.release library (.object kind address) process with
        lifecycle := process.lifecycle.recordRelease cause }
      holdings

/-- An action turns the holdings that it takes into those of its result, and settles them all when
it ends without one. Whatever else there is stays as it is. -/
def Settles (ledger : Ledger around) (action : Action State Content) (taken : List Holding)
    (left : Content → List Holding) : Prop :=
  ∀ process rest, ledger.Holds process (taken ++ rest) →
    ledger.Holds (action process).2 ((action process).1.holdings left ++ rest)

namespace Settles

variable {ledger : Ledger around}

/-! ### Composing actions -/

theorem pure (content : Content) (left : Content → List Holding) :
    Settles ledger (Run.pure content) (left content) left :=
  fun _ _ holds => holds

theorem fail (error : BridgeError) (left : Content → List Holding) :
    Settles ledger (Run.fail error) [] left :=
  fun _ _ holds => holds

theorem lift (result : Except BridgeError Content) :
    Settles ledger (Run.lift result) [] (fun _ => []) := by
  intro process rest holds
  cases result with
  | ok content => exact holds
  | error error => exact holds

/-- One action after another: the second takes what the first left. -/
theorem bind {first : Action State Content} {next : Content → Action State Other}
    {taken : List Holding} {middle : Content → List Holding} {left : Other → List Holding}
    (settlesFirst : Settles ledger first taken middle)
    (settlesNext : ∀ content, Settles ledger (next content) (middle content) left) :
    Settles ledger (first >>= next) taken left := by
  intro process rest holds
  have between := settlesFirst process rest holds
  rw [Run.bind_apply]
  generalize first process = ended at between ⊢
  obtain ⟨outcome, after⟩ := ended
  cases outcome with
  | value content => exact settlesNext content after rest between
  | failure error => exact between
  | halted halt => exact between

/-- A cleanup that settles a due may come after any action. -/
theorem guarded {body : Action State Content} {taken : List Holding}
    {left : Content → List Holding} (library : LibraryId) (freed : Release)
    (settles : Settles ledger body taken left) :
    Settles ledger (body.guarded (around.release library freed))
      (.due library freed :: taken) left := by
  intro process rest holds
  -- What the cleanup settles is nothing to the body, so it waits among the rest meanwhile.
  have moved : ledger.Holds process (taken ++ .due library freed :: rest) :=
    ledger.perm List.perm_middle.symm holds
  have done := settles process (.due library freed :: rest) moved
  exact ledger.release library freed (ledger.perm List.perm_middle done)

/-- A run over a list settles what each of its parts settles. -/
theorem each {Item : Type} {run : Item → Action State Content}
    (settles : ∀ item, Settles ledger (run item) [] (fun _ => [])) (items : List Item) :
    Settles ledger (Run.each run items) [] (fun _ => []) := by
  induction items with
  | nil => exact pure [] fun _ => []
  | cons item items inductionHypothesis =>
    refine bind (settles item) fun content => ?_
    refine bind inductionHypothesis fun contents => ?_
    exact pure (content :: contents) fun _ => []

/-! ### Crossing the boundary -/

/-- Finding the library changes no holdings. -/
theorem library : Settles ledger around.library [] (fun _ => []) := by
  intro process rest holds
  simp only [Surroundings.library]
  generalize process.binding.bind _ around.loader = found
  obtain ⟨bound, binding⟩ := found
  cases bound with
  | ok library => exact ledger.rebind binding holds
  | error cause => exact ledger.rebind binding holds

theorem ask {payload : Payload} (library : LibraryId) (entry : Entry payload) :
    Settles ledger (around.ask library entry) []
      (fun reply => (Crossing.asked library payload entry reply).holdings) :=
  fun _ _ holds => ledger.ask library entry _ _ rfl holds

theorem call {payload : Payload} (library : LibraryId) (direct : DirectCall payload) :
    Settles ledger (around.call library direct) [] (payload.holdings library) := by
  intro process rest holds
  have handed := ledger.call library direct _ _ rfl holds
  rw [Crossing.holdings_handed] at handed
  exact handed

/-- A text that is taken over is released, readable or not. -/
theorem takeText (library : LibraryId) (raw : NativeString) (operation : String) :
    Settles ledger (around.takeText library raw operation) (Payload.text.holdings library raw)
      (fun _ => []) := by
  cases raw with
  | none => exact fail _ _
  | some octets => exact guarded library (.text octets) (lift (readOwned octets))

/-- An object that is wrapped is in a handle; null is no object. -/
theorem wrap (kind : ResourceKind) (library : NativeLibrary) (raw : Option Address) :
    Settles ledger (Handle.wrap kind library raw)
      ((Payload.object kind).holdings library.id raw) Handle.holdings := by
  cases raw with
  | none => exact fail _ _
  | some address =>
    intro process rest holds
    exact ledger.wrap library.id kind address holds

/-- A block is released when its elements have been read, up to the first that cannot be. A null
block is nothing to release. -/
theorem sequence {Raw : Type} (library : LibraryId) (freed : List Raw → Nat → Release)
    (holdings : Block Raw → List Holding)
    (holdings_null : ∀ claimed, holdings (.null claimed) = [])
    (holdings_held : ∀ elements spare,
      holdings (.held elements spare) = [.due library (freed elements spare)])
    (release : Block Raw → Host State → Host State)
    (release_held : ∀ elements spare,
      release (.held elements spare) = around.release library (freed elements spare))
    (element : Raw → Except BridgeError Content) (block : Block Raw) :
    Settles ledger (toSequence block (release block) fun raw => Run.lift (element raw))
      (holdings block) (fun _ => []) := by
  cases block with
  | null claimed =>
    rw [holdings_null]
    simp only [toSequence]
    split
    · exact pure [] fun _ => []
    · exact fail _ _
  | held elements spare =>
    rw [holdings_held, release_held]
    exact guarded library (freed elements spare) (each (fun raw => lift (element raw)) elements)

/-- An answer is settled once what converts its payload settles the payload: the transit struct is
released on every path, and the payload beside an error is nobody's. -/
theorem decode {payload : Payload} (library : LibraryId) (entry : Entry payload)
    {convert : payload.Raw → Action State Content} {left : Content → List Holding}
    (converts : ∀ value, Settles ledger (convert value) (payload.holdings library value) left)
    (reply : Reply payload) :
    Settles ledger
      (decodeWith entry.symbol (reply.map fun transit => (transit.value, transit.error))
        (around.release library (.transit payload (reply.bind (·.error)))) convert)
      (Crossing.asked library payload entry reply).holdings left := by
  match reply with
  | none => exact fail (.nullPointer entry.symbol) left
  | some ⟨value, some error⟩ =>
    rw [Crossing.holdings_asked_error]
    exact guarded library (.transit payload (some error)) (fail (readError error) left)
  | some ⟨value, none⟩ =>
    rw [Crossing.holdings_asked_value]
    exact guarded library (.transit payload none) (converts value)

theorem query {payload : Payload} (library : LibraryId) (entry : Entry payload)
    {convert : payload.Raw → Action State Content} {left : Content → List Holding}
    (converts : ∀ value, Settles ledger (convert value) (payload.holdings library value) left) :
    Settles ledger (around.query library entry convert) [] left :=
  bind (ask library entry) (decode library entry converts)

end Settles

end WalletBridge
