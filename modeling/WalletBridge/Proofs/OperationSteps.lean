/-
This file lists what an operation can come to. The table of objects decides which of six steps it
is: it tells something that needs no call, asks the library of an object, derives an object from one
that is there, opens one with the bound library, disposes of an object, or drops one. The step is the
same for all sessions that have this table, whatever the rest of the process is like.
-/

import WalletBridge.Host.History
import WalletBridge.Host.ScopeLog
import WalletBridge.Proofs.ConfinedCalls

namespace WalletBridge

/-- Whether an operation works on objects that are there. The others ask for the bound library. -/
def Operation.isOnObjects : Operation → Bool
  | .openMemory .. => false
  | .openFile .. => false
  | .connect .. => false
  | .parsePsbt .. => false
  | .newBuilder .. => false
  | .adopt .. => false
  | _ => true

/-- What an operation takes a session to. -/
abbrev Routine (State : Type) := Session State → Response × Session State

variable {State Content : Type}

/-- The steps that an operation can be in a session. -/
inductive OperationStep (around : Surroundings State) (session : Session State)
    (operation : Operation) : Routine State → Prop where
  /-- Nothing is called and nothing changes. -/
  | tells (response : Response) (silent : operation.change response = .none) :
      OperationStep around session operation fun other => (response, other)
  /-- The library of an object is called. -/
  | asks {Content : Type} {action : Action State Content} (answer : Content → Answer)
      {label : String} {owner : Object} (found : session.object? label = some owner)
      (confined : Confined owner.handle.library (fun _ => True) action)
      (silent : ∀ content, operation.change (.answer (answer content)) = .none) :
      OperationStep around session operation fun other => other.query action answer
  /-- The library of an object makes another one. -/
  | derives {Content : Type} {action : Action State Content} (label : String)
      (object : Content → Object) {source : String} {owner : Object}
      (found : session.object? source = some owner)
      (confined : Confined owner.handle.library
        (fun content => (object content).MadeBy owner.handle.library) action)
      (named : operation.change (.answer (.label label)) = .made label)
      (taken : operation.taken? = some label) :
      OperationStep around session operation fun other =>
        other.construct around label action object
  /-- The bound library makes an object. -/
  | opens {Content : Type} {action : Action State Content} (label : String)
      (object : Content → Object)
      (opening : Opens around (fun library content => (object content).MadeBy library) action)
      (named : operation.change (.answer (.label label)) = .made label)
      (taken : operation.taken? = some label)
      (unowned : operation.isOnObjects = false) :
      OperationStep around session operation fun other =>
        other.construct around label action object
  | disposes {target : String} {object : Object} (found : session.object? target = some object)
      (same : operation = .dispose target) :
      OperationStep around session operation fun other =>
        let (released, after) := other.dispose around target object
        (.answer (.flag released), after)
  | drops {target : String} {object : Object} (found : session.object? target = some object)
      (same : operation = .drop target) :
      OperationStep around session operation fun other =>
        (.answer .done, Session.dropObject around object (other.remove target))

/-- A routine is one of the steps of an operation, for all sessions with the objects of one. -/
def StepsAs (around : Surroundings State) (session : Session State) (operation : Operation)
    (routine : Routine State) : Prop :=
  ∃ step, OperationStep around session operation step ∧
    ∀ other : Session State, other.objects = session.objects → routine other = step other

namespace StepsAs

variable {around : Surroundings State} {session : Session State} {operation : Operation}

theorem of_step {step : Routine State} (steps : OperationStep around session operation step) :
    StepsAs around session operation step :=
  ⟨step, steps, fun _ _ => rfl⟩

/-- A look into the table gives the same object in all sessions with that table. -/
theorem of_lookup (label : String) {found : Option Object}
    (looked : session.object? label = found) {routine simpler : Routine State}
    (steps : StepsAs around session operation simpler)
    (same : ∀ other : Session State, other.object? label = found →
      routine other = simpler other) :
    StepsAs around session operation routine := by
  obtain ⟨step, isStep, agrees⟩ := steps
  refine ⟨step, isStep, fun other objects => (same other ?_).trans (agrees other objects)⟩
  rw [← looked, Session.object?, Session.object?, objects]

/-- An operation that misses an object tells so. -/
theorem misses (role : String) :
    StepsAs around session operation fun other => (.missing role, other) :=
  of_step (.tells (.missing role) rfl)

/-- A routine that needs an object of some kind under a name goes on with it, or misses it. -/
theorem of_facade {Facade : Type} (label role : String) (make : Facade → Object)
    (next : Facade → Routine State) {routine : Routine State}
    (steps : ∀ facade, session.object? label = some (make facade) →
      StepsAs around session operation (next facade))
    (hit : ∀ other facade, other.object? label = some (make facade) →
      routine other = next facade other)
    (miss : ∀ other, (∀ facade, other.object? label ≠ some (make facade)) →
      routine other = (.missing role, other)) :
    StepsAs around session operation routine := by
  by_cases there : ∃ facade, session.object? label = some (make facade)
  · obtain ⟨facade, found⟩ := there
    exact of_lookup label found (steps facade found) fun other looked => hit other facade looked
  · refine of_lookup label rfl (misses role) fun other looked => miss other fun facade same => ?_
    exact there ⟨facade, looked ▸ same⟩

section

variable (label : String)

theorem withWallet {next : Wallet → Routine State}
    (steps : ∀ wallet, session.object? label = some (.wallet wallet) →
      StepsAs around session operation (next wallet)) :
    StepsAs around session operation fun other =>
      other.withWallet label fun wallet => next wallet other :=
  of_facade label "wallet" .wallet next steps
    (fun _ _ looked => by rw [Session.withWallet, looked])
    fun _ missed => by simp only [Session.withWallet]

theorem withPsbt {next : Psbt → Routine State}
    (steps : ∀ psbt, session.object? label = some (.psbt psbt) →
      StepsAs around session operation (next psbt)) :
    StepsAs around session operation fun other =>
      other.withPsbt label fun psbt => next psbt other :=
  of_facade label "psbt" .psbt next steps
    (fun _ _ looked => by rw [Session.withPsbt, looked])
    fun _ missed => by simp only [Session.withPsbt]

theorem withBuilder {next : TxBuilder → Routine State}
    (steps : ∀ builder, session.object? label = some (.builder builder) →
      StepsAs around session operation (next builder)) :
    StepsAs around session operation fun other =>
      other.withBuilder label fun builder => next builder other :=
  of_facade label "builder" .builder next steps
    (fun _ _ looked => by rw [Session.withBuilder, looked])
    fun _ missed => by simp only [Session.withBuilder]

theorem withTarget {next : Object → Routine State}
    (steps : ∀ object, session.object? label = some object →
      StepsAs around session operation (next object)) :
    StepsAs around session operation fun other =>
      other.withTarget label fun object => next object other := by
  cases found : session.object? label with
  | none =>
    exact of_lookup label found (misses "target") fun _ looked => by
      rw [Session.withTarget, looked]
  | some object =>
    exact of_lookup label found (steps object found) fun _ looked => by
      rw [Session.withTarget, looked]

end

/-- Every operation is one of the steps. -/
theorem operate (around : Surroundings State) (session : Session State) (operation : Operation) :
    StepsAs around session operation (Session.operate around operation) := by
  cases operation with
  | openMemory label => exact of_step (.opens label .database .memoryDatabase rfl rfl rfl)
  | openFile label path => exact of_step (.opens label .database (.fileDatabase path) rfl rfl rfl)
  | openWallet label database descriptor change network =>
    exact of_facade database "db" .database
      (fun source other => other.construct around label
        (around.newWallet descriptor change network source) .wallet)
      (fun source found => of_step
        (.derives label .wallet found (.newWallet descriptor change network source) rfl rfl))
      (fun _ _ looked => by simp only [Session.operate, looked])
      fun _ missed => by simp only [Session.operate]
  | networkName wallet => exact withWallet wallet fun _ _ => of_step (.tells _ rfl)
  | peekAddress wallet index =>
    exact withWallet wallet fun _ found =>
      of_step (.asks .text found (.peekAddress _ index) fun _ => rfl)
  | revealNextAddress wallet =>
    exact withWallet wallet fun _ found =>
      of_step (.asks .text found (.revealNextAddress _) fun _ => rfl)
  | peekFirst wallet count =>
    exact withWallet wallet fun _ found =>
      of_step (.asks .texts found
        (.each (fun index => .peekAddress _ (UInt32.ofNat index)) (List.range count)) fun _ => rfl)
  | balance wallet =>
    exact withWallet wallet fun _ found =>
      of_step (.asks .balance found (.walletBalance _) fun _ => rfl)
  | listUnspent wallet =>
    exact withWallet wallet fun _ found =>
      of_step (.asks .outputs found (.listUnspent _) fun _ => rfl)
  | listTransactions wallet =>
    exact withWallet wallet fun _ found =>
      of_step (.asks .transactions found (.listTransactions _) fun _ => rfl)
  | connect label config => exact of_step (.opens label .blockchain (.connect config) rfl rfl rfl)
  | sync wallet chain =>
    refine withWallet wallet fun receiver found => ?_
    exact of_facade chain "chain" .blockchain
      (fun source other => other.query (around.sync receiver source) fun _ => .done)
      (fun source _ => of_step (.asks (fun _ => .done) found (.sync receiver source) fun _ => rfl))
      (fun _ _ looked => by simp only [looked]) fun _ missed => by simp only
  | sign wallet psbt =>
    exact withWallet wallet fun _ found => withPsbt psbt fun _ _ =>
      of_step (.asks .flag found (.sign _ _) fun _ => rfl)
  | parsePsbt label base64 => exact of_step (.opens label .psbt (.parsePsbt base64) rfl rfl rfl)
  | serialize psbt =>
    exact withPsbt psbt fun _ found => of_step (.asks .text found (.serialize _) fun _ => rfl)
  | txid psbt =>
    exact withPsbt psbt fun _ found => of_step (.asks .text found (.txid _) fun _ => rfl)
  | newBuilder label => exact of_step (.opens label .builder .newBuilder rfl rfl rfl)
  | addRecipient builder recipient amount =>
    exact withBuilder builder fun _ found =>
      of_step (.asks (fun _ => .done) found (.addRecipient _ recipient amount) fun _ => rfl)
  | feeRate builder satPerVb =>
    exact withBuilder builder fun _ found =>
      of_step (.asks (fun _ => .done) found (.feeRate _ satPerVb) fun _ => rfl)
  | finish label builder wallet =>
    exact withBuilder builder fun _ found => withWallet wallet fun _ _ =>
      of_step (.derives label .psbt found (.finish _ _) rfl rfl)
  | adopt label kind address =>
    exact of_step (.opens label (.bare kind) (.adopt kind address) rfl rfl rfl)
  | dispose target =>
    exact withTarget target fun _ found => of_step (.disposes found rfl)
  | isLive target => exact withTarget target fun _ _ => of_step (.tells _ rfl)
  | drop target => exact withTarget target fun _ found => of_step (.drops found rfl)
  | describe target => exact withTarget target fun _ _ => of_step (.tells _ rfl)

end StepsAs

end WalletBridge
