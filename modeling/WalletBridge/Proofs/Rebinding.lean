/-
This file shows that objects do not notice what happens to the binding after they are there. A
history of operations on objects of one library is compared with the same history without the
changes of the binding: every response is the same, and so is the session afterwards, apart from the
binding itself. The journal is part of the session, so the same calls were made and the same objects
freed.

That the objects are of one library has to be kept up alongside, because a wallet is derived from a
database and a transaction from a builder while the binding may hold another library already.
-/

import WalletBridge.Proofs.OperationSteps
import WalletBridge.Proofs.SessionLedger
import WalletBridge.Proofs.ReleasedHandles

namespace WalletBridge

variable {State Content : Type} {around : Surroundings State} {library : NativeLibrary}

/-- Whether something that happens changes the binding or works on objects that are there. -/
def Occurrence.isOnObjects : Occurrence → Bool
  | .operation done => done.isOnObjects
  | _ => true

theorem Object.withHandle_library (object : Object) (handle : Handle object.kind) :
    (object.withHandle handle).handle.library = handle.library := by
  cases object <;> rfl

namespace Session

theorem releaseObject_library (cause : ReleaseCause) (object : Object) (process : Host State) :
    (releaseObject around cause object process).1.2.handle.library = object.handle.library := by
  simp only [releaseObject, Object.withHandle_library, Surroundings.releaseHandle]
  cases object.handle.slot <;> rfl

/-! ### Two runs -/

/-- A session with another binding. -/
def withBinding (binding : Binding) (session : Session State) : Session State :=
  { session with process := session.process.withBinding binding }

variable (around) in
theorem releaseObject_withBinding (cause : ReleaseCause) (object : Object) (process : Host State)
    (binding : Binding) :
    releaseObject around cause object (process.withBinding binding) =
      ((releaseObject around cause object process).1,
        (releaseObject around cause object process).2.withBinding binding) := by
  simp only [releaseObject, Surroundings.releaseHandle]
  cases object.handle.slot <;> rfl

theorem dropObject_withBinding (object : Object) (session : Session State) (binding : Binding) :
    dropObject around object (session.withBinding binding) =
      (dropObject around object session).withBinding binding := by
  simp only [dropObject, withBinding, releaseObject_withBinding]

theorem keep_withBinding (label : String) (object : Object) (session : Session State)
    (binding : Binding) :
    (session.withBinding binding).keep around label object =
      (session.keep around label object).withBinding binding := by
  have same : (session.withBinding binding).object? label = session.object? label := rfl
  rw [keep, keep, same]
  cases session.object? label with
  | none => rfl
  | some former => exact dropObject_withBinding former (session.put label object) binding

theorem close_withBinding (session : Session State) (binding : Binding) :
    (session.withBinding binding).close around = (session.close around).withBinding binding := by
  rw [close, close, show (session.withBinding binding).objects = session.objects from rfl]
  generalize session.objects = entries
  induction entries generalizing session with
  | nil => rfl
  | cons entry rest inductionHypothesis =>
    rw [List.foldl_cons, List.foldl_cons, ← inductionHypothesis,
      ← dropObject_withBinding entry.2 (session.remove entry.1) binding]
    rfl

theorem query_withBinding {made : Content → Prop} {action : Action State Content}
    (confined : Confined library made action) (answer : Content → Answer)
    (session : Session State) (binding : Binding) :
    (session.withBinding binding).query action answer =
      ((session.query action answer).1, (session.query action answer).2.withBinding binding) := by
  rw [query, query, perform, perform, withBinding, confined.detached]
  rfl

theorem construct_withBinding {made : Content → Prop} {action : Action State Content}
    (confined : Confined library made action) (label : String) (object : Content → Object)
    (session : Session State) (binding : Binding) :
    (session.withBinding binding).construct around label action object =
      ((session.construct around label action object).1,
        (session.construct around label action object).2.withBinding binding) := by
  rw [construct, construct, perform, perform, withBinding, confined.detached]
  rcases action session.process with ⟨content | error | halt, after⟩
  · exact congrArg (Response.answer (.label label), ·)
      (keep_withBinding label (object content) { session with process := after } binding)
  · rfl
  · rfl

/-- An operation on objects goes the same way with another binding, and leaves that one alone. -/
theorem operate_withBinding {operation : Operation} (onObjects : operation.isOnObjects = true)
    (session : Session State) (binding : Binding) :
    (session.withBinding binding).operate around operation =
      ((session.operate around operation).1,
        (session.operate around operation).2.withBinding binding) := by
  obtain ⟨step, isStep, agrees⟩ := StepsAs.operate around session operation
  rw [agrees (session.withBinding binding) rfl, agrees session rfl]
  cases isStep with
  | tells response => rfl
  | asks answer _ confined => exact query_withBinding confined answer session binding
  | derives label object _ confined =>
    exact construct_withBinding confined label object session binding
  | opens _ _ _ _ _ unowned =>
    rw [unowned] at onObjects
    cases onObjects
  | @disposes target object =>
    simp only [dispose, withBinding, releaseObject_withBinding]
    rfl
  | @drops target object =>
    exact congrArg (Response.answer .done, ·)
      (dropObject_withBinding object (session.remove target) binding)

variable (around) in
/-- A history on objects goes the same way without the changes of the binding, from whatever binding
it starts. -/
theorem occurAll_withBinding {history : List Occurrence}
    (onObjects : ∀ occurrence ∈ history, occurrence.isOnObjects) (session : Session State)
    (binding : Binding) :
    let undisturbed := session.occurAll around (history.filter fun change => !change.isRebinding)
    ∃ last, (session.withBinding binding).occurAll around history =
      (undisturbed.1, undisturbed.2.withBinding last) := by
  induction history generalizing session binding with
  | nil => exact ⟨binding, rfl⟩
  | cons occurrence rest inductionHypothesis =>
    obtain ⟨first, onObjectsRest⟩ := List.forall_mem_cons.mp onObjects
    cases occurrence with
    | operation operation =>
      obtain ⟨last, onward⟩ :=
        inductionHypothesis onObjectsRest (session.operate around operation).2 binding
      refine ⟨last, ?_⟩
      simp only [occurAll, occur, operate_withBinding first, onward, List.filter_cons,
        Occurrence.isRebinding, Bool.not_false, if_true]
    | install resolver =>
      exact inductionHypothesis onObjectsRest session (binding.install resolver).2
    | bind config =>
      exact inductionHypothesis onObjectsRest session (binding.bind config around.loader).2
    | teardown => exact inductionHypothesis onObjectsRest session binding.teardown.2

/-! ### Objects of one library -/

/-- All objects of a session are of one library. -/
def OfLibrary (library : NativeLibrary) (session : Session State) : Prop :=
  ∀ entry ∈ session.objects, entry.2.handle.library = library

/-- The objects are of one library, and since some moment no other one was called. -/
structure Within (library : NativeLibrary) (journal : List Crossing) (session : Session State) :
    Prop where
  ofLibrary : session.OfLibrary library
  calls : ∃ added, session.process.journal = added ++ journal ∧
    ∀ crossing ∈ added, crossing.library = library.id

theorem OfLibrary.library_eq {session : Session State} (ofLibrary : session.OfLibrary library)
    {label : String} {object : Object} (found : session.object? label = some object) :
    object.handle.library = library := by
  obtain ⟨entry, isEntry, rfl⟩ := Option.map_eq_some_iff.mp found
  exact ofLibrary entry (List.mem_of_find?_eq_some isEntry)

namespace Within

variable {journal : List Crossing} {session : Session State}

theorem advance (within : Within library journal session) {after : Host State}
    (calls : session.process.CallsOnly library.id after) :
    Within library journal { session with process := after } := by
  obtain ⟨earlier, journal_eq, allCalls⟩ := within.calls
  obtain ⟨later, grown, allLater⟩ := calls.journal
  refine ⟨within.ofLibrary, later ++ earlier, ?_, List.forall_mem_append.mpr ⟨?_, allCalls⟩⟩
  · rw [List.append_assoc, ← journal_eq]
    exact grown
  · exact fun crossing member => (allLater crossing member).1

theorem put (within : Within library journal session) (label : String) {object : Object}
    (owned : object.handle.library = library) :
    Within library journal (session.put label object) := by
  refine ⟨fun entry member => ?_, within.calls⟩
  obtain rfl | there := mem_insert member
  · exact owned
  · exact within.ofLibrary entry there

theorem remove (within : Within library journal session) (label : String) :
    Within library journal (session.remove label) :=
  ⟨fun entry member => within.ofLibrary entry ((List.mem_filter.mp member).1), within.calls⟩

/-- An object is freed through the library that it is of. -/
theorem release (within : Within library journal session) (cause : ReleaseCause) {object : Object}
    (owned : object.handle.library = library) :
    Within library journal
      { session with process := (releaseObject around cause object session.process).2 } := by
  obtain ⟨earlier, journal_eq, allCalls⟩ := within.calls
  simp only [releaseObject, Surroundings.releaseHandle]
  cases object.handle.slot with
  | none => exact within
  | some address =>
    refine ⟨within.ofLibrary, .released object.handle.library.id (.object object.kind address) ::
      earlier, ?_, List.forall_mem_cons.mpr ⟨?_, allCalls⟩⟩
    · rw [List.cons_append, ← journal_eq]
      rfl
    · rw [owned]
      rfl

theorem keep (within : Within library journal session) (label : String) {object : Object}
    (owned : object.handle.library = library) :
    Within library journal (session.keep around label object) := by
  unfold Session.keep
  split
  · exact within.put label owned
  · rename_i former found
    exact (within.put label owned).release .drop (within.ofLibrary.library_eq found)

theorem dispose (within : Within library journal session) {label : String} {object : Object}
    (found : session.object? label = some object) :
    Within library journal (session.dispose around label object).2 := by
  have owned := within.ofLibrary.library_eq found
  exact (within.release .explicit owned).put label ((releaseObject_library _ _ _).trans owned)

theorem construct (within : Within library journal session) (label : String)
    {action : Action State Content} {object : Content → Object}
    (calls : session.process.CallsOnly library.id (action session.process).2)
    (makes : ∀ content, (action session.process).1 = .value content →
      (object content).MadeBy library) :
    Within library journal (session.construct around label action object).2 := by
  rw [Session.construct, perform]
  rcases ended : action session.process with ⟨content | error | halt, after⟩ <;>
    rw [ended] at calls makes
  · exact (within.advance calls).keep label (makes content rfl).library_eq
  · exact within.advance calls
  · exact within.advance calls

/-- An operation keeps to the library of the objects. One that asks for the bound library does so as
long as that is the one. -/
theorem operate (within : Within library journal session) {operation : Operation}
    (bound : operation.isOnObjects = false → around.boundLibrary session.process = .ok library) :
    Within library journal (session.operate around operation).2 := by
  obtain ⟨step, isStep, agrees⟩ := StepsAs.operate around session operation
  rw [agrees session rfl]
  cases isStep with
  | tells response => exact within
  | asks answer found confined =>
    rw [within.ofLibrary.library_eq found] at confined
    exact within.advance (confined.calls session.process)
  | derives label object found confined =>
    rw [within.ofLibrary.library_eq found] at confined
    exact within.construct label (confined.calls _) (confined.makes _)
  | opens label object opening _ _ unowned =>
    obtain ⟨calls, _, makes⟩ := opening.calls_bound session.process (bound unowned)
    exact within.construct label calls makes
  | disposes found => exact within.dispose found
  | drops found => exact (within.remove _).release .drop (within.ofLibrary.library_eq found)

theorem occurAll {history : List Occurrence} (within : Within library journal session)
    (onObjects : ∀ occurrence ∈ history, occurrence.isOnObjects) :
    Within library journal (session.occurAll around history).2 := by
  induction history generalizing session with
  | nil => exact within
  | cons occurrence rest inductionHypothesis =>
    obtain ⟨first, onObjectsRest⟩ := List.forall_mem_cons.mp onObjects
    refine inductionHypothesis ?_ onObjectsRest
    cases occurrence with
    | operation operation =>
      refine within.operate fun unowned => ?_
      rw [show operation.isOnObjects = true from first] at unowned
      cases unowned
    | _ => exact ⟨within.ofLibrary, within.calls⟩

theorem close (within : Within library journal session) :
    Within library journal (session.close around) := by
  -- The objects that are left are all of the library, so the fold needs to know nothing else.
  have owned : ∀ entry ∈ session.objects, entry.2.handle.library = library := within.ofLibrary
  unfold Session.close
  generalize session.objects = entries at owned
  induction entries generalizing session with
  | nil => exact within
  | cons entry rest inductionHypothesis =>
    obtain ⟨first, ownedRest⟩ := List.forall_mem_cons.mp owned
    exact inductionHypothesis ((within.remove entry.1).release .drop first) ownedRest

end Within

/-! ### Creating objects -/

theorem boundLibrary_releaseObject (cause : ReleaseCause) (object : Object) (process : Host State) :
    around.boundLibrary (releaseObject around cause object process).2 =
      around.boundLibrary process := by
  simp only [releaseObject, Surroundings.releaseHandle]
  cases object.handle.slot <;> rfl

theorem boundLibrary_keep (label : String) (object : Object) (session : Session State) :
    around.boundLibrary (session.keep around label object).process =
      around.boundLibrary session.process := by
  unfold Session.keep
  split
  · rfl
  · exact boundLibrary_releaseObject .drop _ session.process

theorem boundLibrary_construct (label : String) {action : Action State Content}
    (object : Content → Object) (session : Session State) :
    around.boundLibrary (session.construct around label action object).2.process =
      around.boundLibrary (action session.process).2 := by
  rw [Session.construct, perform]
  rcases action session.process with ⟨content | error | halt, after⟩
  · exact boundLibrary_keep label (object content) { session with process := after }
  · rfl
  · rfl

/-- Once a library is bound, no operation changes it. -/
theorem boundLibrary_operate {session : Session State}
    (bound : around.boundLibrary session.process = .ok library) (operation : Operation) :
    around.boundLibrary (session.operate around operation).2.process = .ok library := by
  obtain ⟨step, isStep, agrees⟩ := StepsAs.operate around session operation
  rw [agrees session rfl]
  cases isStep with
  | tells response => exact bound
  | asks answer _ confined => exact (confined.boundLibrary_eq session.process).trans bound
  | derives label object _ confined =>
    rw [boundLibrary_construct, confined.boundLibrary_eq]
    exact bound
  | opens label object opening =>
    rw [boundLibrary_construct]
    exact (opening.calls_bound session.process bound).2.1
  | disposes => exact (boundLibrary_releaseObject _ _ _).trans bound
  | drops => exact (boundLibrary_releaseObject _ _ _).trans bound

/-- What operations create while one library is bound is of that library. -/
theorem Within.create {journal : List Crossing} {session : Session State}
    (within : Within library journal session)
    (bound : around.boundLibrary session.process = .ok library) (creation : List Operation) :
    Within library journal (session.occurAll around (creation.map .operation)).2 := by
  induction creation generalizing session with
  | nil => exact within
  | cons operation rest inductionHypothesis =>
    exact inductionHypothesis (within.operate fun _ => bound) (boundLibrary_operate bound operation)

/-! ### Rebinding -/

/-- Objects that were created while one library was bound do not notice changes of the binding. A
history on them, in which libraries are torn down, installed and bound at any point, gives the same
responses as without these changes and leaves the same session, apart from the binding, up to its
close. The objects that are derived meanwhile are of the first library too, and from the creation to
the close no other library is called, be it to free an object. -/
theorem rebinding_is_invisible (around : Surroundings State) (process : Host State)
    (library : NativeLibrary) (bound : around.boundLibrary process = .ok library)
    (creation : List Operation) (history : List Occurrence)
    (onObjects : ∀ occurrence ∈ history, occurrence.isOnObjects) :
    let created := (occurAll around (creation.map .operation) ⟨process, []⟩).2
    let undisturbed := created.occurAll around (history.filter fun change => !change.isRebinding)
    let rebound := created.occurAll around history
    rebound.1 = undisturbed.1 ∧
      (∃ binding, rebound.2 = undisturbed.2.withBinding binding ∧
        rebound.2.close around = (undisturbed.2.close around).withBinding binding) ∧
      created.OfLibrary library ∧ rebound.2.OfLibrary library ∧
      ∃ calls, (rebound.2.close around).process.journal = calls ++ process.journal ∧
        ∀ crossing ∈ calls, crossing.library = library.id := by
  intro created undisturbed rebound
  obtain ⟨binding, same⟩ := occurAll_withBinding around onObjects created
    created.process.binding
  have fresh : Within library process.journal (⟨process, []⟩ : Session State) :=
    ⟨nofun, [], rfl, nofun⟩
  have within := fresh.create bound creation
  have withinRebound : Within library process.journal rebound.2 := within.occurAll onObjects
  have rebound_eq : rebound = (undisturbed.1, undisturbed.2.withBinding binding) := same
  refine ⟨by rw [rebound_eq], ⟨binding, by rw [rebound_eq], ?_⟩, within.ofLibrary,
    withinRebound.ofLibrary, withinRebound.close.calls⟩
  rw [rebound_eq]
  exact close_withBinding undisturbed.2 binding

/-- A process that has bound a library. -/
def boundProcess : Host Scripted :=
  ((fresh none Scripted.fresh).occur scriptedSurroundings (.install (.complete "first"))).2.process

/-- A history in which the binding changes before a wallet is derived, and fails before a
transaction is. -/
def reboundHistory : List Occurrence :=
  [.teardown, .install (.complete "second"),
   .operation (.openWallet "savings" "ledger" "descriptor" none .testnet), .teardown,
   .bind (.default none), .operation (.finish "payment" "draft" "savings"),
   .operation (.dispose "savings"), .install (.complete "third"), .operation (.drop "ledger")]

theorem rebinding_is_invisible_reinstalled :
    let library : NativeLibrary := ⟨0, "first", abiVersion⟩
    let created := (occurAll scriptedSurroundings
      ([.openMemory "ledger", .newBuilder "draft"].map .operation) ⟨boundProcess, []⟩).2
    let undisturbed := created.occurAll scriptedSurroundings
      (reboundHistory.filter fun change => !change.isRebinding)
    let rebound := created.occurAll scriptedSurroundings reboundHistory
    let closed := (rebound.2.close scriptedSurroundings).process
    (scriptedSurroundings.boundLibrary undisturbed.2.process = .ok library ∧
      scriptedSurroundings.boundLibrary rebound.2.process =
        .error (.libraryLoad "libbdk_bind_native.so" "absent") ∧
      rebound.1 = [.answer (.label "savings"), .answer (.label "payment"), .answer (.flag true),
        .answer .done] ∧
      Crossing.allPaid closed.journal =
        [(0, .object .psbt 4), (0, .object .txBuilder 2), (0, .object .databaseConfig 1),
         (0, .object .wallet 3), (0, .transit (.object .psbt) none),
         (0, .transit (.object .wallet) none)] ∧
      closed.lifecycle = ⟨4, 1, 3⟩ ∧ closed.native.live = 0) ∧
    rebound.1 = undisturbed.1 ∧
      (∃ binding, rebound.2 = undisturbed.2.withBinding binding ∧
        rebound.2.close scriptedSurroundings =
          (undisturbed.2.close scriptedSurroundings).withBinding binding) ∧
      created.OfLibrary library ∧ rebound.2.OfLibrary library ∧
      ∃ calls, (rebound.2.close scriptedSurroundings).process.journal =
          calls ++ boundProcess.journal ∧
        ∀ crossing ∈ calls, crossing.library = library.id := by
  have invisible := rebinding_is_invisible scriptedSurroundings boundProcess
    ⟨0, "first", abiVersion⟩ (by decide +kernel) [.openMemory "ledger", .newBuilder "draft"]
    reboundHistory (by decide)
  -- The binding of the two runs differs in the end; everything else is the same.
  refine ⟨⟨?_, ?_, ?_, ?_, ?_, ?_⟩, invisible⟩ <;> decide +kernel

end Session

end WalletBridge
