/-
This file follows the opaque pointers through histories in which the binding changes, so that
objects of several libraries exist side by side. The receiver of a call, and the object that a free
function gets, is always an object that the called library made and has not got back, because its
handle also names the library. The second argument comes out of another handle, whose library nobody
asks for: it is an object that some library made and has not got back, and it is one of the called
library as long as every operation is given objects of one library. Two libraries are enough to pass
one the object of the other.

What a library made and has not got back is what the replay of the journal has outstanding. A
pointer that a handle owns stays outstanding until an object is released, and an operation releases
objects only after everything else that it writes into the journal.
-/

import WalletBridge.Proofs.OwnedReleases
import WalletBridge.Proofs.PointerUse
import WalletBridge.Proofs.ReleasedHandles

namespace WalletBridge

/-- The object behind a pointer as a replay keeps it: the release that it needs, and by whom. -/
def Pointer.debt (library : LibraryId) (pointer : Pointer) : LibraryId × Release :=
  (library, .object pointer.1 pointer.2)

namespace Crossing

/-! ### What a crossing may pass -/

/-- The receiver is an object that the called library made and has not got back. -/
def ReceiverOwned (crossing : Crossing) (held : List (LibraryId × Release)) : Prop :=
  ∀ pointer ∈ crossing.receiver?, pointer.debt crossing.library ∈ held

/-- The second argument is an object that the called library made and has not got back. -/
def ArgumentOwned (crossing : Crossing) (held : List (LibraryId × Release)) : Prop :=
  ∀ pointer ∈ crossing.argument?, pointer.debt crossing.library ∈ held

/-- The second argument is an object that some library made and has not got back. -/
def ArgumentLive (crossing : Crossing) (held : List (LibraryId × Release)) : Prop :=
  ∀ pointer ∈ crossing.argument?, ∃ owner, pointer.debt owner ∈ held

/-- Every pointer is to an object that the called library made and has not got back. -/
def PointersOwned (crossing : Crossing) (held : List (LibraryId × Release)) : Prop :=
  crossing.ReceiverOwned held ∧ crossing.ArgumentOwned held

/-- What a crossing passes when it draws its pointers from what is outstanding. -/
structure Passes (paired : Prop) (crossing : Crossing) (held : List (LibraryId × Release)) :
    Prop where
  receiver : crossing.ReceiverOwned held
  argument : ∀ pointer ∈ crossing.argument?, ∃ owner,
    pointer.debt owner ∈ held ∧ (paired → owner = crossing.library)

/-- Every crossing of a journal passes a check against what is outstanding before it. -/
def Throughout (check : Crossing → List (LibraryId × Release) → Prop) : List Crossing → Prop
  | [] => True
  | crossing :: earlier =>
    Throughout check earlier ∧ ∃ held, held ∈ outstanding earlier ∧ check crossing held

/-- Whether a pointer, if there is one, is to an object that a library made and has not got back. -/
def isOwned (library : LibraryId) (pointer? : Option Pointer) (held : List (LibraryId × Release)) :
    Bool :=
  pointer?.all fun pointer => held.contains (pointer.debt library)

theorem isOwned_iff (library : LibraryId) (pointer? : Option Pointer)
    (held : List (LibraryId × Release)) :
    isOwned library pointer? held = true ↔ ∀ pointer ∈ pointer?, pointer.debt library ∈ held := by
  cases pointer? <;> simp [isOwned]

instance (crossing : Crossing) (held : List (LibraryId × Release)) :
    Decidable (crossing.PointersOwned held) :=
  decidable_of_iff
    (isOwned crossing.library crossing.receiver? held = true ∧
      isOwned crossing.library crossing.argument? held = true)
    (and_congr (isOwned_iff _ _ _) (isOwned_iff _ _ _))

instance decidableThroughout (check : Crossing → List (LibraryId × Release) → Prop)
    [∀ crossing held, Decidable (check crossing held)] :
    (journal : List Crossing) → Decidable (Throughout check journal)
  | [] => .isTrue trivial
  | crossing :: earlier =>
    have := decidableThroughout check earlier
    inferInstanceAs
      (Decidable (Throughout check earlier ∧
        ∃ held, held ∈ outstanding earlier ∧ check crossing held))

theorem Throughout.mono {weak strong : Crossing → List (LibraryId × Release) → Prop}
    (implies : ∀ crossing held, strong crossing held → weak crossing held)
    {journal : List Crossing} (throughout : Throughout strong journal) :
    Throughout weak journal := by
  induction journal with
  | nil => trivial
  | cons crossing earlier inductionHypothesis =>
    obtain ⟨before, held, replayed, passes⟩ := throughout
    exact ⟨inductionHypothesis before, held, replayed, implies crossing held passes⟩

/-! ### Replays -/

/-- A journal that can be replayed could be replayed before its last crossing. -/
theorem outstanding_cons {crossing : Crossing} {earlier : List Crossing}
    {left : List (LibraryId × Release)} (replayed : outstanding (crossing :: earlier) = some left) :
    ∃ held, outstanding earlier = some held ∧
      (crossing.paid = none ∧ left = crossing.due ++ held ∨
        ∃ payment ∈ held, crossing.paid = some payment ∧ left = held.erase payment) := by
  obtain ⟨held, before, step⟩ := Option.bind_eq_some_iff.mp replayed
  refine ⟨held, before, ?_⟩
  cases paid : crossing.paid with
  | none =>
    rw [paid] at step
    exact .inl ⟨rfl, (Option.some.inj step).symm⟩
  | some payment =>
    simp only [paid] at step
    by_cases member : payment ∈ held
    · rw [if_pos member] at step
      exact .inr ⟨payment, member, rfl, (Option.some.inj step).symm⟩
    · rw [if_neg member] at step
      cases step

/-- A journal that can be replayed could be replayed at any earlier moment. -/
theorem outstanding_append {later earlier : List Crossing} {left : List (LibraryId × Release)}
    (replayed : outstanding (later ++ earlier) = some left) :
    ∃ held, outstanding earlier = some held := by
  induction later generalizing left with
  | nil => exact ⟨left, replayed⟩
  | cons crossing rest inductionHypothesis =>
    obtain ⟨_, before, _⟩ := outstanding_cons replayed
    exact inductionHypothesis before

/-- The objects of some handles are outstanding. -/
def Backed (holdings : List Holding) (held : List (LibraryId × Release)) : Prop :=
  ∀ library kind address, .handle library kind address ∈ holdings →
    (library, .object kind address) ∈ held

/-- A crossing that frees no object leaves the objects of handles outstanding. -/
theorem Backed.keep {holdings : List Holding} {crossing : Crossing} {earlier : List Crossing}
    {held left : List (LibraryId × Release)} (backed : Backed holdings held)
    (keeps : crossing.freed? = none) (before : outstanding earlier = some held)
    (replayed : outstanding (crossing :: earlier) = some left) : Backed holdings left := by
  intro library kind address member
  have present := backed library kind address member
  obtain ⟨same, replayedSame, step⟩ := outstanding_cons replayed
  obtain rfl := Option.some.inj (before.symm.trans replayedSame)
  obtain ⟨_, rfl⟩ | ⟨payment, _, paid, rfl⟩ := step
  · exact List.mem_append_right _ present
  · -- Only the release of the object itself could take it off, and this crossing frees no object.
    refine (List.mem_erase_of_ne fun equal => ?_).mpr present
    cases crossing with
    | asked library payload entry reply => cases paid
    | handed library payload call value => cases paid
    | released other release =>
      cases paid
      cases equal
      cases keeps

/-- Crossings that draw their pointers from handles pass them while the objects are outstanding. -/
theorem Throughout.draw {holdings : List Holding} {paired : Prop} {journal : List Crossing}
    {held left : List (LibraryId × Release)} (throughout : Throughout (Passes paired) journal)
    (before : outstanding journal = some held) (backed : Backed holdings held)
    {added : List Crossing} (draws : ∀ crossing ∈ added, crossing.Draws holdings paired)
    (replayed : outstanding (added ++ journal) = some left) :
    Throughout (Passes paired) (added ++ journal) ∧ Backed holdings left := by
  -- The oldest crossing comes last, so the induction follows the order in which they happened.
  induction added generalizing left with
  | nil =>
    obtain rfl := Option.some.inj (before.symm.trans replayed)
    exact ⟨throughout, backed⟩
  | cons crossing rest inductionHypothesis =>
    obtain ⟨first, drawsRest⟩ := List.forall_mem_cons.mp draws
    obtain ⟨between, replayedRest, _⟩ := outstanding_cons replayed
    obtain ⟨throughoutRest, backedRest⟩ := inductionHypothesis drawsRest replayedRest
    refine ⟨⟨throughoutRest, between, replayedRest, ?_, ?_⟩,
      backedRest.keep first.keeps replayedRest replayed⟩
    · exact fun pointer isReceiver => backedRest _ _ _ (first.receiver pointer isReceiver)
    · intro pointer isArgument
      obtain ⟨owner, member, same⟩ := first.argument pointer isArgument
      exact ⟨owner, backedRest _ _ _ member, same⟩

/-- A release passes what is outstanding, or the journal could not be replayed. -/
theorem Throughout.release {paired : Prop} {journal : List Crossing}
    {left : List (LibraryId × Release)} (throughout : Throughout (Passes paired) journal)
    {frees : List Crossing} (paid : ∀ crossing ∈ frees, crossing.paid.isSome)
    (replayed : outstanding (frees ++ journal) = some left) :
    Throughout (Passes paired) (frees ++ journal) := by
  induction frees generalizing left with
  | nil => exact throughout
  | cons crossing rest inductionHypothesis =>
    obtain ⟨first, paidRest⟩ := List.forall_mem_cons.mp paid
    obtain ⟨between, replayedRest, step⟩ := outstanding_cons replayed
    refine ⟨inductionHypothesis paidRest replayedRest, between, replayedRest, ?_⟩
    obtain ⟨unpaid, _⟩ | ⟨payment, member, payed, _⟩ := step
    · rw [unpaid] at first
      cases first
    cases crossing with
    | asked library payload entry reply => cases payed
    | handed library payload call value => cases payed
    | released library release =>
      cases payed
      refine ⟨fun pointer isFreed => ?_, nofun⟩
      cases release with
      | object kind address =>
        cases isFreed
        exact member
      | _ => cases isFreed

end Crossing

/-! ### Sessions -/

namespace Session

variable {State Content : Type} {around : Surroundings State}

/-- The objects that an operation uses are of one library. -/
def OfOneLibrary (session : Session State) (operation : Operation) : Prop :=
  ∀ first ∈ operation.targets, ∀ second ∈ operation.targets, ∀ object other,
    session.object? first.1 = some object → session.object? second.1 = some other →
      object.handle.library.id = other.handle.library.id

/-- What an operation writes into the journal: crossings that draw their pointers from the handles
of the session, and after them releases. -/
def Grows (session : Session State) (paired : Prop) (after : Session State) : Prop :=
  ∃ frees added, after.process.journal = frees ++ (added ++ session.process.journal) ∧
    (∀ crossing ∈ frees, crossing.paid.isSome) ∧
    ∀ crossing ∈ added, crossing.Draws session.holdings paired

/-- The handle of an object is among those of its session. -/
theorem object?_holdings {session : Session State} {label : String} {object : Object}
    (found : session.object? label = some object) : object.holdings ⊆ session.holdings := by
  obtain ⟨entry, isEntry, rfl⟩ := Option.map_eq_some_iff.mp found
  exact fun holding member =>
    List.mem_flatMap.mpr ⟨entry, List.mem_of_find?_eq_some isEntry, member⟩

/-- The release of an object is nothing but a release. -/
theorem releaseObject_journal (around : Surroundings State) (cause : ReleaseCause)
    (object : Object) (process : Host State) :
    ∃ frees, (releaseObject around cause object process).2.journal = frees ++ process.journal ∧
      ∀ crossing ∈ frees, crossing.paid.isSome := by
  simp only [releaseObject, Surroundings.releaseHandle]
  cases object.handle.slot with
  | none => exact ⟨[], rfl, List.forall_mem_nil _⟩
  | some address =>
    refine ⟨[.released object.handle.library.id (.object object.kind address)], rfl, ?_⟩
    exact List.forall_mem_singleton.mpr rfl

variable {session : Session State} {paired : Prop}

theorem Grows.same {after : Session State}
    (journal : after.process.journal = session.process.journal) : session.Grows paired after :=
  ⟨[], [], journal, List.forall_mem_nil _, List.forall_mem_nil _⟩

/-- An object that goes away afterwards is released afterwards. -/
theorem Grows.dropObject {after : Session State} (grows : session.Grows paired after)
    (object : Object) : session.Grows paired (dropObject around object after) := by
  obtain ⟨frees, added, journal, paid, draws⟩ := grows
  obtain ⟨more, journalMore, paidMore⟩ :=
    releaseObject_journal around .drop object after.process
  refine ⟨more ++ frees, added, ?_, List.forall_mem_append.mpr ⟨paidMore, paid⟩, draws⟩
  rw [List.append_assoc, ← journal]
  exact journalMore

theorem Grows.keep {after : Session State} (grows : session.Grows paired after) (label : String)
    (object : Object) : session.Grows paired (after.keep around label object) := by
  unfold Session.keep
  split
  · exact grows
  · exact Grows.dropObject grows _

theorem Grows.dispose (label : String) (object : Object) :
    session.Grows paired (session.dispose around label object).2 := by
  obtain ⟨frees, journal, paid⟩ :=
    releaseObject_journal around .explicit object session.process
  exact ⟨frees, [], journal, paid, List.forall_mem_nil _⟩

/-! ### Operations -/

theorem Grows.perform {action : Action State Content}
    (writes : Writes session.holdings paired action) :
    session.Grows paired (Session.perform action session).2 := by
  obtain ⟨added, journal, draws⟩ := writes session.process
  exact ⟨[], added, journal, List.forall_mem_nil _, draws⟩

theorem Grows.query {action : Action State Content}
    (writes : Writes session.holdings paired action) (answer : Content → Answer) :
    session.Grows paired (session.query action answer).2 :=
  Grows.perform writes

theorem Grows.construct {action : Action State Content} (label : String)
    (object : Content → Object) (writes : Writes session.holdings paired action) :
    session.Grows paired (session.construct around label action object).2 := by
  have grows := Grows.perform writes
  unfold Session.construct
  generalize Session.perform action session = ended at grows ⊢
  obtain ⟨outcome, after⟩ := ended
  cases outcome with
  | value content => exact grows.keep label (object content)
  | failure error => exact grows
  | halted halt => exact grows

section

variable (label : String)

theorem Grows.withWallet {next : Wallet → Response × Session State}
    (grows : ∀ wallet, session.object? label = some (.wallet wallet) →
      session.Grows paired (next wallet).2) :
    session.Grows paired (session.withWallet label next).2 := by
  unfold Session.withWallet
  split
  · exact grows _ (by assumption)
  · exact .same rfl

theorem Grows.withPsbt {next : Psbt → Response × Session State}
    (grows : ∀ psbt, session.object? label = some (.psbt psbt) →
      session.Grows paired (next psbt).2) :
    session.Grows paired (session.withPsbt label next).2 := by
  unfold Session.withPsbt
  split
  · exact grows _ (by assumption)
  · exact .same rfl

theorem Grows.withBuilder {next : TxBuilder → Response × Session State}
    (grows : ∀ builder, session.object? label = some (.builder builder) →
      session.Grows paired (next builder).2) :
    session.Grows paired (session.withBuilder label next).2 := by
  unfold Session.withBuilder
  split
  · exact grows _ (by assumption)
  · exact .same rfl

theorem Grows.withTarget {next : Object → Response × Session State}
    (grows : ∀ object, session.Grows paired (next object).2) :
    session.Grows paired (session.withTarget label next).2 := by
  unfold Session.withTarget
  split
  · exact grows _
  · exact .same rfl

end

/-- Every operation draws its pointers from the handles of the session, and those of its objects are
of one library if the objects are. -/
theorem Grows.operate {operation : Operation} (pairing : paired → session.OfOneLibrary operation) :
    session.Grows paired (session.operate around operation).2 := by
  cases operation with
  | openMemory label => exact .construct label .database .memoryDatabase
  | openFile label path => exact .construct label .database (.fileDatabase path)
  | openWallet label database descriptor change network =>
    simp only [Session.operate]
    split
    · rename_i found
      exact .construct label .wallet
        (.newWallet descriptor change network (object?_holdings found))
    · exact .same rfl
  | networkName wallet => exact .withWallet wallet fun _ _ => .same rfl
  | peekAddress wallet index =>
    exact .withWallet wallet fun _ found => .query (.peekAddress (object?_holdings found) index) _
  | revealNextAddress wallet =>
    exact .withWallet wallet fun _ found => .query (.revealNextAddress (object?_holdings found)) _
  | peekFirst wallet count =>
    exact .withWallet wallet fun _ found =>
      .query (.each (fun index => .peekAddress (object?_holdings found) (UInt32.ofNat index)) _) _
  | balance wallet =>
    exact .withWallet wallet fun _ found => .query (.walletBalance (object?_holdings found)) _
  | listUnspent wallet =>
    exact .withWallet wallet fun _ found => .query (.listUnspent (object?_holdings found)) _
  | listTransactions wallet =>
    exact .withWallet wallet fun _ found => .query (.listTransactions (object?_holdings found)) _
  | connect label config => exact .construct label .blockchain (.connect config)
  | sync wallet chain =>
    refine .withWallet wallet fun _ found => ?_
    split
    · rename_i foundChain
      refine .query (.sync (object?_holdings found) (object?_holdings foundChain) fun holds => ?_) _
      exact pairing holds (chain, .blockchain) (by simp [Operation.targets]) (wallet, .wallet)
        (by simp [Operation.targets]) _ _ foundChain found
    · exact .same rfl
  | sign wallet psbt =>
    refine .withWallet wallet fun _ found => .withPsbt psbt fun _ foundPsbt => ?_
    refine .query (.sign (object?_holdings found) (object?_holdings foundPsbt) fun holds => ?_) _
    exact pairing holds (psbt, .psbt) (by simp [Operation.targets]) (wallet, .wallet)
      (by simp [Operation.targets]) _ _ foundPsbt found
  | parsePsbt label base64 => exact .construct label .psbt (.parsePsbt base64)
  | serialize psbt =>
    exact .withPsbt psbt fun _ found => .query (.serialize (object?_holdings found)) _
  | txid psbt => exact .withPsbt psbt fun _ found => .query (.txid (object?_holdings found)) _
  | newBuilder label => exact .construct label .builder .newBuilder
  | addRecipient builder recipient amount =>
    exact .withBuilder builder fun _ found =>
      .query (.addRecipient (object?_holdings found) recipient amount) _
  | feeRate builder satPerVb =>
    exact .withBuilder builder fun _ found => .query (.feeRate (object?_holdings found) satPerVb) _
  | finish label builder wallet =>
    refine .withBuilder builder fun _ found => .withWallet wallet fun _ foundWallet => ?_
    refine .construct label .psbt
      (.finish (object?_holdings foundWallet) (object?_holdings found) fun holds => ?_)
    exact pairing holds (wallet, .wallet) (by simp [Operation.targets]) (builder, .txBuilder)
      (by simp [Operation.targets]) _ _ foundWallet found
  | adopt label kind address =>
    exact .construct label (.bare kind) (.bind .library fun library => .wrap kind library address)
  | dispose target => exact .withTarget target fun object => .dispose target object
  | isLive target => exact .withTarget target fun _ => .same rfl
  | drop target =>
    refine .withTarget target fun object => ?_
    have removed : session.Grows paired (session.remove target) := .same rfl
    exact removed.dropObject object
  | describe target => exact .withTarget target fun _ => .same rfl

/-! ### Histories -/

/-- Every operation of a history uses objects of one library. -/
def AlwaysOfOneLibrary (around : Surroundings State) :
    List Occurrence → Session State → Prop
  | [], _ => True
  | occurrence :: rest, session =>
    (∀ operation, occurrence = .operation operation → session.OfOneLibrary operation) ∧
      AlwaysOfOneLibrary around rest (session.occur around occurrence).2

instance (session : Session State) (operation : Operation) :
    Decidable (session.OfOneLibrary operation) :=
  decidable_of_iff
    (∀ first ∈ operation.targets, ∀ second ∈ operation.targets,
      ∀ object ∈ session.object? first.1, ∀ other ∈ session.object? second.1,
        object.handle.library.id = other.handle.library.id)
    ⟨fun agree first isFirst second isSecond object other found foundOther =>
        agree first isFirst second isSecond object found other foundOther,
      fun same first isFirst second isSecond object found other foundOther =>
        same first isFirst second isSecond object other found foundOther⟩

instance decidableOfOneLibrary (session : Session State) (occurrence : Occurrence) :
    Decidable (∀ operation, occurrence = .operation operation → session.OfOneLibrary operation) :=
  match occurrence with
  | .operation operation =>
    decidable_of_iff (session.OfOneLibrary operation)
      ⟨fun agrees _ same => Occurrence.operation.inj same ▸ agrees, fun agrees => agrees _ rfl⟩
  | .install _ => .isTrue nofun
  | .teardown => .isTrue nofun
  | .bind _ => .isTrue nofun

instance decidableAlwaysOfOneLibrary (around : Surroundings State) :
    (occurrences : List Occurrence) → (session : Session State) →
      Decidable (AlwaysOfOneLibrary around occurrences session)
  | [], _ => .isTrue trivial
  | occurrence :: rest, session =>
    have := decidableOfOneLibrary session occurrence
    have := decidableAlwaysOfOneLibrary around rest (session.occur around occurrence).2
    inferInstanceAs
      (Decidable ((∀ operation, occurrence = .operation operation →
          session.OfOneLibrary operation) ∧
        AlwaysOfOneLibrary around rest (session.occur around occurrence).2))

theorem Grows.occur {occurrence : Occurrence}
    (pairing : paired →
      ∀ operation, occurrence = .operation operation → session.OfOneLibrary operation) :
    session.Grows paired (session.occur around occurrence).2 := by
  cases occurrence with
  | operation operation => exact .operate fun holds => pairing holds operation rfl
  | _ => exact .same rfl

/-- What happens in a session passes pointers as the handles of the session allow. -/
theorem Grows.throughout {after : Session State} (grows : session.Grows paired after)
    (kept : Kept (replayLedger around) session) (keptAfter : Kept (replayLedger around) after)
    (throughout : Crossing.Throughout (Crossing.Passes paired) session.process.journal) :
    Crossing.Throughout (Crossing.Passes paired) after.process.journal := by
  obtain ⟨frees, added, journal, paid, draws⟩ := grows
  obtain ⟨held, before, account⟩ := kept.holds
  obtain ⟨left, replayed, _⟩ := keptAfter.holds
  have backed : Crossing.Backed session.holdings held := fun library kind address member =>
    account.symm.subset (List.mem_map_of_mem member)
  rw [journal] at replayed ⊢
  obtain ⟨middle, replayedMiddle⟩ := Crossing.outstanding_append replayed
  have drawn := (throughout.draw before backed draws replayedMiddle).1
  exact drawn.release paid replayed

/-- A history without adoptions passes only pointers that handles own. -/
theorem Kept.throughout {occurrences : List Occurrence} {session : Session State}
    (kept : Kept (replayLedger around) session)
    (facade : ∀ occurrence ∈ occurrences, occurrence.isFacade)
    (pairing : paired → AlwaysOfOneLibrary around occurrences session)
    (throughout : Crossing.Throughout (Crossing.Passes paired) session.process.journal) :
    Crossing.Throughout (Crossing.Passes paired)
      (session.occurAll around occurrences).2.process.journal := by
  induction occurrences generalizing session with
  | nil => exact throughout
  | cons occurrence rest inductionHypothesis =>
    have keptNext := kept.occur (facade occurrence List.mem_cons_self)
    have grows : session.Grows paired (session.occur around occurrence).2 :=
      .occur fun holds => (pairing holds).1
    exact inductionHypothesis keptNext
      (fun other member => facade other (List.mem_cons_of_mem _ member))
      (fun holds => (pairing holds).2) (grows.throughout kept keptNext throughout)

/-- Whatever happens to the binding, every receiver and every object that is freed is one that the
called library made and has not got back, and every second argument is an object that some library
made and has not got back. It is one of the called library as long as every operation uses objects
of one library. -/
theorem passed_pointers_owned (around : Surroundings State) (environment : Option String)
    (native : State) (occurrences : List Occurrence)
    (facade : ∀ occurrence ∈ occurrences, occurrence.isFacade) :
    let session := fresh environment native
    let journal := (session.occurAll around occurrences).2.process.journal
    Crossing.Throughout
        (fun crossing held => crossing.ReceiverOwned held ∧ crossing.ArgumentLive held) journal ∧
      (AlwaysOfOneLibrary around occurrences session →
        Crossing.Throughout Crossing.PointersOwned journal) := by
  intro session journal
  have passes : Crossing.Throughout
      (Crossing.Passes (AlwaysOfOneLibrary around occurrences session)) journal :=
    (kept_fresh around environment native).throughout facade id trivial
  refine ⟨passes.mono fun crossing held passed => ⟨passed.receiver, ?_⟩,
    fun paired => passes.mono fun crossing held passed => ⟨passed.receiver, ?_⟩⟩
  · intro pointer isArgument
    obtain ⟨owner, member, _⟩ := passed.argument pointer isArgument
    exact ⟨owner, member⟩
  · intro pointer isArgument
    obtain ⟨owner, member, same⟩ := passed.argument pointer isArgument
    exact same paired ▸ member

/-- A history with two libraries, in which a wallet of the first is brought up to date with a
connection of the second. -/
def crossedHistory : List Occurrence :=
  [.install (.complete "first"), .operation (.openMemory "ledger"),
   .operation (.openWallet "savings" "ledger" "descriptor" none .testnet), .teardown,
   .install (.complete "second"), .operation (.connect "chain" .default),
   .operation (.sync "savings" "chain")]

/-- A history with the same two libraries, in which the objects of each are used among themselves: a
second wallet is brought up to date with the connection, and only then is the first one asked. -/
def separateHistory : List Occurrence :=
  [.install (.complete "first"), .operation (.openMemory "ledger"),
   .operation (.openWallet "savings" "ledger" "descriptor" none .testnet), .teardown,
   .install (.complete "second"), .operation (.openMemory "cash book"),
   .operation (.openWallet "petty cash" "cash book" "descriptor" none .testnet),
   .operation (.connect "chain" .default), .operation (.sync "petty cash" "chain"),
   .operation (.balance "savings")]

theorem passed_pointers_owned_crossed :
    let start : Session Scripted := fresh none Scripted.fresh
    let journal := fun history => (start.occurAll scriptedSurroundings history).2.process.journal
    (Crossing.Throughout
          (fun crossing held => crossing.ReceiverOwned held ∧ crossing.ArgumentLive held)
          (journal crossedHistory) ∧
        ¬AlwaysOfOneLibrary scriptedSurroundings crossedHistory start) ∧
      AlwaysOfOneLibrary scriptedSurroundings separateHistory start ∧
      Crossing.Throughout Crossing.PointersOwned (journal separateHistory) ∧
      (journal separateHistory).filterMap (fun crossing =>
          crossing.receiver?.map fun pointer => (crossing.library, pointer, crossing.argument?)) =
        [(0, (.wallet, 2), none), (1, (.wallet, 4), some (.blockchain, 5)),
         (1, (.databaseConfig, 3), none), (0, (.databaseConfig, 1), none)] := by
  have crossed := passed_pointers_owned scriptedSurroundings none Scripted.fresh crossedHistory
    (by decide)
  have separate := passed_pointers_owned scriptedSurroundings none Scripted.fresh separateHistory
    (by decide)
  have apart : AlwaysOfOneLibrary scriptedSurroundings separateHistory
      (fresh none Scripted.fresh) := by
    decide +kernel
  exact ⟨⟨crossed.1, by decide +kernel⟩, apart, separate.2 apart, by decide +kernel⟩

/-- A library can be passed the object of another one. -/
theorem passed_pointer_need_not_be_owned :
    ¬∀ occurrences : List Occurrence, (∀ occurrence ∈ occurrences, occurrence.isFacade) →
      Crossing.Throughout Crossing.PointersOwned
        ((fresh none Scripted.fresh).occurAll scriptedSurroundings
          occurrences).2.process.journal := by
  intro alwaysOwned
  refine absurd (alwaysOwned crossedHistory ?_) ?_
  · decide
  · decide +kernel

end Session

end WalletBridge
