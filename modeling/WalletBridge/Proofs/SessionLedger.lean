/-
This file carries an account of holdings through sessions. The holdings of a session are the handles
of the objects in its table, and a session is kept by a ledger when the table is in order and the
ledger holds for exactly these holdings. Every operation of a facade, every change of the binding
and the closing at the end keep a session, so that every history of them does.
-/

import WalletBridge.Host.History
import WalletBridge.Proofs.FacadeLedger

namespace WalletBridge

/-- Whether an operation is one of the facades: every one but the adoption of an address that the
caller brings along. -/
def Operation.isFacade : Operation → Bool
  | .adopt .. => false
  | _ => true

/-- Whether something that happens is no adoption. -/
def Occurrence.isFacade : Occurrence → Bool
  | .operation done => done.isFacade
  | _ => true

/-- The holding of an object, as long as its native object is there. -/
def Object.holdings (object : Object) : List Holding := object.handle.holdings

theorem Object.withHandle_holdings (object : Object) (handle : Handle object.kind) :
    (object.withHandle handle).holdings = handle.holdings := by
  cases object <;> rfl

theorem Object.holdings_length (object : Object) :
    object.holdings.length = if object.isLive then 1 else 0 := by
  unfold holdings isLive Handle.isLive Handle.holdings
  cases object.handle.slot <;> rfl

namespace Session

variable {State Content : Type}

/-! ### Tables of objects -/

/-- Whether a table is in the order of its names, each of which it has once. -/
def Ordered (objects : List (String × Object)) : Prop :=
  objects.Pairwise fun first second => first.1 < second.1

/-- The handles of the objects in a table. -/
def tableHoldings (objects : List (String × Object)) : List Holding :=
  objects.flatMap fun entry => entry.2.holdings

/-- The handle of the object that a table has under a name. -/
def formerHoldings (label : String) (objects : List (String × Object)) : List Holding :=
  ((objects.find? (·.1 == label)).map (·.2.holdings)).getD []

/-- The handles of the objects of a session. -/
def holdings (session : Session State) : List Holding := tableHoldings session.objects

theorem tableHoldings_cons (entry : String × Object) (rest : List (String × Object)) :
    tableHoldings (entry :: rest) = entry.2.holdings ++ tableHoldings rest := rfl

theorem formerHoldings_of_found {label : String} {object : Object}
    {objects : List (String × Object)}
    (found : (objects.find? (·.1 == label)).map (·.2) = some object) :
    formerHoldings label objects = object.holdings := by
  obtain ⟨entry, isEntry, rfl⟩ := Option.map_eq_some_iff.mp found
  rw [formerHoldings, isEntry]
  rfl

/-- In an ordered table no later entry has the name of an earlier one. -/
theorem find?_eq_none_of_before {label : String} {rest : List (String × Object)}
    (before : ∀ other ∈ rest, label < other.1) : rest.find? (·.1 == label) = none := by
  rw [List.find?_eq_none]
  intro other member same
  have less := before other member
  rw [eq_of_beq same] at less
  exact String.lt_irrefl label less

/-- Taking the first name out of an ordered table leaves the rest. -/
theorem Ordered.filter_head {entry : String × Object} {rest : List (String × Object)}
    (ordered : Ordered (entry :: rest)) :
    (entry :: rest).filter (·.1 != entry.1) = rest := by
  have before := (List.pairwise_cons.mp ordered).1
  rw [List.filter_cons_of_neg (by simp)]
  refine List.filter_eq_self.mpr fun other member => ?_
  simpa using fun equal : other.1 = entry.1 => String.lt_irrefl _ (equal ▸ before other member)

theorem mem_insert {label : String} {object : Object} {objects : List (String × Object)}
    {entry : String × Object} (member : entry ∈ insert label object objects) :
    entry = (label, object) ∨ entry ∈ objects := by
  induction objects with
  | nil => exact Or.inl (List.mem_singleton.mp member)
  | cons head rest inductionHypothesis =>
    unfold insert at member
    split at member
    · rcases List.mem_cons.mp member with here | there
      · exact Or.inl here
      · exact Or.inr (List.mem_cons_of_mem _ there)
    · split at member
      · exact List.mem_cons.mp member
      · rcases List.mem_cons.mp member with here | there
        · exact Or.inr (here ▸ List.mem_cons_self)
        · exact (inductionHypothesis there).imp_right (List.mem_cons_of_mem _)

theorem Ordered.insert {label : String} {object : Object} {objects : List (String × Object)}
    (ordered : Ordered objects) : Ordered (insert label object objects) := by
  induction objects with
  | nil => exact List.pairwise_singleton _ _
  | cons head rest inductionHypothesis =>
    obtain ⟨before, orderedRest⟩ := List.pairwise_cons.mp ordered
    unfold Session.insert
    split
    · rename_i same
      refine List.pairwise_cons.mpr ⟨fun other member => ?_, orderedRest⟩
      rw [eq_of_beq same]
      exact before other member
    · split
      · rename_i less
        refine List.pairwise_cons.mpr ⟨fun other member => ?_, ordered⟩
        rcases List.mem_cons.mp member with here | there
        · exact here ▸ less
        · exact String.lt_trans less (before other there)
      · rename_i differs notLess
        refine List.pairwise_cons.mpr ⟨fun other member => ?_, inductionHypothesis orderedRest⟩
        rcases mem_insert member with here | there
        · rw [here]
          have apart : label ≠ head.1 := by simpa using differs
          exact Decidable.byContradiction fun notGreater =>
            apart (String.le_antisymm notGreater notLess)
        · exact before other there

/-- Inserting adds the handle of what is inserted and takes the handle of a former object. -/
theorem tableHoldings_insert (label : String) (object : Object) {objects : List (String × Object)}
    (ordered : Ordered objects) :
    (formerHoldings label objects ++ tableHoldings (insert label object objects)).Perm
      (object.holdings ++ tableHoldings objects) := by
  unfold formerHoldings
  induction objects with
  | nil => simp [insert, tableHoldings]
  | cons head rest inductionHypothesis =>
    obtain ⟨before, orderedRest⟩ := List.pairwise_cons.mp ordered
    unfold insert
    by_cases same : label = head.1
    · subst same
      simp only [List.find?_cons, beq_self_eq_true, Option.map_some, Option.getD_some, if_true,
        tableHoldings_cons]
      exact List.perm_append_comm_assoc _ _ _
    · have other : (head.1 == label) = false := by simpa using fun equal => same equal.symm
      have differs : (label == head.1) = false := by simpa using same
      rw [List.find?_cons, other, differs]
      simp only [Bool.false_eq_true, if_false]
      split
      · rename_i less
        rw [find?_eq_none_of_before fun entry member => String.lt_trans less (before entry member)]
        exact List.Perm.refl _
      · rw [tableHoldings_cons, tableHoldings_cons]
        have moved := (inductionHypothesis orderedRest).append_left head.2.holdings
        exact (List.perm_append_comm_assoc _ _ _).trans
          (moved.trans (List.perm_append_comm_assoc _ _ _))

/-- Removing a name takes the handle of its object. -/
theorem tableHoldings_remove {label : String} {former : Object} {objects : List (String × Object)}
    (ordered : Ordered objects) (found : (objects.find? (·.1 == label)).map (·.2) = some former) :
    (former.holdings ++ tableHoldings (objects.filter (·.1 != label))).Perm
      (tableHoldings objects) := by
  induction objects with
  | nil => cases found
  | cons head rest inductionHypothesis =>
    obtain ⟨before, orderedRest⟩ := List.pairwise_cons.mp ordered
    by_cases same : head.1 = label
    · subst same
      have formerEq : head.2 = former := by simpa using found
      rw [ordered.filter_head, ← formerEq]
      exact List.Perm.refl _
    · rw [List.find?_cons_of_neg (by simpa using same)] at found
      rw [List.filter_cons_of_pos (by simpa using same), tableHoldings_cons, tableHoldings_cons]
      have moved := (inductionHypothesis orderedRest found).append_left head.2.holdings
      exact (List.perm_append_comm_assoc _ _ _).trans moved

theorem tableHoldings_length (objects : List (String × Object)) :
    (tableHoldings objects).length = objects.countP (·.2.isLive) := by
  induction objects with
  | nil => rfl
  | cons head rest inductionHypothesis =>
    rw [tableHoldings_cons, List.length_append, inductionHypothesis, List.countP_cons,
      Object.holdings_length, Nat.add_comm]

theorem holdings_length (session : Session State) :
    session.holdings.length = session.liveCount := tableHoldings_length session.objects

theorem isHandle_of_mem_holdings {session : Session State} {holding : Holding}
    (member : holding ∈ session.holdings) : holding.isHandle = true := by
  obtain ⟨entry, _, inEntry⟩ := List.mem_flatMap.mp member
  obtain ⟨address, _, rfl⟩ := List.mem_map.mp inEntry
  rfl

/-! ### Kept sessions -/

variable {around : Surroundings State} {ledger : Ledger around}

/-- A session whose table is in order and whose holdings are those of its objects. -/
structure Kept (ledger : Ledger around) (session : Session State) : Prop where
  ordered : Ordered session.objects
  holds : ledger.Holds session.process session.holdings

/-- A session that holds something besides its objects. -/
structure KeptWith (ledger : Ledger around) (loose : List Holding) (session : Session State) :
    Prop where
  ordered : Ordered session.objects
  holds : ledger.Holds session.process (loose ++ session.holdings)

theorem releaseObject_settles (cause : ReleaseCause) (object : Object) (process : Host State)
    {rest : List Holding} (holds : ledger.Holds process (object.holdings ++ rest)) :
    ledger.Holds (releaseObject around cause object process).2 rest ∧
      (releaseObject around cause object process).1.2.holdings = [] := by
  simp only [releaseObject, Object.withHandle_holdings]
  unfold Object.holdings Handle.holdings at holds
  unfold Surroundings.releaseHandle Handle.holdings
  cases slot : object.handle.slot with
  | none =>
    rw [slot] at holds
    simp only [slot]
    exact ⟨holds, rfl⟩
  | some address =>
    rw [slot] at holds
    exact ⟨ledger.unwrap _ _ address cause holds, rfl⟩

/-- An object that goes away settles its handle. -/
theorem KeptWith.dropObject {object : Object} {session : Session State}
    (kept : KeptWith ledger object.holdings session) :
    Kept ledger (dropObject around object session) :=
  ⟨kept.ordered, (releaseObject_settles .drop object session.process kept.holds).1⟩

/-- A new object takes its place in the table, and a former one of its name goes away. -/
theorem KeptWith.keep {label : String} {object : Object} {session : Session State}
    (kept : KeptWith ledger object.holdings session) :
    Kept ledger (session.keep around label object) := by
  have exchanged := tableHoldings_insert label object kept.ordered
  have inserted := ledger.perm exchanged.symm kept.holds
  unfold Session.keep Session.object?
  cases found : session.objects.find? (·.1 == label) with
  | none =>
    rw [formerHoldings, found] at inserted
    exact ⟨kept.ordered.insert, inserted⟩
  | some former =>
    rw [formerHoldings, found] at inserted
    exact KeptWith.dropObject ⟨kept.ordered.insert, inserted⟩

/-- Taking an object out of the table leaves its handle to be settled. -/
theorem Kept.remove {label : String} {former : Object} {session : Session State}
    (kept : Kept ledger session) (found : session.object? label = some former) :
    KeptWith ledger former.holdings (session.remove label) :=
  ⟨kept.ordered.filter _, ledger.perm (tableHoldings_remove kept.ordered found).symm kept.holds⟩

/-- A disposed object stays in the table with an empty handle. -/
theorem Kept.dispose {label : String} {object : Object} {session : Session State}
    (kept : Kept ledger session) (found : session.object? label = some object) :
    Kept ledger (session.dispose around label object).2 := by
  obtain ⟨settled, emptied⟩ :=
    releaseObject_settles .explicit object session.process (kept.remove found).holds
  refine ⟨kept.ordered.insert, ledger.perm ?_ settled⟩
  have exchanged := tableHoldings_insert label
    (releaseObject around .explicit object session.process).1.2 kept.ordered
  have removed := tableHoldings_remove kept.ordered found
  rw [emptied, List.nil_append, formerHoldings_of_found found] at exchanged
  exact ((List.perm_append_left_iff _).mp (exchanged.trans removed.symm)).symm

/-! ### Operations -/

theorem Kept.query {action : Action State Content} {session : Session State}
    (kept : Kept ledger session) (settles : Settles ledger action [] fun _ => [])
    (answer : Content → Answer) : Kept ledger (session.query action answer).2 := by
  have holds := settles session.process session.holdings kept.holds
  unfold Session.query perform
  refine ⟨kept.ordered, ?_⟩
  generalize action session.process = ended at holds
  obtain ⟨outcome, after⟩ := ended
  cases outcome with
  | value content => exact holds
  | failure error => exact holds
  | halted halt => exact holds

theorem Kept.construct {action : Action State Content} {session : Session State}
    (kept : Kept ledger session) (label : String) (object : Content → Object)
    (settles : Settles ledger action [] fun content => (object content).holdings) :
    Kept ledger (session.construct around label action object).2 := by
  have holds := settles session.process session.holdings kept.holds
  unfold Session.construct perform
  generalize action session.process = ended at holds ⊢
  obtain ⟨outcome, after⟩ := ended
  cases outcome with
  | value content => exact KeptWith.keep ⟨kept.ordered, holds⟩
  | failure error => exact ⟨kept.ordered, holds⟩
  | halted halt => exact ⟨kept.ordered, holds⟩

section

variable {session : Session State} (kept : Kept ledger session) (label : String)

include kept

theorem Kept.withWallet {next : Wallet → Response × Session State}
    (keeps : ∀ wallet, Kept ledger (next wallet).2) :
    Kept ledger (session.withWallet label next).2 := by
  unfold Session.withWallet
  split
  · exact keeps _
  · exact kept

theorem Kept.withPsbt {next : Psbt → Response × Session State}
    (keeps : ∀ psbt, Kept ledger (next psbt).2) :
    Kept ledger (session.withPsbt label next).2 := by
  unfold Session.withPsbt
  split
  · exact keeps _
  · exact kept

theorem Kept.withBuilder {next : TxBuilder → Response × Session State}
    (keeps : ∀ builder, Kept ledger (next builder).2) :
    Kept ledger (session.withBuilder label next).2 := by
  unfold Session.withBuilder
  split
  · exact keeps _
  · exact kept

theorem Kept.withTarget {next : Object → Response × Session State}
    (keeps : ∀ object, session.object? label = some object → Kept ledger (next object).2) :
    Kept ledger (session.withTarget label next).2 := by
  unfold Session.withTarget
  split
  · exact keeps _ (by assumption)
  · exact kept

end

/-- Every operation of a facade keeps a session, however it ends. -/
theorem Kept.operate {session : Session State} (kept : Kept ledger session)
    {operation : Operation} (facade : operation.isFacade = true) :
    Kept ledger (session.operate around operation).2 := by
  cases operation with
  | openMemory label => exact kept.construct label .database .memoryDatabase
  | openFile label path => exact kept.construct label .database (.fileDatabase path)
  | openWallet label database descriptor change network =>
    simp only [Session.operate]
    split
    · exact kept.construct label .wallet (.newWallet descriptor change network _)
    · exact kept
  | networkName wallet => exact kept.withWallet wallet fun _ => kept
  | peekAddress wallet index =>
    exact kept.withWallet wallet fun found => kept.query (.peekAddress found index) _
  | revealNextAddress wallet =>
    exact kept.withWallet wallet fun found => kept.query (.revealNextAddress found) _
  | peekFirst wallet count =>
    exact kept.withWallet wallet fun found =>
      kept.query (.each (fun index => .peekAddress found (UInt32.ofNat index)) _) _
  | balance wallet => exact kept.withWallet wallet fun found => kept.query (.walletBalance found) _
  | listUnspent wallet =>
    exact kept.withWallet wallet fun found => kept.query (.listUnspent found) _
  | listTransactions wallet =>
    exact kept.withWallet wallet fun found => kept.query (.listTransactions found) _
  | connect label config => exact kept.construct label .blockchain (.connect config)
  | sync wallet chain =>
    refine kept.withWallet wallet fun found => ?_
    split
    · exact kept.query (.sync found _) _
    · exact kept
  | sign wallet psbt =>
    exact kept.withWallet wallet fun found =>
      kept.withPsbt psbt fun signed => kept.query (.sign found signed) _
  | parsePsbt label base64 => exact kept.construct label .psbt (.parsePsbt base64)
  | serialize psbt => exact kept.withPsbt psbt fun found => kept.query (.serialize found) _
  | txid psbt => exact kept.withPsbt psbt fun found => kept.query (.txid found) _
  | newBuilder label => exact kept.construct label .builder .newBuilder
  | addRecipient builder recipient amount =>
    exact kept.withBuilder builder fun found => kept.query (.addRecipient found recipient amount) _
  | feeRate builder satPerVb =>
    exact kept.withBuilder builder fun found => kept.query (.feeRate found satPerVb) _
  | finish label builder wallet =>
    exact kept.withBuilder builder fun found => kept.withWallet wallet fun funds =>
      kept.construct label .psbt (.finish found funds)
  | adopt label kind address => cases facade
  | dispose target => exact kept.withTarget target fun _ found => kept.dispose found
  | isLive target => exact kept.withTarget target fun _ _ => kept
  | drop target => exact kept.withTarget target fun _ found => (kept.remove found).dropObject
  | describe target => exact kept.withTarget target fun _ _ => kept

/-! ### Histories -/

theorem Kept.rebind {session : Session State} (kept : Kept ledger session)
    (change : Binding → Binding) : Kept ledger (session.rebind change) :=
  ⟨kept.ordered, ledger.rebind _ kept.holds⟩

theorem Kept.occur {session : Session State} (kept : Kept ledger session)
    {occurrence : Occurrence} (facade : occurrence.isFacade = true) :
    Kept ledger (session.occur around occurrence).2 := by
  cases occurrence with
  | operation operation => exact kept.operate facade
  | install resolver => exact kept.rebind fun binding => (binding.install resolver).2
  | bind config => exact kept.rebind fun binding => (binding.bind config around.loader).2
  | teardown => exact kept.rebind fun binding => binding.teardown.2

/-- Every history without adoptions keeps a session. -/
theorem Kept.occurAll {session : Session State} (kept : Kept ledger session)
    {occurrences : List Occurrence} (facade : ∀ occurrence ∈ occurrences, occurrence.isFacade) :
    Kept ledger (session.occurAll around occurrences).2 := by
  induction occurrences generalizing session with
  | nil => exact kept
  | cons occurrence rest inductionHypothesis =>
    exact inductionHypothesis (kept.occur (facade _ List.mem_cons_self))
      fun other member => facade other (List.mem_cons_of_mem _ member)

/-- Closing keeps a session, and leaves no object in it. -/
theorem Kept.close {session : Session State} (kept : Kept ledger session) :
    Kept ledger (session.close around) ∧ (session.close around).objects = [] := by
  unfold Session.close
  generalize objects : session.objects = entries
  induction entries generalizing session with
  | nil => exact ⟨kept, objects⟩
  | cons entry rest inductionHypothesis =>
    have ordered : Ordered (entry :: rest) := objects ▸ kept.ordered
    have found : session.object? entry.1 = some entry.2 := by
      simp [Session.object?, objects]
    have left : (session.remove entry.1).objects = rest := by
      simp only [Session.remove, objects]
      exact ordered.filter_head
    exact inductionHypothesis (kept.remove found).dropObject left

end Session

end WalletBridge
