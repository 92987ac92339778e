/-
This file proves that the host calls exactly the free functions that the ownership table pairs with
the answers it got, for any native side, whatever it answers. The journal is replayed from its
beginning: every answer makes something due, and a release may only give back what is outstanding at
that moment. The replay never fails, so nothing is given back twice, too early or without having
been handed over, and what is outstanding in the end is exactly what the handles of the session own.
The names of the functions are read off the table and off the releases separately, and agree.
-/

import WalletBridge.Proofs.SessionLedger
import WalletBridge.Scripted

namespace WalletBridge

/-! ### Replaying a journal -/

namespace Crossing

/-- What is outstanding after a journal, whose last crossing comes first. There is no such list when
something was given back that was not outstanding at that moment. -/
def outstanding : List Crossing → Option (List (LibraryId × Release))
  | [] => some []
  | crossing :: earlier =>
    (outstanding earlier).bind fun held =>
      match crossing.paid with
      | some payment => if payment ∈ held then some (held.erase payment) else none
      | none => some (crossing.due ++ held)

/-- A replay that does not fail accounts for everything: what was due is what was given back and
what is outstanding. -/
theorem allDue_perm_of_outstanding {journal : List Crossing} {held : List (LibraryId × Release)}
    (replayed : outstanding journal = some held) :
    (allDue journal).Perm (allPaid journal ++ held) := by
  induction journal generalizing held with
  | nil =>
    cases replayed
    exact List.Perm.refl _
  | cons crossing earlier inductionHypothesis =>
    obtain ⟨before, replayedBefore, step⟩ := Option.bind_eq_some_iff.mp replayed
    have account := inductionHypothesis replayedBefore
    unfold allDue allPaid at account ⊢
    rw [List.flatMap_cons, List.filterMap_cons]
    cases crossing with
    | released library release =>
      simp only [paid] at step ⊢
      split at step
      · rename_i member
        cases step
        have erased := (List.perm_cons_erase member).append_left (earlier.filterMap paid)
        exact account.trans (erased.trans List.perm_middle)
      · cases step
    | asked library payload entry reply =>
      cases step
      exact (account.append_left _).trans (List.perm_append_comm_assoc _ _ _)
    | handed library payload call value =>
      cases step
      exact (account.append_left _).trans (List.perm_append_comm_assoc _ _ _)

theorem due_eq_debts (crossing : Crossing) :
    crossing.holdings.map Holding.debt = crossing.due := by
  simp [holdings, Holding.debt, Function.comp_def]

/-- What a crossing that gives nothing back makes due is outstanding from then on. -/
theorem outstanding_due {crossing : Crossing} {journal : List Crossing}
    {held : List (LibraryId × Release)} {holdings : List Holding} (unpaid : crossing.paid = none)
    (replayed : outstanding journal = some held) (account : held.Perm (holdings.map Holding.debt)) :
    ∃ left, outstanding (crossing :: journal) = some left ∧
      left.Perm ((crossing.holdings ++ holdings).map Holding.debt) := by
  refine ⟨crossing.due ++ held, ?_, ?_⟩
  · simp only [outstanding, replayed, unpaid, Option.bind_some]
  · rw [List.map_append, due_eq_debts]
    exact account.append_left crossing.due

/-- A release of something outstanding takes it off. -/
theorem outstanding_released {library : LibraryId} {freed : Release} {journal : List Crossing}
    {held rest : List (LibraryId × Release)} (replayed : outstanding journal = some held)
    (account : held.Perm ((library, freed) :: rest)) :
    ∃ left, outstanding (.released library freed :: journal) = some left ∧ left.Perm rest := by
  have member : (library, freed) ∈ held := account.symm.subset List.mem_cons_self
  refine ⟨held.erase (library, freed), ?_, ?_⟩
  · simp only [outstanding, replayed, paid, Option.bind_some, if_pos member]
  · exact (List.cons_perm_iff_perm_erase.mp account.symm).2.symm

end Crossing

/-- The replay of the journal as a way to keep account: the holdings are what is outstanding. -/
def replayLedger {State : Type} (around : Surroundings State) : Ledger around where
  Holds process holdings :=
    ∃ held, Crossing.outstanding process.journal = some held ∧ held.Perm (holdings.map Holding.debt)
  perm same holds := by
    obtain ⟨held, replayed, account⟩ := holds
    exact ⟨held, replayed, account.trans (same.map _)⟩
  rebind _ holds := holds
  ask library entry reply native _ holds := by
    obtain ⟨held, replayed, account⟩ := holds
    exact Crossing.outstanding_due rfl replayed account
  call library direct value native _ holds := by
    obtain ⟨held, replayed, account⟩ := holds
    exact Crossing.outstanding_due rfl replayed account
  release library freed holds := by
    obtain ⟨held, replayed, account⟩ := holds
    exact Crossing.outstanding_released replayed account
  wrap _ _ _ holds := holds
  unwrap library kind address cause holds := by
    obtain ⟨held, replayed, account⟩ := holds
    exact Crossing.outstanding_released replayed account

/-! ### Free functions by name -/

/-- A call of a free function. -/
structure FreeCall where
  library : LibraryId
  function : String
  /-- What it gives back. -/
  freed : Release
  deriving Repr, DecidableEq

/-- The call that a release is. -/
def FreeCall.ofDebt (debt : LibraryId × Release) : FreeCall := ⟨debt.1, debt.2.symbol, debt.2⟩

/-- The free functions that a journal called. -/
def Crossing.frees (journal : List Crossing) : List FreeCall :=
  (allPaid journal).map FreeCall.ofDebt

namespace Ownership

/-- The call by which a row has the transit struct of an answer released. -/
def transitCalls (row : Ownership) (library : LibraryId) {payload : Payload}
    (reply : Reply payload) : List FreeCall :=
  match row.transit, transitRelease? reply with
  | some function, some release => [⟨library, function, release⟩]
  | _, _ => []

/-- The call by which a row has a payload released. -/
def payloadCalls (row : Ownership) (library : LibraryId) (payload : Payload)
    (value : payload.Raw) : List FreeCall :=
  match row.payload, payloadRelease? payload value with
  | some function, some release => [⟨library, function, release⟩]
  | _, _ => []

/-- The calls that the table pairs with a crossing: the transit struct of an answer, and the payload
where no error stands beside it. -/
def calls : Crossing → List FreeCall
  | .asked library payload entry reply =>
    match find? entry.symbol with
    | some row =>
      row.transitCalls library reply ++
        match reply with
        | some ⟨value, none⟩ => row.payloadCalls library payload value
        | _ => []
    | none => []
  | .handed library payload call value =>
    match find? call.symbol with
    | some row => row.payloadCalls library payload value
    | none => []
  | .released _ _ => []

/-- The table pairs with an entry point what its payload type is released with. -/
theorem find?_entry {payload : Payload} (entry : Entry payload) :
    find? entry.symbol = some ⟨entry.symbol, payload.transitFree, payload.payloadFree⟩ := by
  cases entry <;> rfl

/-- The table pairs with a direct call what its payload type is released with. -/
theorem find?_directCall {payload : Payload} (call : DirectCall payload) :
    find? call.symbol = some ⟨call.symbol, none, payload.payloadFree⟩ := by
  cases call <;> rfl

/-- Every entry point answers with a payload whose transit struct has a free function. -/
theorem transitFree_entry {payload : Payload} (entry : Entry payload) :
    payload.transitFree = some (payload.transitFree.getD "") := by
  cases entry <;> rfl

theorem transitCalls_eq (allocator : String) (payloadName : Option String) (library : LibraryId)
    {payload : Payload} (entry : Entry payload) (reply : Reply payload) :
    transitCalls ⟨allocator, payload.transitFree, payloadName⟩ library reply =
      (transitRelease? reply).toList.map fun release => FreeCall.ofDebt (library, release) := by
  unfold transitCalls
  rw [transitFree_entry entry]
  cases reply with
  | none => rfl
  | some transit => rfl

theorem payloadCalls_eq (allocator : String) (transitName : Option String) (library : LibraryId)
    (payload : Payload) (value : payload.Raw) :
    payloadCalls ⟨allocator, transitName, payload.payloadFree⟩ library payload value =
      (payloadRelease? payload value).toList.map fun release =>
        FreeCall.ofDebt (library, release) := by
  cases payload with
  | object kind => cases value <;> rfl
  | text => cases value <;> rfl
  | outputs => cases value <;> rfl
  | transactions => cases value <;> rfl
  | unit => rfl
  | flag => rfl
  | balance => rfl

/-- What a crossing makes due is released by the functions that the table names. -/
theorem calls_eq (crossing : Crossing) : calls crossing = crossing.due.map FreeCall.ofDebt := by
  cases crossing with
  | asked library payload entry reply =>
    simp only [calls, Crossing.due, find?_entry, transitCalls_eq _ _ _ entry]
    rw [List.map_map, List.map_append]
    congr 1
    cases reply with
    | none => rfl
    | some transit =>
      obtain ⟨value, error⟩ := transit
      cases error with
      | none => exact payloadCalls_eq _ _ library payload value
      | some error => rfl
  | handed library payload call value =>
    simp only [calls, Crossing.due, find?_directCall, payloadCalls_eq]
    rw [List.map_map]
    rfl
  | released library release => rfl

theorem flatMap_calls (journal : List Crossing) :
    journal.flatMap calls = (Crossing.allDue journal).map FreeCall.ofDebt := by
  rw [Crossing.allDue, List.map_flatMap]
  exact congrArg (List.flatMap · journal) (funext calls_eq)

end Ownership

/-! ### Histories -/

namespace Session

variable {State : Type}

/-- A new session is kept by the replay. -/
theorem kept_fresh (around : Surroundings State) (environment : Option String) (native : State) :
    Kept (replayLedger around) (fresh environment native) :=
  ⟨List.Pairwise.nil, [], rfl, List.Perm.nil⟩

/-- After any history without adoptions the journal can be replayed, and what is outstanding is what
the handles of the session own. -/
theorem outstanding_eq_holdings (around : Surroundings State) (environment : Option String)
    (native : State) (occurrences : List Occurrence)
    (facade : ∀ occurrence ∈ occurrences, occurrence.isFacade) :
    ∃ held,
      Crossing.outstanding
          ((fresh environment native).occurAll around occurrences).2.process.journal = some held ∧
        held.Perm
          (((fresh environment native).occurAll around occurrences).2.holdings.map Holding.debt) :=
  ((kept_fresh around environment native).occurAll facade).holds

/-- When every object is disposed of or dropped, the free functions that were called are those that
the ownership table pairs with the answers, each called once for each allocation and after it was
handed over. -/
theorem frees_perm_ownership (around : Surroundings State) (environment : Option String)
    (native : State) (occurrences : List Occurrence)
    (facade : ∀ occurrence ∈ occurrences, occurrence.isFacade)
    (released : ((fresh environment native).occurAll around occurrences).2.liveCount = 0) :
    let journal := ((fresh environment native).occurAll around occurrences).2.process.journal
    Crossing.outstanding journal = some [] ∧
      (Crossing.frees journal).Perm (journal.flatMap Ownership.calls) := by
  intro journal
  obtain ⟨held, replayed, account⟩ :=
    outstanding_eq_holdings around environment native occurrences facade
  have noHoldings := List.eq_nil_of_length_eq_zero ((holdings_length _).trans released)
  rw [noHoldings, List.map_nil, List.perm_nil] at account
  subst account
  refine ⟨replayed, ?_⟩
  have complete := Crossing.allDue_perm_of_outstanding replayed
  rw [List.append_nil] at complete
  rw [Ownership.flatMap_calls]
  exact complete.symm.map FreeCall.ofDebt

/-- A native side whose next answer carries both a database and an error without a readable code. -/
def malformedDatabase : Scripted :=
  ⟨some ⟨.object .databaseConfig, .reply (some true) (some ⟨some [0xff], none⟩)⟩, 0, 0⟩

/-- A history in which one constructor fails and every object that was made is released. -/
def releasedHistory : List Occurrence :=
  [.install (.complete "linked"),
   .operation (.openFile "archive" [0x61, 0x2e, 0x64, 0x62]),
   .operation (.openMemory "ledger"),
   .operation (.openWallet "savings" "ledger" "descriptor" "change" .testnet),
   .operation (.revealNextAddress "savings"),
   .operation (.dispose "savings"),
   .operation (.drop "ledger")]

theorem frees_perm_ownership_released :
    let around : Surroundings Scripted := ⟨Scripted.side, fun _ => .error "absent"⟩
    let journal :=
      ((fresh none malformedDatabase).occurAll around releasedHistory).2.process.journal
    Crossing.outstanding journal = some [] ∧
      (Crossing.frees journal).Perm (journal.flatMap Ownership.calls) :=
  frees_perm_ownership ⟨Scripted.side, fun _ => .error "absent"⟩ none malformedDatabase
    releasedHistory (by decide) (by decide +kernel)

end Session

end WalletBridge
