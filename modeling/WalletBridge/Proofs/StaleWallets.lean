/-
This file is about several wallets that are open on one file. Every one of them counts its indexes
for itself, and what it writes takes the place of what the file held. As long as only those write
that have taken no fewer indexes than the file, nothing is handed out twice and the file never goes
back. A wallet that has fallen behind cannot hand an address out without breaking one or the other:
what it hands out is the last address of the file again, or else the file forgets indexes.
-/

import WalletBridge.Proofs.RevealedAddresses

namespace WalletBridge

namespace SharedFile

variable {key : StoreKey} {disk : Disk} {file before after : SharedFile}
variable {steps : List FileStep} {step : FileStep}

/-! ### Wallets that have fallen behind -/

/-- When an open wallet has fallen behind, the last index of the file was handed out. A stop that
leaves an index written but not handed out closes all wallets, so none of them is behind it. -/
def LastHandedOut (file : SharedFile) : Prop :=
  ∀ user wallet, file.wallet? user = some wallet → ∀ last, file.taken = last + 1 →
    wallet.revealed.taken ≤ last → last ∈ file.handedOutIndexes

theorem LastHandedOut.of_move (handedOut : before.LastHandedOut)
    (move : IndexMove before after step) : after.LastHandedOut := by
  cases move with
  | idle step taken issued wallets =>
    intro user wallet opened
    rw [taken, handedOutIndexes_of_issued issued]
    exact handedOut user wallet (wallets user wallet opened)
  | opening step user wallet taken equal issued opened others =>
    rw [LastHandedOut, taken, handedOutIndexes_of_issued issued]
    refine wallets_of_others opened (fun last lastTaken behind => ?_) others handedOut
    omega
  | withheld user wallet later fate opened taken issued advanced next noted others =>
    rw [LastHandedOut, taken, handedOutIndexes_of_issued issued]
    refine wallets_of_others advanced (fun last lastTaken behind => ?_) others handedOut
    exact handedOut user wallet opened last lastTaken (by omega)
  | lost user wallet opened taken issued closed =>
    intro other held opened
    rw [closed] at opened
    cases opened
  | handing user wallet later address opened taken issued =>
    intro other held _ last lastTaken _
    rw [taken] at lastTaken
    cases lastTaken
    rw [handedOutIndexes_cons issued]
    exact List.mem_cons_self

/-- What a wallet hands out that has fallen behind was handed out before, unless the file goes
back. -/
theorem IndexMove.repeats {user : Nat} {address : String}
    (move : IndexMove before after (.reveal user .written))
    (behind : before.WritesBehind (.reveal user .written)) (handedOut : before.LastHandedOut)
    (sourced : after.Sourced) (handed : after.handedOut = address :: before.handedOut) :
    address ∈ before.handedOut ∨ after.taken < before.taken := by
  have unissued : after.issued ≠ before.issued := by
    intro issued
    rw [handedOut_eq, issued, ← handedOut_eq] at handed
    exact List.cons_ne_self _ _ handed.symm
  obtain ⟨_, stale, staleOpened, less⟩ := behind
  cases move with
  | idle step taken issued => exact absurd issued unissued
  | opening step user wallet taken equal issued => exact absurd issued unissued
  | withheld user wallet later fate opened taken issued => exact absurd issued unissued
  | handing user wallet later text opened taken issued =>
    cases opened.symm.trans staleOpened
    rcases Nat.lt_or_eq_of_le (Nat.succ_le_of_lt less) with forgets | last
    · exact .inr (taken ▸ forgets)
    · refine .inl ?_
      have index : stale.revealed.taken ∈ before.handedOutIndexes :=
        handedOut user stale staleOpened _ last.symm (Nat.le_refl _)
      rw [handedOutIndexes_eq] at index
      obtain ⟨⟨place, former⟩, formerIssued, at_place⟩ := List.mem_map.mp index
      cases at_place
      have formerKept : (stale.revealed.taken, former) ∈ after.issued := by
        rw [issued]
        exact List.mem_cons_of_mem _ formerIssued
      have textIssued : (stale.revealed.taken, text) ∈ after.issued := by
        rw [issued]
        exact List.mem_cons_self
      have same : former = text := sourced.address_eq formerKept textIssued
      rw [handedOut_cons issued, ← same] at handed
      rw [← (List.cons.inj handed).1, handedOut_eq]
      exact List.mem_map.mpr ⟨_, formerIssued, rfl⟩

/-! ### Several wallets on one file -/

/-- As long as no wallet writes that has fallen behind the file, no address is handed out twice,
unless the descriptor itself has it twice, and the file never goes back. Every wallet that has
fallen behind and hands an address out hands out one of before, or makes the file go back. -/
theorem reveal_unique_unless_behind (run : (SharedFile.new key disk).run? steps = some file)
    (wildcard : file.HasWildcard)
    (room : ∀ before step after, (SharedFile.new key disk).Takes steps before step after →
      before.HasRoom step) :
    ((∀ before step after, (SharedFile.new key disk).Takes steps before step after →
        ¬ before.WritesBehind step) →
      file.handedOutIndexes.Pairwise (· > ·) ∧ (file.handedOut.Nodup ∨ file.HasTwins) ∧
        ∀ before step after, (SharedFile.new key disk).Takes steps before step after →
          before.taken ≤ after.taken) ∧
      ∀ before user after address,
        (SharedFile.new key disk).Takes steps before (.reveal user .written) after →
        before.WritesBehind (.reveal user .written) →
        after.handedOut = address :: before.handedOut →
        address ∈ before.handedOut ∨ after.taken < before.taken := by
  refine ⟨fun current => ?_, fun before user after address taken behind handed => ?_⟩
  · have ascending : file.Ascending :=
      (Passes.of_run run).ascending run wildcard room current
    refine ⟨ascending.descending,
      ascending.handedOut_nodup ((Passes.of_run run).sourced run wildcard room),
      fun before step after taken => ?_⟩
    exact (taken.indexMove run wildcard room).taken_le (current before step after taken)
  · have handedOut : before.LastHandedOut := by
      refine taken.passes_before.invariant (fun user wallet opened => ?_)
        fun before step after taken handedOut => ?_
      · rw [new_wallet?] at opened
        cases opened
      · exact handedOut.of_move (taken.indexMove run wildcard room)
    exact (taken.indexMove run wildcard room).repeats behind handedOut
      (taken.passes_after.sourced run wildcard room) handed

/-- Two wallets are open on a file, and the second is opened when the first has handed out its
only address. -/
def takingTurns : List FileStep :=
  [.arrive 0 singleKeyRequest, .load 0, .create 0, .reveal 0 .written,
    .arrive 0 singleKeyRequest, .load 1, .reveal 1 .written, .close 0]

theorem reveal_unique_unless_behind_taking_turns :
    ∃ file, (SharedFile.new (.file "wallet") (.empty [""])).run? takingTurns = some file ∧
      file.handedOut = ["bcrt1qvctwrh8ckrex8daxya4xleaevcp299tt0v37w9",
        "bcrt1qzg4mckdh50nwdm9hkzq06528rsu73hjxytqkxs"] ∧
      (file.handedOut.Nodup ∨ file.HasTwins) ∧
      ∀ before step after,
        (SharedFile.new (.file "wallet") (.empty [""])).Takes takingTurns before step after →
        before.taken ≤ after.taken := by
  obtain ⟨external, single⟩ := exists_isSingleKey
  obtain ⟨arrived, missed, created⟩ := singleKeyFile_opening single
  have revealed := singleKeyHeld_first single
  have joined : (singleKeyHeld external 1 [singleKeyOpened external 1] firstJournal).step?
      (.arrive 0 singleKeyRequest) =
        some (singleKeyHeld external 1 [singleKeyOpened external 1, .arrived] firstJournal) := rfl
  obtain ⟨loaded, revealedToo⟩ := singleKeyHeld_second single (show
    (singleKeyHeld external 1 [singleKeyOpened external 1, .arrived] firstJournal).isBusy 0 =
      false from rfl)
  have closed : (singleKeyHeld external 2 [singleKeyOpened external 1, singleKeyOpened external 2]
      secondJournal).step? (.close 0) =
        some (singleKeyHeld external 2 [.closed, singleKeyOpened external 2] secondJournal) := rfl
  have run : (SharedFile.new (.file "wallet") (.empty [""])).run? takingTurns =
      some (singleKeyHeld external 2 [.closed, singleKeyOpened external 2] secondJournal) := by
    rw [takingTurns, run?_cons arrived, run?_cons missed, run?_cons created, run?_cons revealed,
      run?_cons joined, run?_cons loaded, run?_cons revealedToo, run?_cons closed, run?]
  have wildcard : (singleKeyHeld external 2 [.closed, singleKeyOpened external 2]
      secondJournal).HasWildcard := by
    rintro _ _ ⟨⟩
    exact single.wildcard
  obtain ⟨kept, -⟩ := reveal_unique_unless_behind run wildcard fun _ _ _ taken =>
    hasRoom_of_length rfl run wildcard (by decide) taken
  obtain ⟨-, unique, grows⟩ := kept fun before step after taken => by
    rw [takingTurns, takes_cons arrived, takes_cons missed, takes_cons created,
      takes_cons revealed, takes_cons joined, takes_cons loaded, takes_cons revealedToo,
      takes_cons closed] at taken
    rcases taken with ⟨rfl, rfl, _⟩ | ⟨rfl, rfl, _⟩ | ⟨rfl, rfl, _⟩ | ⟨rfl, rfl, _⟩ |
      ⟨rfl, rfl, _⟩ | ⟨rfl, rfl, _⟩ | ⟨rfl, rfl, _⟩ | ⟨rfl, rfl, _⟩ | taken
    case inr => exact absurd taken not_takes_nil
    all_goals first | exact id | skip
    all_goals
      rintro ⟨_, own, ⟨⟩, behind⟩
      exact Nat.lt_irrefl _ behind
  exact ⟨_, run, rfl, unique, grows⟩

/-- Two wallets are opened on a file before either has handed anything out; the first hands out two
addresses, and then the second hands one out. -/
def fallingBehind : List FileStep :=
  [.arrive 0 singleKeyRequest, .load 0, .create 0, .arrive 0 singleKeyRequest, .load 1,
    .reveal 0 .written, .reveal 0 .written, .reveal 1 .written]

/-- The second wallet hands out the first address again, and the file goes back to it. -/
theorem reveal_behind_repeats_address :
    ∃ before file,
      (SharedFile.new (.file "wallet") (.empty [""])).run? fallingBehind = some file ∧
      (SharedFile.new (.file "wallet") (.empty [""])).Takes fallingBehind before
        (.reveal 1 .written) file ∧
      file.HasWildcard ∧ ¬ file.handedOut.Nodup ∧
      before.storedIndex? = some 1 ∧ file.storedIndex? = some 0 := by
  obtain ⟨external, single⟩ := exists_isSingleKey
  obtain ⟨arrived, missed, created⟩ := singleKeyFile_opening single
  have joined : (singleKeyHeld external 0 [singleKeyOpened external 0] [.created 0]).step?
      (.arrive 0 singleKeyRequest) =
        some (singleKeyHeld external 0 [singleKeyOpened external 0, .arrived] [.created 0]) := rfl
  have loaded : (singleKeyHeld external 0 [singleKeyOpened external 0, .arrived]
      [.created 0]).step? (.load 1) =
        some (singleKeyHeld external 0 [singleKeyOpened external 0, singleKeyOpened external 0]
          [.loaded 1, .created 0]) :=
    singleKeyHeld_load single rfl rfl
  have first : (singleKeyHeld external 0 [singleKeyOpened external 0, singleKeyOpened external 0]
      [.loaded 1, .created 0]).step? (.reveal 0 .written) =
        some (singleKeyHeld external 1 [singleKeyOpened external 1, singleKeyOpened external 0]
          aheadJournal.tail) :=
    singleKeyHeld_reveal single rfl (by decide) single.first
  have second : (singleKeyHeld external 1 [singleKeyOpened external 1, singleKeyOpened external 0]
      aheadJournal.tail).step? (.reveal 0 .written) =
        some (singleKeyHeld external 2 [singleKeyOpened external 2, singleKeyOpened external 0]
          aheadJournal) :=
    singleKeyHeld_reveal single rfl (by decide) single.second
  have again : (singleKeyHeld external 2 [singleKeyOpened external 2, singleKeyOpened external 0]
      aheadJournal).step? (.reveal 1 .written) =
        some (singleKeyHeld external 1 [singleKeyOpened external 2, singleKeyOpened external 1]
          (.revealed 1 0 firstAddress :: aheadJournal)) :=
    singleKeyHeld_reveal single rfl (by decide) single.first
  have run : (SharedFile.new (.file "wallet") (.empty [""])).run? fallingBehind =
      some (singleKeyHeld external 1 [singleKeyOpened external 2, singleKeyOpened external 1]
        (.revealed 1 0 firstAddress :: aheadJournal)) := by
    rw [fallingBehind, run?_cons arrived, run?_cons missed, run?_cons created, run?_cons joined,
      run?_cons loaded, run?_cons first, run?_cons second, run?_cons again, run?]
  refine ⟨singleKeyHeld external 2 [singleKeyOpened external 2, singleKeyOpened external 0]
    aheadJournal, _, run, ?_, ?_, ?_, rfl, rfl⟩
  · rw [fallingBehind, takes_cons arrived, takes_cons missed, takes_cons created,
      takes_cons joined, takes_cons loaded, takes_cons first, takes_cons second, takes_cons again]
    exact .inr (.inr (.inr (.inr (.inr (.inr (.inr (.inl ⟨rfl, rfl, rfl⟩)))))))
  · rintro _ _ ⟨⟩
    exact single.wildcard
  · have addresses : SharedFile.handedOut (singleKeyHeld external 1
        [singleKeyOpened external 2, singleKeyOpened external 1]
        (.revealed 1 0 firstAddress :: aheadJournal)) =
          [firstAddress, secondAddress, firstAddress] := rfl
    rw [addresses]
    simp

end SharedFile

end WalletBridge
