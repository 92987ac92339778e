/-
This file follows indexes along a run on a wallet file. Where an address comes from is fixed once
the file holds a wallet, and so an address that is handed out is told by its index alone. What is
left of a step is then a matter of numbers: how many indexes the file has taken, how many every open
wallet has taken, and which ones were handed out. As long as no wallet writes that has taken fewer
indexes than the file, every index that is handed out is above all the ones before it.
-/

import Mathlib.Data.List.Induction
import WalletBridge.Proofs.WalletFile

namespace WalletBridge

namespace SharedFile

/-! ### Runs -/

/-- Steps pass through a state. -/
def Passes (start : SharedFile) (steps : List FileStep) (passed : SharedFile) : Prop :=
  ∃ early late, steps = early ++ late ∧ start.run? early = some passed

/-- A step is among the steps, between the states before and after it. -/
def Takes (start : SharedFile) (steps : List FileStep) (before : SharedFile) (step : FileStep)
    (after : SharedFile) : Prop :=
  ∃ early late, steps = early ++ step :: late ∧ start.run? early = some before ∧
    before.step? step = some after

theorem run?_append (file : SharedFile) (early late : List FileStep) :
    file.run? (early ++ late) = (file.run? early).bind fun passed => passed.run? late := by
  induction early generalizing file with
  | nil => rfl
  | cons step rest ih =>
    rw [List.cons_append, run?, run?]
    cases file.step? step with
    | none => rfl
    | some after => exact ih after

theorem run?_concat (file : SharedFile) (early : List FileStep) (step : FileStep) :
    file.run? (early ++ [step]) = (file.run? early).bind fun before => before.step? step := by
  rw [run?_append]
  congr 1
  funext before
  rw [run?]
  cases before.step? step <;> rfl

section

variable {start before after passed file : SharedFile} {steps : List FileStep} {step : FileStep}

theorem Passes.of_run (run : start.run? steps = some file) : start.Passes steps file :=
  ⟨steps, [], (List.append_nil steps).symm, run⟩

theorem Takes.passes_before (taken : start.Takes steps before step after) :
    start.Passes steps before := by
  obtain ⟨early, late, split, run, _⟩ := taken
  exact ⟨early, step :: late, split, run⟩

theorem Takes.passes_after (taken : start.Takes steps before step after) :
    start.Passes steps after := by
  obtain ⟨early, late, split, run, stepped⟩ := taken
  refine ⟨early ++ [step], late, by simp [split], ?_⟩
  rw [run?_concat, run, Option.bind_some, stepped]

theorem Takes.move (taken : start.Takes steps before step after) : Move before after step := by
  obtain ⟨_, _, _, _, stepped⟩ := taken
  exact step?_move stepped

theorem run?_cons {rest : List FileStep} (stepped : start.step? step = some after) :
    start.run? (step :: rest) = after.run? rest := by
  rw [run?, stepped, Option.bind_some]

theorem passes_cons {rest : List FileStep} (stepped : start.step? step = some after) :
    start.Passes (step :: rest) passed ↔ passed = start ∨ after.Passes rest passed := by
  constructor
  · rintro ⟨early, late, split, run⟩
    cases early with
    | nil =>
      cases run
      exact .inl rfl
    | cons first early =>
      cases split
      rw [run?_cons stepped] at run
      exact .inr ⟨early, late, rfl, run⟩
  · rintro (rfl | ⟨early, late, rfl, run⟩)
    · exact ⟨[], step :: rest, rfl, rfl⟩
    · refine ⟨step :: early, late, rfl, ?_⟩
      rw [run?, stepped, Option.bind_some, run]

theorem passes_nil : start.Passes [] passed ↔ passed = start := by
  constructor
  · rintro ⟨early, late, split, run⟩
    cases (List.append_eq_nil_iff.mp split.symm).1
    cases run
    rfl
  · rintro rfl
    exact ⟨[], [], rfl, rfl⟩

theorem takes_cons {earlier later : SharedFile} {among : FileStep} {rest : List FileStep}
    (stepped : start.step? step = some after) :
    start.Takes (step :: rest) earlier among later ↔
      (earlier = start ∧ among = step ∧ later = after) ∨ after.Takes rest earlier among later := by
  constructor
  · rintro ⟨early, late, split, run, taken⟩
    cases early with
    | nil =>
      cases run
      cases split
      exact .inl ⟨rfl, rfl, Option.some.inj (taken.symm.trans stepped)⟩
    | cons first early =>
      cases split
      rw [run?_cons stepped] at run
      exact .inr ⟨early, late, rfl, run, taken⟩
  · rintro (⟨rfl, rfl, rfl⟩ | ⟨early, late, rfl, run, taken⟩)
    · exact ⟨[], rest, rfl, rfl, stepped⟩
    · exact ⟨step :: early, late, rfl, (run?_cons stepped).trans run, taken⟩

theorem not_takes_nil : ¬ start.Takes [] before step after := by
  rintro ⟨early, late, split, _⟩
  cases early <;> cases split

/-- What holds at the start and is kept by every step holds wherever the steps lead; it may speak
of the steps that were taken. -/
theorem invariant_of_steps (property : List FileStep → SharedFile → Prop)
    (initial : property [] start)
    (kept : ∀ early late before step after, steps = early ++ step :: late →
      start.run? early = some before → before.step? step = some after → property early before →
      property (early ++ [step]) after) (early late : List FileStep)
    (split : steps = early ++ late) (run : start.run? early = some passed) :
    property early passed := by
  induction early using List.reverseRecOn generalizing late passed with
  | nil =>
    cases run
    exact initial
  | append_singleton early step ih =>
    rw [run?_concat] at run
    obtain ⟨before, reached, stepped⟩ := Option.bind_eq_some_iff.mp run
    have split : steps = early ++ step :: late := by simpa using split
    exact kept early late before step passed split reached stepped (ih (step :: late) split reached)

theorem Passes.invariant {property : SharedFile → Prop} (initial : property start)
    (kept : ∀ before step after, start.Takes steps before step after → property before →
      property after)
    (passes : start.Passes steps passed) : property passed := by
  obtain ⟨early, late, split, run⟩ := passes
  refine invariant_of_steps (fun _ passed => property passed) initial ?_ early late split run
  intro early late before step after split reached stepped
  exact kept before step after ⟨early, late, split, reached, stepped⟩

/-- What every step keeps holds at the end, once it holds somewhere on the way. -/
theorem Passes.lasts {property : SharedFile → Prop} (passes : start.Passes steps passed)
    (run : start.run? steps = some file)
    (kept : ∀ before step after, Move before after step → property before → property after)
    (held : property passed) : property file := by
  obtain ⟨early, late, rfl, reached⟩ := passes
  rw [run?_append, reached, Option.bind_some] at run
  exact (Passes.of_run run).invariant held fun before step after taken =>
    kept before step after taken.move

theorem Move.mem_journal {event : FileEvent} (move : Move before after step)
    (noted : event ∈ before.journal) : event ∈ after.journal := by
  cases move with
  | idle step events stored journal =>
    rw [journal]
    exact List.mem_append_right events noted
  | opening step user wallet other stored former journal =>
    rw [journal]
    exact List.mem_cons_of_mem _ noted
  | withheld user wallet fate opened stored journal =>
    rw [journal]
    exact List.mem_cons_of_mem _ noted
  | lost user wallet opened stored journal => rwa [journal]
  | handing user wallet address opened revealed stored journal =>
    rw [journal]
    exact List.mem_cons_of_mem _ noted

theorem Passes.mem_journal {event : FileEvent} (passes : start.Passes steps passed)
    (run : start.run? steps = some file) (noted : event ∈ passed.journal) :
    event ∈ file.journal :=
  passes.lasts run (fun _ _ _ move noted => move.mem_journal noted) noted

/-- What holds of the wallets that were open, and of the one that a step puts in its place, holds
of all that are open after it. -/
theorem wallets_of_others {user : Nat} {wallet : DescriptorWallet}
    {property : DescriptorWallet → Prop} (advanced : after.wallet? user = some wallet)
    (own : property wallet)
    (others : ∀ other, other ≠ user → after.wallet? other = before.wallet? other)
    (kept : ∀ other held, before.wallet? other = some held → property held) :
    ∀ other held, after.wallet? other = some held → property held := by
  intro other held opened
  by_cases same : other = user
  · rw [same, advanced] at opened
    cases opened
    exact own
  · rw [others other same] at opened
    exact kept other held opened

end

/-! ### Addresses -/

/-- Where the addresses of the wallet come from that the file holds. -/
def source? (file : SharedFile) : Option (Chain × Descriptor) :=
  file.stored?.map fun stored => (stored.chain, stored.external)

/-- The addresses come from a descriptor with a wildcard. -/
def HasWildcard (file : SharedFile) : Prop :=
  ∀ chain external, file.source? = some (chain, external) → external.hasWildcard = true

/-- A wallet that is asked for its next address has an index behind its last one. -/
def HasRoom (file : SharedFile) : FileStep → Prop
  | .reveal user _ => ∀ wallet, file.wallet? user = some wallet →
      wallet.revealed.taken ≤ DescriptorWallet.indexLimit
  | _ => True

/-- Addresses come from where the file says. -/
structure Sourced (file : SharedFile) : Prop where
  opened : ∀ user wallet, file.wallet? user = some wallet →
    file.source? = some (wallet.chain, wallet.external)
  issued : ∀ index address, (index, address) ∈ file.issued → ∃ chain external,
    file.source? = some (chain, external) ∧ index ≤ DescriptorWallet.indexLimit ∧
      DescriptorWallet.addressText chain external index = .value address

section

variable {start before after passed file : SharedFile} {steps : List FileStep} {step : FileStep}
variable {source : Chain × Descriptor}

theorem source?_updated {change : LastRevealed}
    (stored : after.stored? = before.stored?.map fun stored => stored.updated change) :
    after.source? = before.source? := by
  rw [source?, source?, stored, Option.map_map]
  rfl

theorem Move.source?_eq (move : Move before after step) (held : before.source? = some source) :
    after.source? = some source := by
  cases move with
  | idle step events stored => rwa [SharedFile.source?, stored]
  | opening step user wallet event stored former =>
    rcases former with former | ⟨blank, _⟩
    · rwa [SharedFile.source?, stored, ← former]
    · rw [SharedFile.source?, blank] at held
      cases held
  | withheld user wallet fate opened stored => rwa [SharedFile.source?, stored]
  | lost user wallet opened stored => rwa [source?_updated stored]
  | handing user wallet address opened revealed stored => rwa [source?_updated stored]

theorem Passes.source?_eq (passes : start.Passes steps passed)
    (run : start.run? steps = some file) (held : passed.source? = some source) :
    file.source? = some source :=
  passes.lasts run (fun _ _ _ move held => move.source?_eq held) held

theorem Passes.hasWildcard (passes : start.Passes steps passed)
    (run : start.run? steps = some file) (wildcard : file.HasWildcard) : passed.HasWildcard :=
  fun chain external held => wildcard chain external (passes.source?_eq run held)

theorem issued_cons {event : FileEvent} (journal : after.journal = event :: before.journal) :
    after.issued = event.issue?.toList ++ before.issued := by
  rw [issued, journal, List.filterMap_cons, ← issued]
  cases event.issue? <;> rfl

theorem issued_append {events : List FileEvent} (journal : after.journal = events ++ before.journal)
    (unissued : ∀ event ∈ events, event.issue? = none) : after.issued = before.issued := by
  rw [issued, journal, List.filterMap_append, List.filterMap_eq_nil_iff.mpr unissued]
  rfl

theorem taken_updated {change : LastRevealed} {last : Nat}
    (stored : after.stored? = before.stored?.map fun stored => stored.updated change)
    (held : before.source? = some source) (changed : change.external = some last) :
    after.taken = last + 1 := by
  obtain ⟨former, former_eq, _⟩ := Option.map_eq_some_iff.mp held
  rw [taken_eq, stored, former_eq]
  simp [StoredWallet.updated, LastRevealed.updated, LastRevealed.taken, changed]

theorem HasRoom.revealed {user : Nat} {fate : WriteFate} {wallet : DescriptorWallet}
    (room : before.HasRoom (.reveal user fate)) (wildcard : before.HasWildcard)
    (sourced : before.Sourced) (opened : before.wallet? user = some wallet) :
    DescriptorWallet.nextIndex wallet.external wallet.revealed.external =
        (wallet.revealed.taken, true) ∧
      wallet.reveal.1 =
        DescriptorWallet.addressText wallet.chain wallet.external wallet.revealed.taken ∧
      wallet.reveal.2.revealed.taken = wallet.revealed.taken + 1 ∧
      wallet.reveal.2.staged.external = some wallet.revealed.taken := by
  have wild : wallet.external.hasWildcard = true :=
    wildcard _ _ (sourced.opened user wallet opened)
  exact ⟨DescriptorWallet.nextIndex_of_room wild (room wallet opened),
    DescriptorWallet.reveal_of_room wild (room wallet opened)⟩

theorem Sourced.of_move (sourced : before.Sourced) (wildcard : before.HasWildcard)
    (room : before.HasRoom step) (move : Move before after step) : after.Sourced := by
  have same : ∀ source, before.source? = some source → after.source? = some source :=
    fun source held => move.source?_eq held
  have wallets : ∀ user wallet, before.wallet? user = some wallet →
      after.source? = some (wallet.chain, wallet.external) :=
    fun user wallet opened => same _ (sourced.opened user wallet opened)
  have former : ∀ index address, (index, address) ∈ before.issued → ∃ chain external,
      after.source? = some (chain, external) ∧ index ≤ DescriptorWallet.indexLimit ∧
        DescriptorWallet.addressText chain external index = .value address := by
    intro index address issued
    obtain ⟨chain, external, held, genuine⟩ := sourced.issued index address issued
    exact ⟨chain, external, same _ held, genuine⟩
  cases move with
  | idle step events stored journal unissued left =>
    refine ⟨fun user wallet opened => wallets user wallet (left user wallet opened), ?_⟩
    · rwa [issued_append journal unissued]
  | opening step user wallet event stored _ journal unissued opened others =>
    refine ⟨wallets_of_others opened ?_ others wallets, ?_⟩
    · rw [source?, stored]
      rfl
    · rwa [issued_cons journal, unissued]
  | withheld user wallet fate opened stored journal advanced others =>
    refine ⟨wallets_of_others advanced ?_ others wallets, ?_⟩
    · exact wallets user wallet opened
    · rwa [issued_cons journal]
  | lost user wallet opened stored journal closed =>
    refine ⟨fun other held opened => ?_, ?_⟩
    · rw [closed] at opened
      cases opened
    · rwa [SharedFile.issued, journal]
  | handing user wallet address opened revealed stored journal advanced others =>
    obtain ⟨index, genuine, -, -⟩ := room.revealed wildcard sourced opened
    have held : after.source? = some (wallet.chain, wallet.external) := wallets user wallet opened
    refine ⟨wallets_of_others advanced held others wallets, ?_⟩
    intro found text issued
    rw [issued_cons journal, index] at issued
    rcases List.mem_cons.mp issued with this | earlier
    · cases this
      exact ⟨_, _, held, room wallet opened, genuine.symm.trans revealed⟩
    · exact former found text earlier

/-- An index stands for one address. -/
theorem Sourced.address_eq (sourced : file.Sourced) {index : Nat} {first second : String}
    (firstIssued : (index, first) ∈ file.issued) (secondIssued : (index, second) ∈ file.issued) :
    first = second := by
  obtain ⟨chain, external, held, -, firstText⟩ := sourced.issued _ _ firstIssued
  obtain ⟨_, _, heldToo, -, secondText⟩ := sourced.issued _ _ secondIssued
  cases held.symm.trans heldToo
  cases firstText.symm.trans secondText
  rfl

/-! ### Steps as indexes -/

/-- What a step does to the indexes that are taken. -/
inductive IndexMove (before after : SharedFile) : FileStep → Prop where
  /-- At most wallets are closed. -/
  | idle (step : FileStep) (taken : after.taken = before.taken)
      (issued : after.issued = before.issued)
      (wallets : ∀ user wallet, after.wallet? user = some wallet →
        before.wallet? user = some wallet) : IndexMove before after step
  /-- A wallet is opened with the indexes that the file has taken. -/
  | opening (step : FileStep) (user : Nat) (wallet : DescriptorWallet)
      (taken : after.taken = before.taken) (equal : wallet.revealed.taken = before.taken)
      (issued : after.issued = before.issued) (opened : after.wallet? user = some wallet)
      (others : ∀ other, other ≠ user → after.wallet? other = before.wallet? other) :
      IndexMove before after step
  /-- A wallet takes an index that is not written. -/
  | withheld (user : Nat) (wallet later : DescriptorWallet) (fate : WriteFate)
      (opened : before.wallet? user = some wallet) (taken : after.taken = before.taken)
      (issued : after.issued = before.issued) (advanced : after.wallet? user = some later)
      (next : later.revealed.taken = wallet.revealed.taken + 1)
      (noted : .withheld user ∈ after.journal)
      (others : ∀ other, other ≠ user → after.wallet? other = before.wallet? other) :
      IndexMove before after (.reveal user fate)
  /-- The index of a wallet is written, and every wallet is closed. -/
  | lost (user : Nat) (wallet : DescriptorWallet) (opened : before.wallet? user = some wallet)
      (taken : after.taken = wallet.revealed.taken + 1) (issued : after.issued = before.issued)
      (closed : ∀ user, after.wallet? user = none) :
      IndexMove before after (.reveal user .stoppedAfter)
  /-- The index of a wallet is written and handed out. -/
  | handing (user : Nat) (wallet later : DescriptorWallet) (address : String)
      (opened : before.wallet? user = some wallet)
      (taken : after.taken = wallet.revealed.taken + 1)
      (issued : after.issued = (wallet.revealed.taken, address) :: before.issued)
      (advanced : after.wallet? user = some later)
      (next : later.revealed.taken = wallet.revealed.taken + 1)
      (others : ∀ other, other ≠ user → after.wallet? other = before.wallet? other) :
      IndexMove before after (.reveal user .written)

theorem Move.toIndexMove (move : Move before after step) (sourced : before.Sourced)
    (wildcard : before.HasWildcard) (room : before.HasRoom step) : IndexMove before after step := by
  cases move with
  | idle step events stored journal unissued wallets =>
    exact .idle step (by rw [taken_eq, stored, taken_eq]) (issued_append journal unissued) wallets
  | opening step user wallet event stored former journal unissued opened others =>
    have equal : wallet.revealed.taken = before.taken := by
      rcases former with former | ⟨blank, unused⟩
      · rw [taken_eq, former]
        rfl
      · rw [taken_eq, blank, unused]
        rfl
    refine .opening step user wallet ?_ equal ?_ opened others
    · rw [← equal, taken_eq, stored]
      rfl
    · rw [issued_cons journal, unissued]
      rfl
  | withheld user wallet fate opened stored journal advanced others =>
    obtain ⟨-, -, next, -⟩ := room.revealed wildcard sourced opened
    exact .withheld user wallet _ fate opened (by rw [taken_eq, stored, taken_eq])
      (issued_cons journal) advanced next (by simp [journal]) others
  | lost user wallet opened stored journal closed =>
    obtain ⟨-, -, -, staged⟩ := room.revealed wildcard sourced opened
    exact .lost user wallet opened (taken_updated stored (sourced.opened user wallet opened) staged)
      (by rw [SharedFile.issued, journal, SharedFile.issued]) closed
  | handing user wallet address opened revealed stored journal advanced others =>
    obtain ⟨index, -, next, staged⟩ := room.revealed wildcard sourced opened
    refine .handing user wallet _ address opened
      (taken_updated stored (sourced.opened user wallet opened) staged) ?_ advanced next others
    rw [issued_cons journal, index]
    rfl

/-! ### How many indexes are taken -/

/-- Neither the file nor an open wallet has taken more indexes than a number. -/
structure Within (file : SharedFile) (count : Nat) : Prop where
  taken : file.taken ≤ count
  opened : ∀ user wallet, file.wallet? user = some wallet → wallet.revealed.taken ≤ count

theorem Within.hasRoom {count : Nat} (within : file.Within count)
    (limit : count ≤ DescriptorWallet.indexLimit) : file.HasRoom step := by
  cases step with
  | reveal user fate =>
    intro wallet opened
    exact Nat.le_trans (within.opened user wallet opened) limit
  | arrive | load | create | peek | inspect | close | stop => trivial

/-- A step takes one index more at most. -/
theorem Within.of_move {count : Nat} (within : before.Within count)
    (move : IndexMove before after step) : after.Within (count + 1) := by
  have wallets : ∀ user wallet, before.wallet? user = some wallet →
      wallet.revealed.taken ≤ count + 1 :=
    fun user wallet opened => Nat.le_succ_of_le (within.opened user wallet opened)
  have held : before.taken ≤ count + 1 := Nat.le_succ_of_le within.taken
  cases move with
  | idle step taken issued left =>
    exact ⟨taken ▸ held, fun user wallet opened => wallets user wallet (left user wallet opened)⟩
  | opening step user wallet taken equal issued opened others =>
    exact ⟨taken ▸ held, wallets_of_others opened (equal ▸ held) others wallets⟩
  | withheld user wallet later fate opened taken issued advanced next noted others =>
    have own : wallet.revealed.taken + 1 ≤ count + 1 :=
      Nat.succ_le_succ (within.opened user wallet opened)
    exact ⟨taken ▸ held, wallets_of_others advanced (next ▸ own) others wallets⟩
  | lost user wallet opened taken issued closed =>
    have own : wallet.revealed.taken + 1 ≤ count + 1 :=
      Nat.succ_le_succ (within.opened user wallet opened)
    refine ⟨taken ▸ own, fun other held opened => ?_⟩
    rw [closed] at opened
    cases opened
  | handing user wallet later address opened taken issued advanced next others =>
    have own : wallet.revealed.taken + 1 ≤ count + 1 :=
      Nat.succ_le_succ (within.opened user wallet opened)
    exact ⟨taken ▸ own, wallets_of_others advanced (next ▸ own) others wallets⟩

/-! ### Wallets behind the file -/

/-- A wallet that has taken fewer indexes than the file writes its next one. -/
def WritesBehind (file : SharedFile) : FileStep → Prop
  | .reveal user fate => (fate = .written ∨ fate = .stoppedAfter) ∧
      ∃ wallet, file.wallet? user = some wallet ∧ wallet.revealed.taken < file.taken
  | _ => False

/-- Every index that was handed out is above the ones before it, and the file has taken it. -/
structure Ascending (file : SharedFile) : Prop where
  below : ∀ index ∈ file.handedOutIndexes, index < file.taken
  descending : file.handedOutIndexes.Pairwise (· > ·)

/-- Two indexes have the same address. -/
def HasTwins (file : SharedFile) : Prop :=
  ∃ chain external lower upper address, file.source? = some (chain, external) ∧ lower < upper ∧
    upper ≤ DescriptorWallet.indexLimit ∧
    DescriptorWallet.addressText chain external lower = .value address ∧
    DescriptorWallet.addressText chain external upper = .value address

theorem WritesBehind.le_of_not {user : Nat} {fate : WriteFate} {wallet : DescriptorWallet}
    (current : ¬ before.WritesBehind (.reveal user fate))
    (writes : fate = .written ∨ fate = .stoppedAfter)
    (opened : before.wallet? user = some wallet) : before.taken ≤ wallet.revealed.taken :=
  Nat.le_of_not_lt fun behind => current ⟨writes, wallet, opened, behind⟩

theorem IndexMove.taken_le (move : IndexMove before after step)
    (current : ¬ before.WritesBehind step) : before.taken ≤ after.taken := by
  cases move with
  | idle step taken => exact Nat.le_of_eq taken.symm
  | opening step user wallet taken => exact Nat.le_of_eq taken.symm
  | withheld user wallet later fate opened taken => exact Nat.le_of_eq taken.symm
  | lost user wallet opened taken =>
    rw [taken]
    exact Nat.le_succ_of_le (WritesBehind.le_of_not current (.inr rfl) opened)
  | handing user wallet later address opened taken =>
    rw [taken]
    exact Nat.le_succ_of_le (WritesBehind.le_of_not current (.inl rfl) opened)

theorem Ascending.of_le (ascending : before.Ascending) (le : before.taken ≤ after.taken)
    (issued : after.issued = before.issued) : after.Ascending := by
  refine ⟨fun index handed => ?_, ?_⟩
  · rw [handedOutIndexes_of_issued issued] at handed
    exact Nat.lt_of_lt_of_le (ascending.below index handed) le
  · rw [handedOutIndexes_of_issued issued]
    exact ascending.descending

theorem Ascending.of_move (ascending : before.Ascending) (move : IndexMove before after step)
    (current : ¬ before.WritesBehind step) : after.Ascending := by
  have le : before.taken ≤ after.taken := move.taken_le current
  cases move with
  | idle step taken issued => exact ascending.of_le le issued
  | opening step user wallet taken equal issued => exact ascending.of_le le issued
  | withheld user wallet later fate opened taken issued => exact ascending.of_le le issued
  | lost user wallet opened taken issued => exact ascending.of_le le issued
  | handing user wallet later address opened taken issued =>
    have above : before.taken ≤ wallet.revealed.taken :=
      WritesBehind.le_of_not current (.inl rfl) opened
    have indexes := handedOutIndexes_cons issued
    refine ⟨fun index handed => ?_, ?_⟩
    · rw [indexes] at handed
      rcases List.mem_cons.mp handed with rfl | earlier
      · omega
      · exact Nat.lt_of_lt_of_le (ascending.below index earlier) le
    · rw [indexes]
      refine List.pairwise_cons.mpr ⟨fun index earlier => ?_, ascending.descending⟩
      exact Nat.lt_of_lt_of_le (ascending.below index earlier) above

/-- Indexes that rise stand for addresses that differ, except where the descriptor itself has the
same address twice. -/
theorem Ascending.handedOut_nodup (ascending : file.Ascending) (sourced : file.Sourced) :
    file.handedOut.Nodup ∨ file.HasTwins := by
  refine Classical.or_iff_not_imp_right.mpr fun apart => ?_
  have descending : file.issued.Pairwise fun later earlier => later.1 > earlier.1 := by
    have := ascending.descending
    rwa [handedOutIndexes_eq, List.pairwise_map] at this
  rw [handedOut_eq, List.Nodup, List.pairwise_map]
  refine descending.imp_of_mem fun {later earlier} laterIssued earlierIssued rises same => apart ?_
  obtain ⟨chain, external, held, limit, laterAddress⟩ := sourced.issued _ _ laterIssued
  obtain ⟨_, _, held', -, earlierAddress⟩ := sourced.issued _ _ earlierIssued
  cases held.symm.trans held'
  exact ⟨chain, external, earlier.1, later.1, later.2, held, rises, limit, same ▸ earlierAddress,
    laterAddress⟩

/-! ### Runs from a file that nobody has used -/

/-- What steps start from: nobody has a wallet open, and nothing was handed out. -/
theorem new_wallet? (key : StoreKey) (disk : Disk) (user : Nat) :
    (SharedFile.new key disk).wallet? user = none := rfl

theorem new_issued (key : StoreKey) (disk : Disk) : (SharedFile.new key disk).issued = [] := rfl

theorem new_sourced (key : StoreKey) (disk : Disk) : (SharedFile.new key disk).Sourced := by
  refine ⟨fun user wallet opened => ?_, fun index address issued => ?_⟩
  · rw [new_wallet?] at opened
    cases opened
  · rw [new_issued] at issued
    cases issued

theorem new_within (key : StoreKey) {disk : Disk} (blank : disk.read key = none) :
    (SharedFile.new key disk).Within 0 := by
  refine ⟨?_, fun user wallet opened => ?_⟩
  · rw [taken_eq, stored?, new, blank]
    exact Nat.le_refl 0
  · rw [new_wallet?] at opened
    cases opened

theorem new_ascending (key : StoreKey) (disk : Disk) : (SharedFile.new key disk).Ascending :=
  ⟨by simp [handedOutIndexes_eq, new_issued], by simp [handedOutIndexes_eq, new_issued]⟩

end

section

variable {key : StoreKey} {disk : Disk} {file passed before after : SharedFile}
variable {steps : List FileStep} {step : FileStep}

theorem Passes.sourced (run : (SharedFile.new key disk).run? steps = some file)
    (wildcard : file.HasWildcard)
    (room : ∀ before step after, (SharedFile.new key disk).Takes steps before step after →
      before.HasRoom step)
    (passes : (SharedFile.new key disk).Passes steps passed) : passed.Sourced := by
  refine passes.invariant (new_sourced key disk) fun before step after taken sourced => ?_
  exact sourced.of_move (taken.passes_before.hasWildcard run wildcard) (room _ _ _ taken) taken.move

theorem Takes.indexMove (run : (SharedFile.new key disk).run? steps = some file)
    (wildcard : file.HasWildcard)
    (room : ∀ before step after, (SharedFile.new key disk).Takes steps before step after →
      before.HasRoom step)
    (taken : (SharedFile.new key disk).Takes steps before step after) :
    IndexMove before after step :=
  taken.move.toIndexMove (taken.passes_before.sourced run wildcard room)
    (taken.passes_before.hasWildcard run wildcard) (room _ _ _ taken)

/-- A run that is shorter than there are indexes never runs out of them. -/
theorem hasRoom_of_length (blank : disk.read key = none)
    (run : (SharedFile.new key disk).run? steps = some file) (wildcard : file.HasWildcard)
    (short : steps.length ≤ DescriptorWallet.indexLimit + 1)
    (taken : (SharedFile.new key disk).Takes steps before step after) : before.HasRoom step := by
  obtain ⟨early, late, split, reached, _⟩ := taken
  have early_le : ∀ {early late : List FileStep} {step : FileStep}, steps = early ++ step :: late →
      early.length ≤ DescriptorWallet.indexLimit := by
    intro early late step split
    rw [split, List.length_append, List.length_cons] at short
    omega
  have bounded : before.Sourced ∧ before.Within early.length := by
    refine invariant_of_steps (fun early before => before.Sourced ∧ before.Within early.length)
      ⟨new_sourced key disk, new_within key blank⟩ ?_ early _ split reached
    rintro early late before step after split reached stepped ⟨sourced, within⟩
    have wild : before.HasWildcard :=
      Passes.hasWildcard ⟨early, step :: late, split, reached⟩ run wildcard
    have room : before.HasRoom step := within.hasRoom (early_le split)
    have move : Move before after step := step?_move stepped
    refine ⟨sourced.of_move wild room move, ?_⟩
    rw [List.length_append]
    exact within.of_move (move.toIndexMove sourced wild room)
  exact bounded.2.hasRoom (early_le split)

theorem Passes.ascending (run : (SharedFile.new key disk).run? steps = some file)
    (wildcard : file.HasWildcard)
    (room : ∀ before step after, (SharedFile.new key disk).Takes steps before step after →
      before.HasRoom step)
    (current : ∀ before step after, (SharedFile.new key disk).Takes steps before step after →
      ¬ before.WritesBehind step)
    (passes : (SharedFile.new key disk).Passes steps passed) : passed.Ascending := by
  refine passes.invariant (new_ascending key disk) fun before step after taken ascending => ?_
  exact ascending.of_move (taken.indexMove run wildcard room) (current _ _ _ taken)

end

end SharedFile

end WalletBridge
