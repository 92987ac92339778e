/-
This file shows that addresses survive whatever happens to a wallet file, as long as one wallet at a
time is open on it. An open wallet has then taken every index that the file has taken, since it was
opened with those of the file, and the file only learns of an index from the wallet itself. Writes
that fail and stops of the process leave gaps, at most: an index that was not written was not handed
out, and one that was written is not taken again. Without them there are no gaps, and the addresses
are those of the indexes one after another.
-/

import WalletBridge.Proofs.RevealedIndexes

namespace WalletBridge

namespace SharedFile

variable {key : StoreKey} {disk : Disk} {file passed before after : SharedFile}
variable {steps : List FileStep} {step : FileStep}

/-! ### One wallet at a time -/

theorem openCount_eq (file : SharedFile) :
    file.openCount = file.users.countP (·.stage.wallet?.isSome) := by
  rw [openCount]
  congr 1
  funext user
  cases user.stage <;> rfl

/-- Where at most one wallet is open, two open wallets are the same. -/
theorem eq_of_openCount {user other : Nat} {wallet second : DescriptorWallet}
    (alone : file.openCount ≤ 1) (opened : file.wallet? user = some wallet)
    (openedToo : file.wallet? other = some second) : second = wallet := by
  -- Two users one behind the other are on two sides of a cut through the list.
  have cut : ∀ {front back : Nat} {own rest : DescriptorWallet}, front < back →
      file.wallet? front = some own → file.wallet? back = some rest → 1 < file.openCount := by
    intro front back own rest behind frontOpen backOpen
    obtain ⟨first, firstFound, firstHeld⟩ := Option.bind_eq_some_iff.mp frontOpen
    obtain ⟨last, lastFound, lastHeld⟩ := Option.bind_eq_some_iff.mp backOpen
    have before : 0 < (file.users.take back).countP (·.stage.wallet?.isSome) := by
      refine List.countP_pos_iff.mpr ⟨first, List.mem_of_getElem? (i := front) ?_, ?_⟩
      · rwa [List.getElem?_take_of_lt behind]
      · rw [firstHeld]
        rfl
    have behind : 0 < (file.users.drop back).countP (·.stage.wallet?.isSome) := by
      refine List.countP_pos_iff.mpr ⟨last, List.mem_of_getElem? (i := 0) ?_, ?_⟩
      · rwa [List.getElem?_drop]
      · rw [lastHeld]
        rfl
    rw [openCount_eq, ← List.take_append_drop back file.users, List.countP_append]
    omega
  rcases Nat.lt_trichotomy user other with less | same | more
  · exact absurd alone (Nat.not_le_of_lt (cut less opened openedToo))
  · rw [← same] at openedToo
    exact Option.some.inj (openedToo.symm.trans opened)
  · exact absurd alone (Nat.not_le_of_lt (cut more openedToo opened))

/-- Every open wallet has taken the indexes that the file has taken. -/
def Current (file : SharedFile) : Prop :=
  ∀ user wallet, file.wallet? user = some wallet → file.taken ≤ wallet.revealed.taken

theorem Current.not_writesBehind (current : file.Current) : ¬ file.WritesBehind step := by
  intro behind
  cases step with
  | reveal user fate =>
    obtain ⟨_, wallet, opened, less⟩ := behind
    exact Nat.not_le_of_lt less (current user wallet opened)
  | arrive | load | create | peek | inspect | close | stop => exact behind

theorem Current.of_move (current : before.Current) (move : IndexMove before after step)
    (alone : after.openCount ≤ 1) : after.Current := by
  intro other held open'
  cases move with
  | idle step taken issued wallets =>
    rw [taken]
    exact current other held (wallets other held open')
  | opening step user wallet taken equal issued opened others =>
    rw [eq_of_openCount alone opened open', taken]
    exact Nat.le_of_eq equal.symm
  | withheld user wallet later fate opened taken issued advanced next noted others =>
    rw [eq_of_openCount alone advanced open', taken, next]
    exact Nat.le_succ_of_le (current user wallet opened)
  | lost user wallet opened taken issued closed =>
    rw [closed] at open'
    cases open'
  | handing user wallet later address opened taken issued advanced next others =>
    rw [eq_of_openCount alone advanced open', taken]
    exact Nat.le_of_eq next.symm

/-! ### Without gaps -/

/-- Every index that the file has taken was handed out, in order, and open wallets have taken no
others. -/
structure Gapless (file : SharedFile) : Prop where
  opened : ∀ user wallet, file.wallet? user = some wallet → wallet.revealed.taken = file.taken
  indexes : file.handedOutIndexes.reverse = List.range file.taken

theorem Gapless.of_move (gapless : before.Gapless) (move : IndexMove before after step)
    (alone : after.openCount ≤ 1)
    (written : ∀ user fate, step = .reveal user fate → fate = .written)
    (unfailing : ∀ user, .withheld user ∉ after.journal) : after.Gapless := by
  cases move with
  | idle step taken issued wallets =>
    refine ⟨fun user wallet opened => ?_, ?_⟩
    · rw [taken]
      exact gapless.opened user wallet (wallets user wallet opened)
    · rw [handedOutIndexes_of_issued issued, taken]
      exact gapless.indexes
  | opening step user wallet taken equal issued opened others =>
    refine ⟨fun other held open' => ?_, ?_⟩
    · rw [eq_of_openCount alone opened open', taken, equal]
    · rw [handedOutIndexes_of_issued issued, taken]
      exact gapless.indexes
  | withheld user wallet later fate opened taken issued advanced next noted =>
    exact absurd noted (unfailing user)
  | lost user wallet opened taken issued closed => cases written user _ rfl
  | handing user wallet later address opened taken issued advanced next others =>
    refine ⟨fun other held open' => ?_, ?_⟩
    · rw [eq_of_openCount alone advanced open', taken, next]
    · rw [handedOutIndexes_cons issued, List.reverse_cons, gapless.indexes, taken,
        gapless.opened user wallet opened, List.range_succ]

theorem new_gapless (key : StoreKey) {disk : Disk} (blank : disk.read key = none) :
    (SharedFile.new key disk).Gapless := by
  refine ⟨fun user wallet opened => ?_, ?_⟩
  · rw [new_wallet?] at opened
    cases opened
  · have unused : (SharedFile.new key disk).taken = 0 := by
      rw [taken_eq, stored?, new, blank]
      rfl
    rw [unused, handedOutIndexes_eq, new_issued]
    rfl

/-- Without gaps the address that was handed out after a number of others is the one with that
index. -/
theorem Gapless.issued (gapless : file.Gapless) {place : Nat} {address : String}
    (handed : file.handedOut.reverse[place]? = some address) : (place, address) ∈ file.issued := by
  rw [handedOut_eq, ← List.map_reverse, List.getElem?_map] at handed
  obtain ⟨⟨index, text⟩, found, rfl⟩ := Option.map_eq_some_iff.mp handed
  have at_place : file.handedOutIndexes.reverse[place]? = some index := by
    rw [handedOutIndexes_eq, ← List.map_reverse, List.getElem?_map, found]
    rfl
  rw [gapless.indexes] at at_place
  have same : place = index := by
    obtain ⟨_, same⟩ := List.getElem?_eq_some_iff.mp at_place
    rwa [List.getElem_range] at same
  rw [same]
  exact List.mem_reverse.mp (List.mem_of_getElem? found)

/-! ### A wallet of one key -/

/-- Asks for a wallet of one key. -/
def singleKeyRequest : WalletRequest :=
  ⟨"wpkh([c258d2e4/84h/1h/0h]tpubDDYkZojQFQjht8Tm4jsS3iuEmKjTiEGjG6KnuFNKKJb5A6ZUCUZKdvLdSDWofKi" ++
    "4ToRCwb9poe1XdqfUnP4jaJjCB2Zwv11ZLgSbnZSNecE/0/*)", none, .regtest⟩

/-- What is stored of the wallet when it has taken a number of indexes. -/
def singleKeyStored (external : Descriptor) (count : Nat) : StoredWallet :=
  ⟨.regtest, external, none, .ofTaken count⟩

/-- The wallet that is loaded from what is stored. -/
def singleKeyWallet (external : Descriptor) (count : Nat) : DescriptorWallet :=
  .ofStored (singleKeyStored external count)

/-- The first address of the key. -/
def firstAddress : String := "bcrt1qzg4mckdh50nwdm9hkzq06528rsu73hjxytqkxs"

/-- The second address of the key. -/
def secondAddress : String := "bcrt1qvctwrh8ckrex8daxya4xleaevcp299tt0v37w9"

/-- A descriptor is the one of the key; its first addresses are known. -/
structure IsSingleKey (external : Descriptor) : Prop where
  admitted : DescriptorWallet.admitted? .regtest singleKeyRequest.descriptor = some external
  wildcard : external.hasWildcard = true
  first : DescriptorWallet.addressText .regtest external 0 = .value firstAddress
  second : DescriptorWallet.addressText .regtest external 1 = .value secondAddress

theorem exists_isSingleKey : ∃ external, IsSingleKey external := by
  have computed : (DescriptorWallet.admitted? .regtest singleKeyRequest.descriptor).any
      (fun external => decide (external.hasWildcard = true ∧
        DescriptorWallet.addressText .regtest external 0 = .value firstAddress ∧
        DescriptorWallet.addressText .regtest external 1 = .value secondAddress)) = true := by
    decide +kernel
  obtain ⟨external, admitted, holds⟩ := (Option.any_eq_true _ _).mp computed
  obtain ⟨wildcard, first, second⟩ := of_decide_eq_true holds
  exact ⟨external, admitted, wildcard, first, second⟩

/-- A file that holds at most the wallet of the key, and users who ask for it. -/
def singleKeyFile (held : Option StoredWallet) (stages : List FileStage)
    (journal : List FileEvent) : SharedFile :=
  ⟨.file "wallet", ⟨[""], 0, held.toList.map fun stored => (.file "wallet", stored)⟩,
    stages.map fun stage => ⟨0, singleKeyRequest, stage⟩, journal⟩

/-- A file that holds the wallet of the key with a number of indexes taken. -/
def singleKeyHeld (external : Descriptor) (count : Nat) : List FileStage → List FileEvent →
    SharedFile :=
  singleKeyFile (some (singleKeyStored external count))

/-- A user has opened the wallet of the key, which has a number of indexes taken. -/
def singleKeyOpened (external : Descriptor) (count : Nat) : FileStage :=
  .opened (singleKeyWallet external count)

/-- The first user has created the wallet and handed an address out. -/
def firstJournal : List FileEvent := [.revealed 0 0 firstAddress, .created 0]

/-- The second user has loaded the wallet after that and handed an address out too. -/
def secondJournal : List FileEvent := .revealed 1 1 secondAddress :: .loaded 1 :: firstJournal

/-- Both users have opened the wallet, and after that the first has handed out two addresses. -/
def aheadJournal : List FileEvent :=
  [.revealed 0 1 secondAddress, .revealed 0 0 firstAddress, .loaded 1, .created 0]

section

variable {external : Descriptor} {id count own : Nat} {address : String}
variable {held : Option StoredWallet} {stages : List FileStage} {journal : List FileEvent}

theorem stored?_singleKeyFile : (singleKeyFile held stages journal).stored? = held := by
  cases held <;> rfl

theorem setStage_singleKeyFile (stage : FileStage) :
    (singleKeyFile held stages journal).setStage id stage =
      singleKeyFile held (stages.set id stage) journal := by
  simp only [setStage, singleKeyFile]
  congr 1
  refine List.ext_getElem? fun place => ?_
  rw [List.getElem?_modify, List.getElem?_map, List.getElem?_map, List.getElem?_set]
  by_cases same : id = place
  · subst same
    by_cases known : id < stages.length <;> simp [known]
  · simp [same]

theorem users_singleKeyFile {stage : FileStage} (place : stages[id]? = some stage) :
    (singleKeyFile held stages journal).users[id]? = some ⟨0, singleKeyRequest, stage⟩ := by
  rw [singleKeyFile, List.getElem?_map, place]
  rfl

theorem taken_singleKeyWallet : (singleKeyWallet external count).revealed.taken = count :=
  LastRevealed.taken_ofTaken count

theorem singleKeyFile_create (single : IsSingleKey external) (place : stages[id]? = some .missed) :
    (singleKeyFile none stages journal).step? (.create id) =
      some (singleKeyHeld external 0 (stages.set id (singleKeyOpened external 0))
        (.created id :: journal)) := by
  rw [singleKeyHeld, step?_create (users_singleKeyFile place) stored?_singleKeyFile
    (DescriptorWallet.new?_of_admitted? single.admitted rfl), ← setStage_singleKeyFile]
  rfl

/-- Somebody comes to a file that nobody has used, looks for the wallet and creates it. -/
theorem singleKeyFile_opening (single : IsSingleKey external) :
    (SharedFile.new (.file "wallet") (.empty [""])).step? (.arrive 0 singleKeyRequest) =
        some (singleKeyFile none [.arrived] []) ∧
      (singleKeyFile none [.arrived] []).step? (.load 0) =
        some (singleKeyFile none [.missed] []) ∧
      (singleKeyFile none [.missed] []).step? (.create 0) =
        some (singleKeyHeld external 0 [singleKeyOpened external 0] [.created 0]) :=
  ⟨rfl, step?_load_blank rfl rfl rfl, singleKeyFile_create single rfl⟩

theorem singleKeyHeld_load (single : IsSingleKey external) (place : stages[id]? = some .arrived)
    (free : (singleKeyHeld external count stages journal).isBusy 0 = false) :
    (singleKeyHeld external count stages journal).step? (.load id) =
      some (singleKeyHeld external count (stages.set id (singleKeyOpened external count))
        (.loaded id :: journal)) := by
  have parsed : Descriptor.parse? .regtest singleKeyRequest.descriptor = some external :=
    (Option.filter_eq_some_iff.mp single.admitted).1
  have loaded : DescriptorWallet.load singleKeyRequest (.file "wallet")
      (singleKeyHeld external count stages journal).disk =
        (.value (some (singleKeyWallet external count)),
          (singleKeyHeld external count stages journal).disk) :=
    DescriptorWallet.load_of_parse? rfl parsed single.first rfl rfl rfl
  rw [singleKeyHeld] at free loaded ⊢
  rw [step?_load (users_singleKeyFile place) free loaded, setStage_singleKeyFile]
  rfl

/-- A wallet takes the index behind its own last one, whatever the file holds. -/
theorem singleKeyHeld_reveal (single : IsSingleKey external)
    (place : stages[id]? = some (singleKeyOpened external own))
    (room : own ≤ DescriptorWallet.indexLimit)
    (text : DescriptorWallet.addressText .regtest external own = .value address) :
    (singleKeyHeld external count stages journal).step? (.reveal id .written) =
      some (singleKeyHeld external (own + 1)
        (stages.set id (singleKeyOpened external (own + 1)))
        (.revealed id own address :: journal)) := by
  have room : (singleKeyWallet external own).revealed.taken ≤ DescriptorWallet.indexLimit := by
    rwa [taken_singleKeyWallet]
  have text : DescriptorWallet.addressText .regtest external
      (singleKeyWallet external own).revealed.taken = .value address := by
    rwa [taken_singleKeyWallet]
  have next : DescriptorWallet.nextIndex external (LastRevealed.ofTaken own).external =
      (own, true) := by
    have := DescriptorWallet.nextIndex_of_room single.wildcard room
    rwa [taken_singleKeyWallet] at this
  have revealed : (singleKeyWallet external own).reveal.2 =
      ⟨.regtest, external, none, .ofTaken (own + 1), .ofTaken (own + 1)⟩ := by
    rw [DescriptorWallet.reveal, singleKeyWallet, DescriptorWallet.ofStored, singleKeyStored, next]
    cases own <;> rfl
  rw [singleKeyHeld, singleKeyHeld, step?_reveal (users_singleKeyFile place) single.wildcard room
    text stored?_singleKeyFile, revealed, taken_singleKeyWallet, ← setStage_singleKeyFile]
  cases count <;> rfl

/-- The first user hands out the first address. -/
theorem singleKeyHeld_first (single : IsSingleKey external) :
    (singleKeyHeld external 0 [singleKeyOpened external 0] [.created 0]).step?
        (.reveal 0 .written) =
      some (singleKeyHeld external 1 [singleKeyOpened external 1] firstJournal) :=
  singleKeyHeld_reveal single rfl (by decide) single.first

/-- Behind the first address a second user loads the wallet and hands out the second address. -/
theorem singleKeyHeld_second (single : IsSingleKey external) {other : FileStage}
    (free : (singleKeyHeld external 1 [other, .arrived] firstJournal).isBusy 0 = false) :
    (singleKeyHeld external 1 [other, .arrived] firstJournal).step? (.load 1) =
        some (singleKeyHeld external 1 [other, singleKeyOpened external 1]
          (.loaded 1 :: firstJournal)) ∧
      (singleKeyHeld external 1 [other, singleKeyOpened external 1]
          (.loaded 1 :: firstJournal)).step? (.reveal 1 .written) =
        some (singleKeyHeld external 2 [other, singleKeyOpened external 2] secondJournal) :=
  ⟨singleKeyHeld_load single rfl free,
    singleKeyHeld_reveal single rfl (by decide) single.second⟩

end

/-! ### The life of a file -/

/-- Over the life of a file on which one wallet at a time is open, no address is handed out twice,
unless the descriptor itself has it twice: the indexes only rise, whatever writes fail and wherever
the process stops. When no write fails and the process does not stop in the middle of one, the
addresses are those of the indexes from the first one on, which is what everybody is shown who asks
for the address with that index, at any time. -/
theorem revealed_addresses_last (run : (SharedFile.new key disk).run? steps = some file)
    (wildcard : file.HasWildcard)
    (alone : ∀ passed, (SharedFile.new key disk).Passes steps passed → passed.openCount ≤ 1)
    (room : ∀ before step after, (SharedFile.new key disk).Takes steps before step after →
      before.HasRoom step) :
    file.handedOutIndexes.Pairwise (· > ·) ∧ (file.handedOut.Nodup ∨ file.HasTwins) ∧
      (disk.read key = none → (∀ user fate, .reveal user fate ∈ steps → fate = .written) →
        (∀ user, .withheld user ∉ file.journal) →
        ∀ place address, file.handedOut.reverse[place]? = some address →
          place ≤ DescriptorWallet.indexLimit ∧
          ∀ passed user wallet, (SharedFile.new key disk).Passes steps passed →
            passed.wallet? user = some wallet →
            passed.step? (.peek user (UInt32.ofNat place)) =
              some (passed.record (.peeked user (UInt32.ofNat place) address))) := by
  have sourced : file.Sourced := (Passes.of_run run).sourced run wildcard room
  have current : ∀ passed, (SharedFile.new key disk).Passes steps passed → passed.Current := by
    intro passed passes
    refine passes.invariant (fun user wallet opened => ?_) fun before step after taken current => ?_
    · rw [new_wallet?] at opened
      cases opened
    · exact current.of_move (taken.indexMove run wildcard room) (alone after taken.passes_after)
  have ascending : file.Ascending := by
    refine (Passes.of_run run).ascending run wildcard room fun before step after taken => ?_
    exact (current before taken.passes_before).not_writesBehind
  refine ⟨ascending.descending, ascending.handedOut_nodup sourced, ?_⟩
  intro blank written unfailing place address handed
  have gapless : file.Gapless := by
    refine (Passes.of_run run).invariant (new_gapless key blank)
      fun before step after taken gapless => ?_
    refine gapless.of_move (taken.indexMove run wildcard room) (alone after taken.passes_after)
      (fun user fate this => ?_) fun user noted => ?_
    · obtain ⟨early, late, split, _⟩ := taken
      exact written user fate (by simp [split, this])
    · exact unfailing user (taken.passes_after.mem_journal run noted)
  obtain ⟨chain, external, held, limit, found⟩ :=
    sourced.issued place address (gapless.issued handed)
  refine ⟨limit, fun passed user wallet passes opened => ?_⟩
  have small : (UInt32.ofNat place).toNat = place := by
    refine UInt32.toNat_ofNat_of_lt' (Nat.lt_of_le_of_lt limit ?_)
    decide
  have own : file.source? = some (wallet.chain, wallet.external) :=
    passes.source?_eq run ((passes.sourced run wildcard room).opened user wallet opened)
  cases held.symm.trans own
  refine step?_peek opened ?_ ?_
  · rwa [small]
  · rwa [DescriptorWallet.peek, small]

/-- A process opens a file, hands an address out and stops; the next one opens the file again and
hands an address out. -/
def reopening : List FileStep :=
  [.arrive 0 singleKeyRequest, .load 0, .create 0, .reveal 0 .written, .stop,
    .arrive 0 singleKeyRequest, .load 1, .reveal 1 .written]

theorem revealed_addresses_last_reopened :
    ∃ file, (SharedFile.new (.file "wallet") (.empty [""])).run? reopening = some file ∧
      file.handedOut = ["bcrt1qvctwrh8ckrex8daxya4xleaevcp299tt0v37w9",
        "bcrt1qzg4mckdh50nwdm9hkzq06528rsu73hjxytqkxs"] ∧
      file.handedOutIndexes.Pairwise (· > ·) ∧ (file.handedOut.Nodup ∨ file.HasTwins) ∧
      ∀ passed user wallet,
        (SharedFile.new (.file "wallet") (.empty [""])).Passes reopening passed →
        passed.wallet? user = some wallet →
        passed.step? (.peek user 1) = some (passed.record
          (.peeked user 1 "bcrt1qvctwrh8ckrex8daxya4xleaevcp299tt0v37w9")) := by
  obtain ⟨external, single⟩ := exists_isSingleKey
  obtain ⟨arrived, missed, created⟩ := singleKeyFile_opening single
  have revealed := singleKeyHeld_first single
  have stopped : (singleKeyHeld external 1 [singleKeyOpened external 1] firstJournal).step? .stop =
      some (singleKeyHeld external 1 [.closed] firstJournal) := rfl
  have returned : (singleKeyHeld external 1 [.closed] firstJournal).step?
      (.arrive 0 singleKeyRequest) =
        some (singleKeyHeld external 1 [.closed, .arrived] firstJournal) := rfl
  obtain ⟨loaded, revealedToo⟩ := singleKeyHeld_second single (show
    (singleKeyHeld external 1 [.closed, .arrived] firstJournal).isBusy 0 = false from rfl)
  have run : (SharedFile.new (.file "wallet") (.empty [""])).run? reopening =
      some (singleKeyHeld external 2 [.closed, singleKeyOpened external 2] secondJournal) := by
    rw [reopening, run?_cons arrived, run?_cons missed, run?_cons created, run?_cons revealed,
      run?_cons stopped, run?_cons returned, run?_cons loaded, run?_cons revealedToo, run?]
  have alone : ∀ passed, (SharedFile.new (.file "wallet") (.empty [""])).Passes reopening passed →
      passed.openCount ≤ 1 := by
    intro passed passes
    rw [reopening, passes_cons arrived, passes_cons missed, passes_cons created,
      passes_cons revealed, passes_cons stopped, passes_cons returned, passes_cons loaded,
      passes_cons revealedToo, passes_nil] at passes
    rcases passes with rfl | rfl | rfl | rfl | rfl | rfl | rfl | rfl | rfl
    all_goals first | exact Nat.zero_le 1 | exact Nat.le_refl 1
  have wildcard : (singleKeyHeld external 2 [.closed, singleKeyOpened external 2]
      secondJournal).HasWildcard := by
    rintro _ _ ⟨⟩
    exact single.wildcard
  obtain ⟨rises, unique, shown⟩ := revealed_addresses_last run wildcard alone fun _ _ _ taken =>
    hasRoom_of_length rfl run wildcard (by decide) taken
  refine ⟨_, run, rfl, rises, unique, fun passed user own => ?_⟩
  refine (shown rfl (fun user fate among => ?_) (fun user => ?_) 1 _ rfl).2 passed user own
  · have among : user = 0 ∧ fate = .written ∨ user = 1 ∧ fate = .written := by
      simpa [reopening] using among
    rcases among with ⟨_, written⟩ | ⟨_, written⟩ <;> exact written
  · simp [singleKeyHeld, singleKeyFile, secondJournal, firstJournal]

end SharedFile

end WalletBridge
