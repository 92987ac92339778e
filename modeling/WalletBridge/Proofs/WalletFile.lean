/-
This file lists once what a step on a wallet file can do. Three things are looked at: what the file
holds, which wallets are open, and which addresses were handed out. Most steps leave all three as
they are, or close wallets. A wallet that is opened is the one that the file holds. A wallet that
hands an address out takes the index behind its own last one, and the file takes it over, whatever
it held before.
-/

import Mathlib.Data.List.Basic
import WalletBridge.Engine.SharedFile

namespace WalletBridge

/-! ### Indexes -/

/-- How many indexes are taken: all up to the last one that was handed out. -/
def LastRevealed.taken (revealed : LastRevealed) : Nat := revealed.external.elim 0 (· + 1)

/-- What is known when a number of indexes is taken. -/
def LastRevealed.ofTaken : Nat → LastRevealed
  | 0 => .nothing
  | last + 1 => ⟨some last, none⟩

theorem LastRevealed.taken_ofTaken (count : Nat) : (ofTaken count).taken = count := by
  cases count <;> rfl

/-- What is kept of a wallet after a change. -/
def StoredWallet.updated (stored : StoredWallet) (change : LastRevealed) : StoredWallet :=
  { stored with revealed := stored.revealed.updated change }

theorem LastRevealed.updated_nothing (known : LastRevealed) : known.updated .nothing = known := rfl

namespace Disk

theorem read_write (disk : Disk) (key : StoreKey) (stored : StoredWallet) :
    (disk.write key stored).read key = some stored := by
  simp [read, write]

end Disk

namespace DescriptorWallet

/-- A wallet with a wildcard takes the index behind its last one, as long as there is one. -/
theorem nextIndex_of_room {descriptor : Descriptor} {revealed : LastRevealed}
    (wildcard : descriptor.hasWildcard = true) (room : revealed.taken ≤ indexLimit) :
    nextIndex descriptor revealed.external = (revealed.taken, true) := by
  obtain ⟨external, internal⟩ := revealed
  cases external with
  | none => rfl
  | some last =>
    have before : last ≠ indexLimit := Nat.ne_of_lt room
    simp [nextIndex, wildcard, before, LastRevealed.taken]

/-- What the wallet remembers when it has handed out the address behind its last one. -/
theorem reveal_of_room {wallet : DescriptorWallet}
    (wildcard : wallet.external.hasWildcard = true) (room : wallet.revealed.taken ≤ indexLimit) :
    wallet.reveal.1 = addressText wallet.chain wallet.external wallet.revealed.taken ∧
      wallet.reveal.2.revealed.taken = wallet.revealed.taken + 1 ∧
      wallet.reveal.2.staged.external = some wallet.revealed.taken := by
  simp [reveal, nextIndex_of_room wildcard room, LastRevealed.updated, LastRevealed.taken]

/-- What a store holds when a wallet has written to it what was staged. -/
theorem read_persist (wallet : DescriptorWallet) (key : StoreKey) (disk : Disk) :
    (wallet.persist key disk).2.2.read key =
      (disk.read key).map fun stored => stored.updated wallet.staged := by
  unfold persist
  by_cases unstaged : wallet.staged = .nothing
  · simp [unstaged, StoredWallet.updated, LastRevealed.updated_nothing]
  · cases held : disk.read key with
    | none => simp [unstaged, held]
    | some stored => simp [unstaged, Disk.read_write, StoredWallet.updated]

/-- A wallet that is loaded is the one that the store holds. -/
theorem read_of_load {request : WalletRequest} {key : StoreKey} {disk : Disk}
    {wallet : DescriptorWallet} (loaded : (load request key disk).1 = .value (some wallet)) :
    disk.read key = some wallet.toStored := by
  unfold load at loaded
  cases held : disk.read key with
  | none => simp [held] at loaded
  | some stored =>
    simp only [held] at loaded
    split at loaded
    · cases loaded
    · split at loaded
      · cases loaded
      · cases loaded
      · cases matched : matchingChange stored.chain stored.internal request.change <;>
          rw [matched] at loaded <;> cases loaded
        rfl

/-- A wallet that is new has handed out nothing. -/
theorem revealed_of_new? {request : WalletRequest} {wallet : DescriptorWallet}
    (made : new? request = some wallet) : wallet.revealed = .nothing := by
  unfold new? at made
  obtain ⟨external, _, made⟩ := Option.bind_eq_some_iff.mp made
  split at made
  · cases made
    rfl
  · obtain ⟨internal, _, made⟩ := Option.bind_eq_some_iff.mp made
    split at made
    · cases made
    · cases made
      rfl

/-- A wallet is created only in a store that holds none, and the store holds it from then on. -/
theorem create_eq (request : WalletRequest) (key : StoreKey) (disk : Disk) :
    (∃ wallet, create request key disk = (.value wallet, disk.write key wallet.toStored) ∧
      disk.read key = none ∧ wallet.revealed = .nothing) ∨
      ∃ failure, create request key disk = (.refused failure, disk) := by
  unfold create
  cases held : disk.read key with
  | some stored => exact .inr ⟨_, rfl⟩
  | none =>
    cases made : new? request with
    | none => exact .inr ⟨_, rfl⟩
    | some wallet => exact .inl ⟨wallet, rfl, rfl, revealed_of_new? made⟩

/-- A request for one descriptor makes a wallet of that descriptor. -/
theorem new?_of_admitted? {request : WalletRequest} {external : Descriptor}
    (admitted : admitted? request.chain request.descriptor = some external)
    (single : request.change = none) :
    new? request = some ⟨request.chain, external, none, .nothing, .nothing⟩ := by
  simp [new?, admitted, single]

/-- A descriptor with a first address can be told apart from others. -/
theorem identity?_of_addressText {chain : Chain} {descriptor : Descriptor} {address : String}
    (found : addressText chain descriptor 0 = .value address) :
    ∃ identity, descriptor.identity? = some identity := by
  have first : effectiveIndex descriptor 0 = 0 := ite_self 0
  rw [addressText, first, Descriptor.addressAt?] at found
  cases script : descriptor.scriptAt? 0 with
  | none =>
    rw [script] at found
    cases found
  | some octets => exact ⟨sha256 octets, by rw [Descriptor.identity?, script, Option.map_some]⟩

/-- Whoever asks for the descriptor that is stored, and for none for change, loads the wallet. -/
theorem load_of_parse? {request : WalletRequest} {address : String} {key : StoreKey}
    {disk : Disk} {stored : StoredWallet} (chain : request.chain = stored.chain)
    (parsed : Descriptor.parse? stored.chain request.descriptor = some stored.external)
    (found : addressText stored.chain stored.external 0 = .value address)
    (asked : request.change = none) (single : stored.internal = none)
    (held : disk.read key = some stored) :
    load request key disk = (.value (some (ofStored stored)), disk) := by
  obtain ⟨identity, told⟩ := identity?_of_addressText found
  simp [load, held, chain, matching, parsed, told, asked, single, matchingChange, Attempt.map]

end DescriptorWallet

/-- The wallet that is open in a stage. -/
def FileStage.wallet? : FileStage → Option DescriptorWallet
  | .opened wallet => some wallet
  | _ => none

/-- The index and the address that an event hands out. -/
def FileEvent.issue? : FileEvent → Option (Nat × String)
  | .revealed _ index address => some (index, address)
  | _ => none

namespace SharedFile

/-! ### What is looked at -/

/-- The wallet that the file holds. -/
def stored? (file : SharedFile) : Option StoredWallet := file.disk.read file.key

/-- The wallet that a user has open. -/
def wallet? (file : SharedFile) (user : Nat) : Option DescriptorWallet :=
  (file.users[user]?).bind (·.stage.wallet?)

/-- The indexes and the addresses that were handed out, the last first. -/
def issued (file : SharedFile) : List (Nat × String) := file.journal.filterMap (·.issue?)

theorem handedOut_eq (file : SharedFile) : file.handedOut = file.issued.map (·.2) := by
  rw [issued, List.map_filterMap, handedOut]
  congr 1
  funext event
  cases event <;> rfl

theorem handedOutIndexes_eq (file : SharedFile) :
    file.handedOutIndexes = file.issued.map (·.1) := by
  rw [issued, List.map_filterMap, handedOutIndexes]
  congr 1
  funext event
  cases event <;> rfl

section

variable {before after : SharedFile} {index : Nat} {address : String}

theorem handedOutIndexes_of_issued (issued : after.issued = before.issued) :
    after.handedOutIndexes = before.handedOutIndexes := by
  rw [handedOutIndexes_eq, issued, ← handedOutIndexes_eq]

theorem handedOutIndexes_cons (issued : after.issued = (index, address) :: before.issued) :
    after.handedOutIndexes = index :: before.handedOutIndexes := by
  rw [handedOutIndexes_eq, issued, List.map_cons, ← handedOutIndexes_eq]

theorem handedOut_cons (issued : after.issued = (index, address) :: before.issued) :
    after.handedOut = address :: before.handedOut := by
  rw [handedOut_eq, issued, List.map_cons, ← handedOut_eq]

end

/-- How many indexes are taken, as far as the file knows. -/
def taken (file : SharedFile) : Nat := file.storedIndex?.elim 0 (· + 1)

theorem taken_eq (file : SharedFile) : file.taken = file.stored?.elim 0 (·.revealed.taken) := by
  rw [taken, storedIndex?, stored?]
  cases file.disk.read file.key <;> rfl

theorem exists_opened {file : SharedFile} {id : Nat} {wallet : DescriptorWallet}
    (opened : file.wallet? id = some wallet) :
    ∃ user, file.users[id]? = some user ∧ user.stage = .opened wallet := by
  obtain ⟨user, found, stage⟩ := Option.bind_eq_some_iff.mp opened
  refine ⟨user, found, ?_⟩
  cases this : user.stage <;> rw [this] at stage <;> cases stage
  rfl

theorem wallet?_setStage_self {file : SharedFile} {id : Nat} {user : FileUser}
    (found : file.users[id]? = some user) (stage : FileStage) :
    (file.setStage id stage).wallet? id = stage.wallet? := by
  simp [wallet?, setStage, found]

theorem wallet?_setStage_ne {file : SharedFile} {id other : Nat} (apart : other ≠ id)
    (stage : FileStage) : (file.setStage id stage).wallet? other = file.wallet? other := by
  simp only [wallet?, setStage, List.getElem?_modify_ne _ _ (Ne.symm apart)]

/-! ### Steps -/

/-- What a step can do, from the state before it to the state after it. -/
inductive Move (before after : SharedFile) : FileStep → Prop where
  /-- The file stays as it is, no address is handed out, and no wallet is opened. -/
  | idle (step : FileStep) (events : List FileEvent) (stored : after.stored? = before.stored?)
      (journal : after.journal = events ++ before.journal)
      (unissued : ∀ event ∈ events, event.issue? = none)
      (wallets : ∀ user wallet, after.wallet? user = some wallet →
        before.wallet? user = some wallet) : Move before after step
  /-- A user opens the wallet that the file holds, or holds from now on. -/
  | opening (step : FileStep) (user : Nat) (wallet : DescriptorWallet) (event : FileEvent)
      (stored : after.stored? = some wallet.toStored)
      (former : before.stored? = some wallet.toStored ∨
        before.stored? = none ∧ wallet.revealed = .nothing)
      (journal : after.journal = event :: before.journal) (unissued : event.issue? = none)
      (opened : after.wallet? user = some wallet)
      (others : ∀ other, other ≠ user → after.wallet? other = before.wallet? other) :
      Move before after step
  /-- A wallet takes an index that is not written. -/
  | withheld (user : Nat) (wallet : DescriptorWallet) (fate : WriteFate)
      (opened : before.wallet? user = some wallet) (stored : after.stored? = before.stored?)
      (journal : after.journal = .withheld user :: before.journal)
      (advanced : after.wallet? user = some wallet.reveal.2)
      (others : ∀ other, other ≠ user → after.wallet? other = before.wallet? other) :
      Move before after (.reveal user fate)
  /-- The process stops when the index is written, before the address is handed out. -/
  | lost (user : Nat) (wallet : DescriptorWallet) (opened : before.wallet? user = some wallet)
      (stored : after.stored? = before.stored?.map fun stored =>
        stored.updated wallet.reveal.2.staged)
      (journal : after.journal = before.journal) (closed : ∀ user, after.wallet? user = none) :
      Move before after (.reveal user .stoppedAfter)
  /-- A wallet hands out an address when its index is written. -/
  | handing (user : Nat) (wallet : DescriptorWallet) (address : String)
      (opened : before.wallet? user = some wallet) (revealed : wallet.reveal.1 = .value address)
      (stored : after.stored? = before.stored?.map fun stored =>
        stored.updated wallet.reveal.2.staged)
      (journal : after.journal = .revealed user
        (DescriptorWallet.nextIndex wallet.external wallet.revealed.external).1 address ::
          before.journal)
      (advanced : after.wallet? user = some { wallet.reveal.2 with staged := .nothing })
      (others : ∀ other, other ≠ user → after.wallet? other = before.wallet? other) :
      Move before after (.reveal user .written)

section

variable {before after : SharedFile} {id : Nat} {user : FileUser}

/-- A step that opens no wallet, writes nothing and hands nothing out. -/
theorem Move.of_setStage {step : FileStep} {stage : FileStage} (events : List FileEvent)
    (found : before.users[id]? = some user) (users : after.users = (before.setStage id stage).users)
    (unopened : stage.wallet? = none) (stored : after.stored? = before.stored?)
    (journal : after.journal = events ++ before.journal)
    (unissued : ∀ event ∈ events, event.issue? = none) : Move before after step := by
  refine .idle step events stored journal unissued fun other wallet opened => ?_
  rw [wallet?, users] at opened
  change (before.setStage id stage).wallet? other = some wallet at opened
  by_cases same : other = id
  · subst same
    rw [wallet?_setStage_self found, unopened] at opened
    cases opened
  · rwa [wallet?_setStage_ne same] at opened

theorem stop_wallet? (file : SharedFile) (other : Nat) : file.stop.wallet? other = none := by
  simp only [wallet?, stop, List.getElem?_map]
  cases file.users[other]? <;> rfl

/-- A step that opens a wallet which the file holds. -/
theorem Move.of_opened {step : FileStep} {wallet : DescriptorWallet} {event : FileEvent}
    (found : before.users[id]? = some user)
    (users : after.users = (before.setStage id (.opened wallet)).users)
    (stored : after.stored? = some wallet.toStored)
    (former : before.stored? = some wallet.toStored ∨
      before.stored? = none ∧ wallet.revealed = .nothing)
    (journal : after.journal = event :: before.journal) (unissued : event.issue? = none) :
    Move before after step := by
  refine .opening step id wallet event stored former journal unissued ?_ fun other apart => ?_
  · rw [wallet?, users]
    exact wallet?_setStage_self found (.opened wallet)
  · rw [wallet?, users]
    exact wallet?_setStage_ne apart (.opened wallet)

theorem load_move (found : before.users[id]? = some user) (step : FileStep) :
    Move before (before.load id user) step := by
  have disk : (DescriptorWallet.load user.request before.key before.disk).2 = before.disk := rfl
  unfold load
  simp only [disk]
  split
  · rename_i wallet loaded
    have stored : before.stored? = some wallet.toStored := DescriptorWallet.read_of_load loaded
    exact .of_opened found rfl stored (.inl stored) rfl rfl
  · exact .of_setStage [] found rfl rfl rfl rfl (by simp)
  · exact .of_setStage [.refused id] found rfl rfl rfl rfl (by simp [FileEvent.issue?])
  · exact .of_setStage [.refused id] found rfl rfl rfl rfl (by simp [FileEvent.issue?])

theorem create_move (found : before.users[id]? = some user) (step : FileStep) :
    Move before (before.create id user) step := by
  unfold create
  rcases DescriptorWallet.create_eq user.request before.key before.disk with
    ⟨wallet, created, blank, unused⟩ | ⟨failure, refused⟩
  · simp only [created]
    exact .of_opened found rfl (Disk.read_write _ _ _) (.inr ⟨blank, unused⟩) rfl rfl
  · simp only [refused]
    exact .of_setStage [.refused id] found rfl rfl rfl rfl (by simp [FileEvent.issue?])

theorem reveal_move {wallet : DescriptorWallet} (found : before.users[id]? = some user)
    (opened : user.stage = .opened wallet) (fate : WriteFate) :
    Move before (before.reveal id wallet fate) (.reveal id fate) := by
  have had : before.wallet? id = some wallet := by
    rw [wallet?, found, Option.bind_some, opened]
    rfl
  have withheld : Move before
      ((before.setStage id (.opened wallet.reveal.2)).record (.withheld id)) (.reveal id fate) :=
    .withheld id wallet fate had rfl rfl (wallet?_setStage_self found _)
      fun _ apart => wallet?_setStage_ne apart _
  have written : (wallet.reveal.2.persist before.key before.disk).2.2.read before.key =
      before.stored?.map fun stored => stored.updated wallet.reveal.2.staged :=
    DescriptorWallet.read_persist _ _ _
  unfold reveal
  simp only
  split
  · rename_i address revealed
    cases fate with
    | written =>
      exact .handing id wallet address had revealed written rfl (wallet?_setStage_self found _)
        fun _ apart => wallet?_setStage_ne apart _
    | refused => exact withheld
    | stoppedBefore =>
      refine .idle _ [] rfl rfl (by simp) fun other own open' => ?_
      rw [stop_wallet?] at open'
      cases open'
    | stoppedAfter => exact .lost id wallet had written rfl (stop_wallet? _)
  · exact withheld

theorem idle_move {step : FileStep} : Move before before step :=
  .idle step [] rfl rfl (by simp) fun _ _ opened => opened

theorem stepUser_move {step : FileStep} (found : before.users[id]? = some user)
    (named : ∀ fate other, step = .reveal other fate → other = id)
    (taken : before.stepUser id user step = some after) : Move before after step := by
  cases step with
  | load other =>
    simp only [stepUser] at taken
    split at taken
    · split at taken
      · cases taken
      · cases taken
        exact load_move found _
    · cases taken
  | create other =>
    simp only [stepUser] at taken
    split at taken
    · cases taken
      exact create_move found _
    · cases taken
  | peek other index =>
    simp only [stepUser] at taken
    split at taken
    · split at taken
      · cases taken
        exact idle_move
      · split at taken
        · rename_i address _
          cases taken
          exact .idle _ [.peeked id index address] rfl rfl (by simp [FileEvent.issue?])
            fun _ _ opened => opened
        · cases taken
          exact idle_move
    · cases taken
  | inspect other =>
    simp only [stepUser] at taken
    split at taken
    · cases taken
      exact idle_move
    · cases taken
  | reveal other fate =>
    cases named fate other rfl
    simp only [stepUser] at taken
    split at taken
    · rename_i wallet opened
      cases taken
      exact reveal_move found opened fate
    · cases taken
  | close other =>
    simp only [stepUser] at taken
    split at taken
    · cases taken
      exact .of_setStage [] found rfl rfl rfl rfl (by simp)
    · cases taken
  | arrive database request => cases taken
  | stop => cases taken

theorem step?_move {step : FileStep} (taken : before.step? step = some after) :
    Move before after step := by
  cases step with
  | arrive database request =>
    cases taken
    refine .idle _ [] rfl rfl (by simp) fun other wallet opened => ?_
    by_cases known : other < before.users.length
    · rwa [wallet?, List.getElem?_append_left known] at opened
    · rw [wallet?, List.getElem?_append_right (Nat.le_of_not_lt known)] at opened
      cases place : other - before.users.length with
      | zero =>
        rw [place] at opened
        cases opened
      | succ _ =>
        rw [place] at opened
        cases opened
  | stop =>
    cases taken
    refine .idle _ [] rfl rfl (by simp) fun other wallet opened => ?_
    rw [stop_wallet?] at opened
    cases opened
  | load | create | peek | inspect | reveal | close =>
    simp only [step?] at taken
    split at taken
    · rename_i user found
      exact stepUser_move found (by simp) taken
    · cases taken

end

/-! ### Steps that users can take -/

section

variable {file : SharedFile} {id database : Nat} {request : WalletRequest}
variable {wallet : DescriptorWallet} {address : String}

theorem step?_load_blank (found : file.users[id]? = some ⟨database, request, .arrived⟩)
    (free : file.isBusy database = false) (blank : file.stored? = none) :
    file.step? (.load id) = some (file.setStage id .missed) := by
  have unheld : file.disk.read file.key = none := blank
  simp [step?, found, stepUser, free, SharedFile.load, DescriptorWallet.load, unheld]

theorem step?_create (found : file.users[id]? = some ⟨database, request, .missed⟩)
    (blank : file.stored? = none) (made : DescriptorWallet.new? request = some wallet) :
    file.step? (.create id) =
      some (({ file with disk := file.disk.write file.key wallet.toStored }.setStage id
        (.opened wallet)).record (.created id)) := by
  have unheld : file.disk.read file.key = none := blank
  simp [step?, found, stepUser, SharedFile.create, DescriptorWallet.create, unheld, made]

theorem step?_load (found : file.users[id]? = some ⟨database, request, .arrived⟩)
    (free : file.isBusy database = false)
    (loaded : DescriptorWallet.load request file.key file.disk =
      (.value (some wallet), file.disk)) :
    file.step? (.load id) = some ((file.setStage id (.opened wallet)).record (.loaded id)) := by
  simp [step?, found, stepUser, free, SharedFile.load, loaded]

theorem step?_reveal {stored : StoredWallet}
    (found : file.users[id]? = some ⟨database, request, .opened wallet⟩)
    (wildcard : wallet.external.hasWildcard = true)
    (room : wallet.revealed.taken ≤ DescriptorWallet.indexLimit)
    (text : DescriptorWallet.addressText wallet.chain wallet.external wallet.revealed.taken =
      .value address)
    (held : file.stored? = some stored) :
    file.step? (.reveal id .written) =
      some (({ file with
        disk := file.disk.write file.key (stored.updated wallet.reveal.2.staged) }.setStage id
        (.opened { wallet.reveal.2 with staged := .nothing })).record
          (.revealed id wallet.revealed.taken address)) := by
  obtain ⟨revealed, _, staged⟩ := DescriptorWallet.reveal_of_room wildcard room
  have unwritten : wallet.reveal.2.staged ≠ .nothing := by
    intro this
    rw [this] at staged
    cases staged
  have read : file.disk.read file.key = some stored := held
  simp [step?, found, stepUser, SharedFile.reveal, revealed, text, DescriptorWallet.persist,
    unwritten, read, DescriptorWallet.nextIndex_of_room wildcard room, StoredWallet.updated]

theorem step?_peek {index : UInt32} (opened : file.wallet? id = some wallet)
    (limit : index.toNat ≤ DescriptorWallet.indexLimit)
    (found : wallet.peek index = .value address) :
    file.step? (.peek id index) = some (file.record (.peeked id index address)) := by
  obtain ⟨held, at_id, stage⟩ := exists_opened opened
  simp [step?, at_id, stepUser, stage, Nat.not_lt_of_le limit, found]

end

end SharedFile

end WalletBridge
