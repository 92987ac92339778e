/-
This file says what a step can do while users open a wallet file, all for the same wallet. Whoever
looks finds nothing, and goes on to create the wallet, or finds the wallet and has it open. Whoever
creates it has it open as well, or is refused because another was there before. Nothing else can
happen, as the file holds nothing or this wallet, and a request for a wallet fits the wallet that it
makes.

Users are counted by where they stand, and a step moves one of them from one stage to another.
-/

import WalletBridge.Proofs.RevealedAddresses

namespace WalletBridge

variable {request : WalletRequest} {wallet : DescriptorWallet} {key : StoreKey} {disk : Disk}

/-! ### Requests for a wallet -/

/-- A request for this wallet: where there is none it makes this one, and the wallet's descriptors
have a first script, by which they are told apart from others. -/
structure WalletRequest.IsFor (request : WalletRequest) (wallet : DescriptorWallet) : Prop where
  made : DescriptorWallet.new? request = some wallet
  external : ∃ identity, wallet.external.identity? = some identity
  internal : ∀ descriptor, wallet.internal = some descriptor →
    ∃ identity, descriptor.identity? = some identity

namespace DescriptorWallet

theorem parse?_of_admitted? {chain : Chain} {text : String} {descriptor : Descriptor}
    (admitted : admitted? chain text = some descriptor) :
    Descriptor.parse? chain text = some descriptor :=
  (Option.filter_eq_some_iff.mp admitted).1

/-- A descriptor matches the text that it was read from. -/
theorem matching_of_parse? {chain : Chain} {text : String} {descriptor : Descriptor}
    (parsed : Descriptor.parse? chain text = some descriptor)
    (told : ∃ identity, descriptor.identity? = some identity) :
    matching chain descriptor text = .value () := by
  obtain ⟨identity, told⟩ := told
  simp [matching, parsed, told]

/-- Whoever asks for the wallet that is stored loads it. -/
theorem load_of_isFor (valid : request.IsFor wallet)
    (held : disk.read key = some wallet.toStored) :
    load request key disk = (.value (some wallet), disk) := by
  obtain ⟨made, external, internal⟩ := valid
  rw [new?] at made
  obtain ⟨first, admitted, made⟩ := Option.bind_eq_some_iff.mp made
  have parsed := parse?_of_admitted? admitted
  cases change : request.change with
  | none =>
    simp only [change] at made
    cases made
    simp [load, held, toStored, matching_of_parse? parsed external, matchingChange, change,
      Attempt.map, ofStored]
  | some text =>
    simp only [change] at made
    obtain ⟨second, admittedToo, made⟩ := Option.bind_eq_some_iff.mp made
    have parsedToo := parse?_of_admitted? admittedToo
    split at made
    · cases made
    · cases made
      simp [load, held, toStored, matching_of_parse? parsed external, matchingChange, change,
        matching_of_parse? parsedToo (internal second rfl), Attempt.map, ofStored]

end DescriptorWallet

/-! ### Users on their way -/

/-- A step of somebody who opens the wallet of a request. -/
def FileStep.Opens (request : WalletRequest) : FileStep → Prop
  | .arrive _ asked => asked = request
  | .load _ | .create _ => True
  | _ => False

namespace FileStage

/-- Counts for one where somebody has looked for the wallet and not created it. -/
def missedOnce : FileStage → Nat
  | .missed => 1
  | _ => 0

/-- Has a result. -/
def isSettled : FileStage → Bool
  | .arrived | .missed => false
  | _ => true

/-- Was refused because the file holds a wallet already. -/
def tooLate : FileStage := .notCreated (some (.store "the store holds a wallet"))

/-- How many steps are left at most. -/
def stepsLeft : FileStage → Nat
  | .arrived => 2
  | .missed => 1
  | _ => 0

end FileStage

namespace SharedFile

variable {file before after : SharedFile} {step : FileStep} {id : Nat} {user : FileUser}

/-- Where a user stands. -/
def stage? (file : SharedFile) (id : Nat) : Option FileStage := (file.users[id]?).map (·.stage)

/-- Who created the wallet, the last first. -/
def creators (file : SharedFile) : List Nat :=
  file.journal.filterMap fun event =>
    match event with
    | .created id => some id
    | _ => none

/-- The sum of what the stages of the users count for. -/
def tally (file : SharedFile) (weight : FileStage → Nat) : Nat :=
  total (file.users.map fun user => weight user.stage)

/-- How many users stand between their two steps. -/
def missedCount (file : SharedFile) : Nat := file.tally FileStage.missedOnce

/-- How many steps are left to all users at most. -/
def stepsLeft (file : SharedFile) : Nat := file.tally FileStage.stepsLeft

/-- Every user has a result. -/
def IsSettled (file : SharedFile) : Prop :=
  ∀ id stage, file.stage? id = some stage → stage.isSettled = true

theorem wallet?_eq (file : SharedFile) (id : Nat) :
    file.wallet? id = (file.stage? id).bind FileStage.wallet? := by
  rw [wallet?, stage?, Option.bind_map]
  rfl

theorem stage?_of_found (found : file.users[id]? = some user) : file.stage? id = some user.stage := by
  rw [stage?, found, Option.map_some]

/-- Where a user stands who has arrived. -/
theorem stage?_of_lt (known : id < file.users.length) :
    file.stage? id = some file.users[id].stage :=
  stage?_of_found (List.getElem?_eq_getElem known)

theorem isSettled_iff :
    file.IsSettled ↔ ∀ user ∈ file.users, user.stage.isSettled = true := by
  constructor
  · intro settled user member
    obtain ⟨id, found⟩ := List.mem_iff_getElem?.mp member
    exact settled id user.stage (stage?_of_found found)
  · intro settled id stage at_id
    obtain ⟨user, found, rfl⟩ := Option.map_eq_some_iff.mp at_id
    exact settled user (List.mem_of_getElem? found)

theorem getElem?_setStage (file : SharedFile) (id : Nat) (stage : FileStage) (other : Nat) :
    (file.setStage id stage).users[other]? =
      if id = other then (file.users[other]?).map fun user => { user with stage := stage }
      else file.users[other]? := by
  rw [setStage, List.getElem?_modify]
  split <;> simp

theorem stage?_setStage_self (found : file.users[id]? = some user) (stage : FileStage) :
    (file.setStage id stage).stage? id = some stage := by
  rw [stage?, getElem?_setStage, if_pos rfl, found]
  rfl

theorem stage?_setStage_ne {other : Nat} (apart : other ≠ id) (stage : FileStage) :
    (file.setStage id stage).stage? other = file.stage? other := by
  rw [stage?, getElem?_setStage, if_neg (Ne.symm apart), stage?]

/-- A user who moves leaves one stage and enters another. -/
theorem tally_setStage (weight : FileStage → Nat) (found : file.users[id]? = some user)
    (stage : FileStage) :
    (file.setStage id stage).tally weight + weight user.stage =
      file.tally weight + weight stage := by
  simp only [tally, setStage]
  generalize file.users = users at found ⊢
  induction users generalizing id with
  | nil => cases found
  | cons head rest inductionHypothesis =>
    cases id with
    | zero =>
      cases found
      simp only [List.modify_zero_cons, List.map_cons, total]
      omega
    | succ id =>
      have moved := inductionHypothesis found
      simp only [List.modify_succ_cons, List.map_cons, total]
      omega

theorem total_eq_zero_iff {numbers : List Nat} :
    total numbers = 0 ↔ ∀ number ∈ numbers, number = 0 := by
  induction numbers with
  | nil => simp [total]
  | cons first rest inductionHypothesis => simp [total, inductionHypothesis]

theorem missedCount_eq_zero_iff :
    file.missedCount = 0 ↔ ∀ user ∈ file.users, user.stage ≠ .missed := by
  rw [missedCount, tally, total_eq_zero_iff, List.forall_mem_map]
  refine forall_congr' fun user => imp_congr_right fun _ => ?_
  cases user.stage <;> simp [FileStage.missedOnce]

theorem missedCount_pos (found : file.users[id]? = some user) (missed : user.stage = .missed) :
    0 < file.missedCount :=
  Nat.pos_of_ne_zero fun none =>
    missedCount_eq_zero_iff.mp none user (List.mem_of_getElem? found) missed

/-! ### Steps of opening -/

/-- What is known of users who come for one wallet, while they open it. -/
structure Opening (request : WalletRequest) (wallet : DescriptorWallet) (file : SharedFile) :
    Prop where
  requests : ∀ (id : Nat) (user : FileUser), file.users[id]? = some user → user.request = request
  stored : file.stored? = none ∨ file.stored? = some wallet.toStored

/-- What a step of opening can do. -/
inductive OpeningMove (request : WalletRequest) (wallet : DescriptorWallet)
    (before : SharedFile) : FileStep → SharedFile → Prop where
  | arriving (database : Nat) :
      OpeningMove request wallet before (.arrive database request)
        { before with users := before.users ++ [⟨database, request, .arrived⟩] }
  | missing (id : Nat) (user : FileUser) (found : before.users[id]? = some user)
      (arrived : user.stage = .arrived) (free : before.isBusy user.database = false)
      (blank : before.stored? = none) :
      OpeningMove request wallet before (.load id) (before.setStage id .missed)
  | loading (id : Nat) (user : FileUser) (found : before.users[id]? = some user)
      (arrived : user.stage = .arrived) (held : before.stored? = some wallet.toStored) :
      OpeningMove request wallet before (.load id)
        ((before.setStage id (.opened wallet)).record (.loaded id))
  | creating (id : Nat) (user : FileUser) (found : before.users[id]? = some user)
      (missed : user.stage = .missed) (blank : before.stored? = none) :
      OpeningMove request wallet before (.create id)
        (({ before with disk := before.disk.write before.key wallet.toStored }.setStage id
          (.opened wallet)).record (.created id))
  /-- The wallet that was not there has been created in between. -/
  | refusing (id : Nat) (user : FileUser) (found : before.users[id]? = some user)
      (missed : user.stage = .missed) (held : before.stored? = some wallet.toStored) :
      OpeningMove request wallet before (.create id)
        ((before.setStage id .tooLate).record (.refused id))

theorem load_blank (blank : file.stored? = none) : file.load id user = file.setStage id .missed := by
  have unheld : file.disk.read file.key = none := blank
  simp [load, DescriptorWallet.load, unheld]

theorem load_stored (valid : user.request.IsFor wallet)
    (held : file.stored? = some wallet.toStored) :
    file.load id user = (file.setStage id (.opened wallet)).record (.loaded id) := by
  simp [load, DescriptorWallet.load_of_isFor valid held]

theorem create_blank (valid : user.request.IsFor wallet) (blank : file.stored? = none) :
    file.create id user =
      ({ file with disk := file.disk.write file.key wallet.toStored }.setStage id
        (.opened wallet)).record (.created id) := by
  have unheld : file.disk.read file.key = none := blank
  simp [create, DescriptorWallet.create, unheld, valid.made]

theorem create_stored {stored : StoredWallet} (held : file.stored? = some stored) :
    file.create id user = (file.setStage id .tooLate).record (.refused id) := by
  have read : file.disk.read file.key = some stored := held
  simp [create, DescriptorWallet.create, read, FileStage.tooLate]

theorem Opening.move (opening : before.Opening request wallet) (valid : request.IsFor wallet)
    (opens : step.Opens request) (taken : before.step? step = some after) :
    OpeningMove request wallet before step after := by
  cases step with
  | arrive database asked =>
    cases opens
    cases taken
    exact .arriving database
  | load id =>
    simp only [step?] at taken
    split at taken
    next user found =>
      have asked := opening.requests id user found
      simp only [stepUser] at taken
      split at taken
      next arrived =>
        split at taken
        next => cases taken
        next free =>
          cases taken
          rcases opening.stored with blank | held
          · rw [load_blank blank]
            exact .missing id user found arrived (Bool.not_eq_true _ ▸ free) blank
          · rw [load_stored (asked ▸ valid) held]
            exact .loading id user found arrived held
      next => cases taken
    next => cases taken
  | create id =>
    simp only [step?] at taken
    split at taken
    next user found =>
      have asked := opening.requests id user found
      simp only [stepUser] at taken
      split at taken
      next missed =>
        cases taken
        rcases opening.stored with blank | held
        · rw [create_blank (asked ▸ valid) blank]
          exact .creating id user found missed blank
        · rw [create_stored held]
          exact .refusing id user found missed held
      next => cases taken
    next => cases taken
  | peek | inspect | reveal | close | stop => exact opens.elim

end SharedFile

end WalletBridge
