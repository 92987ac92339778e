/-
This file is about users who come to one wallet file that nobody has used before, all for the same
wallet. Whoever looks for the wallet and does not find it creates it, and these are two steps. Users
of one database object take both without another in between. Users of several database objects do
not: two of them can have looked before either has created anything, and then the second is refused,
although the wallet that it asks for is stored by then.

So exactly one user creates the wallet in any case, and nobody is refused for another cause. The
others load it if and only if no two users stand between their two steps at the same time.
-/

import WalletBridge.Proofs.OpeningSteps

namespace WalletBridge

variable {request : WalletRequest} {wallet : DescriptorWallet} {key : StoreKey} {disk : Disk}

namespace SharedFile

variable {file before after passed : SharedFile} {steps : List FileStep} {step : FileStep}
  {id : Nat} {user : FileUser} {stage : FileStage}

/-! ### What users come to -/

/-- What is known of a user in a stage, and what the journal tells of it. -/
def Accounts (file : SharedFile) (wallet : DescriptorWallet) (id : Nat) : FileStage → Prop
  | .arrived | .missed => True
  | .opened held => held = wallet ∧ (.loaded id ∈ file.journal ∨ .created id ∈ file.journal)
  | stage => stage = .tooLate ∧ .refused id ∈ file.journal

/-- Who created the wallet, and what came of everybody. -/
structure Accounted (wallet : DescriptorWallet) (file : SharedFile) : Prop where
  users : ∀ (id : Nat) (stage : FileStage), file.stage? id = some stage →
    file.Accounts wallet id stage
  creation : (file.stored? = none ∧ file.creators = [] ∧
      ∀ (id : Nat) (stage : FileStage), file.stage? id = some stage → stage.isSettled = false) ∨
    ∃ creator, file.stored? = some wallet.toStored ∧ file.creators = [creator] ∧
      file.wallet? creator = some wallet

theorem mem_creators {creator : Nat} : creator ∈ file.creators ↔ .created creator ∈ file.journal := by
  rw [creators, List.mem_filterMap]
  constructor
  · rintro ⟨event, noted, same⟩
    split at same
    next id => cases same; exact noted
    next => cases same
  · exact fun noted => ⟨_, noted, rfl⟩

/-- What the journal tells of a user it goes on telling. -/
theorem Accounts.mono (accounts : before.Accounts wallet id stage)
    (kept : ∀ event ∈ before.journal, event ∈ after.journal) : after.Accounts wallet id stage := by
  cases stage with
  | arrived | missed => trivial
  | opened held => exact ⟨accounts.1, accounts.2.imp (kept _) (kept _)⟩
  | notLoaded failure => exact ⟨accounts.1, kept _ accounts.2⟩
  | notCreated failure => exact ⟨accounts.1, kept _ accounts.2⟩
  | closed => exact ⟨accounts.1, kept _ accounts.2⟩

/-- A user keeps its database object and its request; the only new one is who arrives. -/
theorem OpeningMove.former (move : OpeningMove request wallet before step after)
    (found : after.users[id]? = some user) :
    (∃ former, before.users[id]? = some former ∧ user.database = former.database ∧
        user.request = former.request) ∨
      ∃ database, step = .arrive database request ∧ user = ⟨database, request, .arrived⟩ := by
  have ofStage : ∀ {file : SharedFile} {place : Nat} {stage : FileStage},
      file.users = before.users → (file.setStage place stage).users[id]? = some user →
      ∃ former, before.users[id]? = some former ∧ user.database = former.database ∧
        user.request = former.request := by
    intro file place stage same found
    rw [getElem?_setStage, same] at found
    split at found
    · obtain ⟨former, present, rfl⟩ := Option.map_eq_some_iff.mp found
      exact ⟨former, present, rfl, rfl⟩
    · exact ⟨user, found, rfl, rfl⟩
  cases move with
  | arriving database =>
    by_cases known : id < before.users.length
    · rw [List.getElem?_append_left known] at found
      exact .inl ⟨user, found, rfl, rfl⟩
    · rw [List.getElem?_append_right (Nat.le_of_not_lt known)] at found
      exact .inr ⟨database, rfl, List.mem_singleton.mp (List.mem_of_getElem? found)⟩
  | missing place own => exact .inl (ofStage rfl found)
  | loading place own => exact .inl (ofStage rfl found)
  | creating place own => exact .inl (ofStage rfl found)
  | refusing place own => exact .inl (ofStage rfl found)

/-- The stages after somebody has arrived. -/
theorem stage?_arriving (file : SharedFile) (user : FileUser) (id : Nat) :
    { file with users := file.users ++ [user] }.stage? id =
      if id = file.users.length then some user.stage else file.stage? id := by
  rw [stage?, stage?]
  by_cases last : id = file.users.length
  · simp [last]
  · rw [if_neg last]
    by_cases known : id < file.users.length
    · rw [List.getElem?_append_left known]
    · rw [List.getElem?_eq_none (by simp; omega), List.getElem?_eq_none (by omega)]

/-- A user who moves answers for its new stage, and the others for theirs. -/
theorem Accounted.users_of_setStage (accounted : before.Accounted wallet)
    (found : before.users[id]? = some user) {stage : FileStage}
    (stages : ∀ other, after.stage? other = (before.setStage id stage).stage? other)
    (kept : ∀ event ∈ before.journal, event ∈ after.journal) (own : after.Accounts wallet id stage)
    (other : Nat) (held : FileStage) (at_other : after.stage? other = some held) :
    after.Accounts wallet other held := by
  rw [stages] at at_other
  by_cases same : other = id
  · subst same
    rw [stage?_setStage_self found] at at_other
    cases at_other
    exact own
  · rw [stage?_setStage_ne same] at at_other
    exact (accounted.users other held at_other).mono kept

/-- Whoever created the wallet has it open, also when another user moves. -/
theorem wallet?_of_setStage {creator : Nat} (found : before.users[id]? = some user)
    (unopened : user.stage.wallet? = none)
    (stages : ∀ other, after.stage? other = (before.setStage id stage).stage? other)
    (opened : before.wallet? creator = some wallet) : after.wallet? creator = some wallet := by
  have apart : creator ≠ id := by
    rintro rfl
    rw [wallet?_eq, stage?_of_found found, Option.bind_some, unopened] at opened
    cases opened
  rw [wallet?_eq, stages, stage?_setStage_ne apart, ← wallet?_eq, opened]

theorem Accounted.of_move (accounted : before.Accounted wallet)
    (move : OpeningMove request wallet before step after) : after.Accounted wallet := by
  cases move with
  | arriving database =>
    refine ⟨fun id stage at_id => ?_, ?_⟩
    · rw [stage?_arriving] at at_id
      split at at_id
      · cases at_id
        trivial
      · exact (accounted.users id stage at_id).mono fun _ noted => noted
    · rcases accounted.creation with ⟨blank, nobody, unsettled⟩ | ⟨creator, held, only, opened⟩
      · refine .inl ⟨blank, nobody, fun id stage at_id => ?_⟩
        rw [stage?_arriving] at at_id
        split at at_id
        · cases at_id
          rfl
        · exact unsettled id stage at_id
      · refine .inr ⟨creator, held, only, ?_⟩
        have known : creator ≠ before.users.length := by
          rintro rfl
          rw [wallet?, List.getElem?_eq_none (Nat.le_refl _)] at opened
          cases opened
        rw [wallet?_eq, stage?_arriving, if_neg known, ← wallet?_eq, opened]
  | missing id user found arrived free blank =>
    refine ⟨accounted.users_of_setStage found (fun _ => rfl) (fun _ noted => noted) trivial, ?_⟩
    rcases accounted.creation with ⟨_, nobody, unsettled⟩ | ⟨creator, held, -⟩
    · refine .inl ⟨blank, nobody, fun other stage at_other => ?_⟩
      by_cases same : other = id
      · subst same
        rw [stage?_setStage_self found] at at_other
        cases at_other
        rfl
      · rw [stage?_setStage_ne same] at at_other
        exact unsettled other stage at_other
    · rw [blank] at held
      cases held
  | loading id user found arrived held =>
    refine ⟨accounted.users_of_setStage found (fun _ => rfl)
      (fun _ noted => List.mem_cons_of_mem _ noted) ⟨rfl, .inl List.mem_cons_self⟩, ?_⟩
    rcases accounted.creation with ⟨blank, -⟩ | ⟨creator, _, only, opened⟩
    · rw [blank] at held
      cases held
    · exact .inr ⟨creator, held, only,
        wallet?_of_setStage found (arrived ▸ rfl) (fun _ => rfl) opened⟩
  | creating id user found missed blank =>
    refine ⟨accounted.users_of_setStage found (fun _ => rfl)
      (fun _ noted => List.mem_cons_of_mem _ noted) ⟨rfl, .inr List.mem_cons_self⟩, ?_⟩
    rcases accounted.creation with ⟨_, nobody, -⟩ | ⟨creator, held, -⟩
    · refine .inr ⟨id, Disk.read_write _ _ _, congrArg (id :: ·) nobody, ?_⟩
      exact wallet?_setStage_self found _
    · rw [blank] at held
      cases held
  | refusing id user found missed held =>
    refine ⟨accounted.users_of_setStage found (fun _ => rfl)
      (fun _ noted => List.mem_cons_of_mem _ noted) ⟨rfl, List.mem_cons_self⟩, ?_⟩
    rcases accounted.creation with ⟨blank, -⟩ | ⟨creator, _, only, opened⟩
    · rw [blank] at held
      cases held
    · exact .inr ⟨creator, held, only,
        wallet?_of_setStage found (missed ▸ rfl) (fun _ => rfl) opened⟩

theorem Opening.of_move (opening : before.Opening request wallet)
    (move : OpeningMove request wallet before step after) : after.Opening request wallet := by
  refine ⟨fun id user found => ?_, ?_⟩
  · rcases move.former found with ⟨former, present, -, same⟩ | ⟨database, -, rfl⟩
    · exact same.trans (opening.requests id former present)
    · rfl
  cases move with
  | arriving database => exact opening.stored
  | missing id user found arrived free blank => exact .inl blank
  | loading id user found arrived held => exact .inr held
  | creating id user found missed blank => exact .inr (Disk.read_write _ _ _)
  | refusing id user found missed held => exact .inr held

/-! ### Users between their two steps -/

theorem stored?_ne_none {stored : StoredWallet} (held : file.stored? = some stored) :
    file.stored? ≠ none := by
  rw [held]
  exact Option.some_ne_none stored

theorem tally_arriving (weight : FileStage → Nat) (file : SharedFile) (user : FileUser) :
    { file with users := file.users ++ [user] }.tally weight =
      file.tally weight + weight user.stage := by
  simp [tally, total_append, total]

theorem missedCount_arriving (file : SharedFile) (database : Nat) (request : WalletRequest) :
    SharedFile.missedCount { file with users := file.users ++ [⟨database, request, .arrived⟩] } =
      file.missedCount :=
  tally_arriving FileStage.missedOnce file ⟨database, request, .arrived⟩

/-- How the number of users between their two steps changes: one more without a wallet in the file,
none, or one less with a wallet in the file from then on. -/
theorem OpeningMove.missedCount (move : OpeningMove request wallet before step after) :
    (before.stored? = none ∧ after.stored? = none ∧
        after.missedCount = before.missedCount + 1) ∨
      (after.stored? = before.stored? ∧ after.missedCount = before.missedCount) ∨
      (after.stored? ≠ none ∧ after.missedCount + 1 = before.missedCount) := by
  cases move with
  | arriving database => exact .inr (.inl ⟨rfl, missedCount_arriving before database request⟩)
  | missing id user found arrived free blank =>
    have moved := tally_setStage FileStage.missedOnce found .missed
    rw [arrived] at moved
    exact .inl ⟨blank, blank, moved⟩
  | loading id user found arrived held =>
    have moved := tally_setStage FileStage.missedOnce found (.opened wallet)
    rw [arrived] at moved
    exact .inr (.inl ⟨rfl, moved⟩)
  | creating id user found missed blank =>
    have moved := tally_setStage FileStage.missedOnce found (.opened wallet)
    rw [missed] at moved
    exact .inr (.inr ⟨stored?_ne_none (Disk.read_write _ _ _), moved⟩)
  | refusing id user found missed held =>
    have moved := tally_setStage FileStage.missedOnce found .tooLate
    rw [missed] at moved
    exact .inr (.inr ⟨stored?_ne_none held, moved⟩)

/-- Nobody was refused, and once the wallet is there nobody stands between two steps. -/
structure Calm (file : SharedFile) : Prop where
  unrefused : ∀ id, file.stage? id ≠ some .tooLate
  clear : file.stored? ≠ none → file.missedCount = 0

theorem Calm.unrefused_of_setStage (calm : before.Calm) (found : before.users[id]? = some user)
    (ordinary : stage ≠ .tooLate) (other : Nat) :
    (before.setStage id stage).stage? other ≠ some .tooLate := by
  by_cases same : other = id
  · subst same
    rw [stage?_setStage_self found]
    exact fun late => ordinary (Option.some.inj late)
  · rw [stage?_setStage_ne same]
    exact calm.unrefused other

/-- As long as users keep apart, nobody is refused. -/
theorem Calm.of_move (calm : before.Calm) (apart : before.missedCount ≤ 1)
    (move : OpeningMove request wallet before step after) : after.Calm := by
  refine ⟨fun other => ?_, fun held => ?_⟩
  · have missing : FileStage.missed ≠ .tooLate := nofun
    have opening : FileStage.opened wallet ≠ .tooLate := nofun
    cases move with
    | arriving database =>
      rw [stage?_arriving]
      split
      · exact fun late => nomatch late
      · exact calm.unrefused other
    | missing id user found => exact calm.unrefused_of_setStage found missing other
    | loading id user found => exact calm.unrefused_of_setStage found opening other
    | creating id user found => exact calm.unrefused_of_setStage found opening other
    | refusing id user found missed held =>
      have positive := missedCount_pos found missed
      rw [calm.clear (stored?_ne_none held)] at positive
      exact absurd positive (Nat.lt_irrefl 0)
  · rcases move.missedCount with ⟨-, blank, -⟩ | ⟨same, count⟩ | ⟨-, count⟩
    · exact absurd blank held
    · rw [count]
      exact calm.clear (same ▸ held)
    · omega

/-- Somebody was refused, or will be: more users stand between their two steps than can create the
wallet. -/
def Strained (file : SharedFile) : Prop :=
  (∃ id, file.stage? id = some .tooLate) ∨ 2 ≤ file.missedCount ∨
    file.stored? ≠ none ∧ 1 ≤ file.missedCount

/-- Whoever was refused stays so. -/
theorem OpeningMove.refused (move : OpeningMove request wallet before step after) {late : Nat}
    (refused : before.stage? late = some .tooLate) : after.stage? late = some .tooLate := by
  have others : ∀ {id : Nat} {user : FileUser} {stage : FileStage},
      before.users[id]? = some user → user.stage ≠ .tooLate →
      (before.setStage id stage).stage? late = some .tooLate := by
    intro id user stage found ordinary
    have apart : late ≠ id := by
      rintro rfl
      rw [stage?_of_found found] at refused
      exact ordinary (Option.some.inj refused)
    rw [stage?_setStage_ne apart, refused]
  cases move with
  | arriving database =>
    have known : late ≠ before.users.length := by
      rintro rfl
      rw [stage?, List.getElem?_eq_none (Nat.le_refl _)] at refused
      cases refused
    rw [stage?_arriving, if_neg known, refused]
  | missing id user found arrived => exact others found (by simp [arrived, FileStage.tooLate])
  | loading id user found arrived => exact others found (by simp [arrived, FileStage.tooLate])
  | creating id user found missed => exact others found (by simp [missed, FileStage.tooLate])
  | refusing id user found missed => exact others found (by simp [missed, FileStage.tooLate])

/-- Two users between their two steps are one too many, whatever they do next. -/
theorem Strained.of_move (strained : before.Strained)
    (move : OpeningMove request wallet before step after) : after.Strained := by
  rcases strained with ⟨late, refused⟩ | two | ⟨held, one⟩
  · exact .inl ⟨late, move.refused refused⟩
  · rcases move.missedCount with ⟨-, -, count⟩ | ⟨-, count⟩ | ⟨held, count⟩
    · exact .inr (.inl (by omega))
    · exact .inr (.inl (by omega))
    · exact .inr (.inr ⟨held, by omega⟩)
  · cases move with
    | arriving database =>
      have same := missedCount_arriving before database request
      exact .inr (.inr ⟨held, Nat.le_trans one (Nat.le_of_eq same.symm)⟩)
    | missing id user found arrived free blank => exact absurd blank held
    | loading id user found arrived stored =>
      have moved := tally_setStage FileStage.missedOnce found (.opened wallet)
      rw [arrived] at moved
      exact .inr (.inr ⟨held, Nat.le_trans one (Nat.le_of_eq moved.symm)⟩)
    | creating id user found missed blank => exact absurd blank held
    | refusing id user found missed stored => exact .inl ⟨id, stage?_setStage_self found _⟩

theorem missedCount_of_settled (settled : file.IsSettled) : file.missedCount = 0 := by
  rw [missedCount_eq_zero_iff]
  intro user member missed
  have waits := isSettled_iff.mp settled user member
  rw [missed] at waits
  cases waits

theorem Strained.exists_refused (strained : file.Strained) (settled : file.IsSettled) :
    ∃ id, file.stage? id = some .tooLate := by
  have none := missedCount_of_settled settled
  rcases strained with refused | two | ⟨-, one⟩
  · exact refused
  · omega
  · omega

/-! ### One database object -/

/-- All users came through one database object, which serves one at a time. -/
structure Served (database : Nat) (file : SharedFile) : Prop where
  database : ∀ (id : Nat) (user : FileUser), file.users[id]? = some user →
    user.database = database
  single : file.missedCount ≤ 1

theorem isBusy_eq_false_iff {database : Nat} :
    file.isBusy database = false ↔
      ∀ user ∈ file.users, user.stage = .missed → user.database ≠ database := by
  rw [isBusy, List.any_eq_false]
  refine forall_congr' fun user => imp_congr_right fun _ => ?_
  cases user.stage <;> simp

theorem Served.of_move {database : Nat} (served : before.Served database)
    (move : OpeningMove request wallet before step after)
    (only : ∀ other asked, step = .arrive other asked → other = database) :
    after.Served database := by
  refine ⟨fun id user found => ?_, ?_⟩
  · rcases move.former found with ⟨former, present, same, -⟩ | ⟨other, arrived, rfl⟩
    · exact same.trans (served.database id former present)
    · exact only other request arrived
  · have single := served.single
    cases move with
    | arriving other =>
      rw [missedCount_arriving]
      exact single
    | missing id user found arrived free blank =>
      have none : before.missedCount = 0 := by
        rw [missedCount_eq_zero_iff]
        intro other member missed
        obtain ⟨place, present⟩ := List.mem_iff_getElem?.mp member
        have apart := isBusy_eq_false_iff.mp free other member missed
        rw [served.database place other present, served.database id user found] at apart
        exact apart rfl
      have moved := tally_setStage FileStage.missedOnce found .missed
      rw [arrived] at moved
      exact Nat.le_of_eq (moved.trans (congrArg (· + 1) none))
    | loading id user found arrived held =>
      have moved := tally_setStage FileStage.missedOnce found (.opened wallet)
      rw [arrived] at moved
      exact Nat.le_trans (Nat.le_of_eq moved) single
    | creating id user found missed blank =>
      have moved := tally_setStage FileStage.missedOnce found (.opened wallet)
      exact Nat.le_trans (Nat.le_trans (Nat.le_add_right _ _) (Nat.le_of_eq moved)) single
    | refusing id user found missed held =>
      have moved := tally_setStage FileStage.missedOnce found .tooLate
      exact Nat.le_trans (Nat.le_trans (Nat.le_add_right _ _) (Nat.le_of_eq moved)) single

/-! ### The end of all calls -/

/-- As long as somebody has no result, somebody can take a step. -/
theorem exists_step_of_not_settled (unsettled : ¬ file.IsSettled) :
    ∃ id step, (step = .load id ∨ step = .create id) ∧ (file.step? step).isSome = true := by
  by_cases missed : ∃ user ∈ file.users, user.stage = .missed
  · obtain ⟨user, member, stage⟩ := missed
    obtain ⟨id, found⟩ := List.mem_iff_getElem?.mp member
    exact ⟨id, .create id, .inr rfl, by simp [step?, found, stepUser, stage]⟩
  · have free : ∀ database, file.isBusy database = false := fun database =>
      isBusy_eq_false_iff.mpr fun user member stage => absurd ⟨user, member, stage⟩ missed
    simp only [isSettled_iff, not_forall] at unsettled
    obtain ⟨user, member, waits⟩ := unsettled
    obtain ⟨id, found⟩ := List.mem_iff_getElem?.mp member
    have arrived : user.stage = .arrived := by
      cases own : user.stage with
      | arrived => rfl
      | missed => exact absurd ⟨user, member, own⟩ missed
      | _ => exact absurd (by rw [own]; rfl) waits
    exact ⟨id, .load id, .inl rfl, by simp [step?, found, stepUser, arrived, free]⟩

/-- Every step is one of three that a user can take. -/
theorem OpeningMove.stepsLeft (move : OpeningMove request wallet before step after) :
    after.stepsLeft + 3 * before.users.length + 1 ≤ before.stepsLeft + 3 * after.users.length := by
  have setStage : ∀ {id : Nat} {user : FileUser} {stage : FileStage},
      before.users[id]? = some user → stage.stepsLeft < user.stage.stepsLeft →
      (before.setStage id stage).stepsLeft + 3 * before.users.length + 1 ≤
        before.stepsLeft + 3 * (before.setStage id stage).users.length := by
    intro id user stage found less
    have moved := tally_setStage FileStage.stepsLeft found stage
    have length : (before.setStage id stage).users.length = before.users.length :=
      List.length_modify _ _ _
    simp only [SharedFile.stepsLeft]
    omega
  cases move with
  | arriving database =>
    have more := tally_arriving FileStage.stepsLeft before ⟨database, request, .arrived⟩
    simp only [SharedFile.stepsLeft, more, List.length_append, List.length_singleton]
    show _ + 2 + _ + 1 ≤ _
    omega
  | missing id user found arrived => exact setStage found (arrived ▸ Nat.one_lt_two)
  | loading id user found arrived => exact setStage found (arrived ▸ Nat.two_pos)
  | creating id user found missed => exact setStage found (missed ▸ Nat.one_pos)
  | refusing id user found missed => exact setStage found (missed ▸ Nat.one_pos)

/-! ### Opening one file -/

theorem new_opening (blank : disk.read key = none) : (new key disk).Opening request wallet :=
  ⟨fun _ _ found => (nomatch found), .inl blank⟩

theorem new_accounted (blank : disk.read key = none) : (new key disk).Accounted wallet :=
  ⟨fun _ _ at_id => (nomatch at_id), .inl ⟨blank, rfl, fun _ _ at_id => (nomatch at_id)⟩⟩

theorem new_calm (blank : disk.read key = none) : (new key disk).Calm :=
  ⟨fun _ at_id => (nomatch at_id), fun held => absurd blank held⟩

theorem new_served (database : Nat) : (new key disk).Served database :=
  ⟨fun _ _ found => (nomatch found), Nat.zero_le 1⟩

/-- A step that is taken later on is among the steps. -/
theorem Takes.behind {start : SharedFile} {early late : List FileStep}
    (taken : passed.Takes late before step after) (reached : start.run? early = some passed) :
    start.Takes (early ++ late) before step after := by
  obtain ⟨front, back, rfl, run, stepped⟩ := taken
  refine ⟨early ++ front, back, (List.append_assoc _ _ _).symm, ?_, stepped⟩
  rw [run?_append, reached, Option.bind_some, run]

section

variable (valid : request.IsFor wallet) (blank : disk.read key = none)
  (opens : ∀ step ∈ steps, step.Opens request)

include valid blank opens

theorem Takes.openingMove (taken : (new key disk).Takes steps before step after) :
    OpeningMove request wallet before step after := by
  have opening : before.Opening request wallet := by
    refine taken.passes_before.invariant (new_opening blank) ?_
    rintro before step after ⟨early, late, split, -, stepped⟩ opening
    exact opening.of_move (opening.move valid (opens step (by simp [split])) stepped)
  obtain ⟨early, late, split, -, stepped⟩ := taken
  exact opening.move valid (opens step (by simp [split])) stepped

theorem Passes.accounted (passes : (new key disk).Passes steps passed) :
    passed.Accounted wallet :=
  passes.invariant (new_accounted blank) fun _ _ _ taken accounted =>
    accounted.of_move (taken.openingMove valid blank opens)

theorem Passes.calm (passes : (new key disk).Passes steps passed)
    (apart : ∀ passed, (new key disk).Passes steps passed → passed.missedCount ≤ 1) :
    passed.Calm :=
  passes.invariant (new_calm blank) fun before _ _ taken calm =>
    calm.of_move (apart before taken.passes_before) (taken.openingMove valid blank opens)

theorem Passes.served {database : Nat} (passes : (new key disk).Passes steps passed)
    (only : ∀ other asked, .arrive other asked ∈ steps → other = database) :
    passed.Served database := by
  refine passes.invariant (new_served database) fun before step after taken served => ?_
  refine served.of_move (taken.openingMove valid blank opens) fun other asked arrives => ?_
  obtain ⟨early, late, split, -⟩ := taken
  exact only other asked (by simp [split, arrives])

/-- Two users on the way between their two steps, and in the end somebody is refused. -/
theorem Passes.exists_refused (passes : (new key disk).Passes steps passed)
    (run : (new key disk).run? steps = some file) (settled : file.IsSettled)
    (two : 2 ≤ passed.missedCount) : ∃ id, file.stage? id = some .tooLate := by
  obtain ⟨early, late, rfl, reached⟩ := passes
  rw [run?_append, reached, Option.bind_some] at run
  have strained : file.Strained :=
    (Passes.of_run run).invariant (.inr (.inl two)) fun _ _ _ taken strained =>
      strained.of_move ((taken.behind reached).openingMove valid blank opens)
  exact strained.exists_refused settled

/-- Three steps at most for everybody who has arrived. -/
theorem length_le_of_opens (run : (new key disk).run? steps = some file) :
    steps.length ≤ 3 * file.users.length := by
  have bound : steps.length + file.stepsLeft ≤ 3 * file.users.length := by
    refine invariant_of_steps (fun early passed =>
      early.length + passed.stepsLeft ≤ 3 * passed.users.length) ?_ ?_ steps []
      (List.append_nil steps).symm run
    · exact Nat.le_refl 0
    · intro early late before step after split reached stepped within
      have move := Takes.openingMove valid blank opens ⟨early, late, split, reached, stepped⟩
      have left := move.stepsLeft
      rw [List.length_append, List.length_singleton]
      omega
  exact Nat.le_trans (Nat.le_add_right _ _) bound

/-- Where one user was refused and is done, it is because the wallet was there when it came to create
it; every other one has the wallet open. -/
theorem Passes.outcome (passes : (new key disk).Passes steps passed) {stage : FileStage}
    (at_id : passed.stage? id = some stage) (settled : stage.isSettled = true) :
    (passed.wallet? id = some wallet ∧ (.loaded id ∈ passed.journal ∨ .created id ∈ passed.journal)) ∨
      (stage = .tooLate ∧ .refused id ∈ passed.journal) := by
  have accounts := (passes.accounted valid blank opens).users id stage at_id
  cases stage with
  | arrived | missed => cases settled
  | opened held =>
    obtain ⟨rfl, noted⟩ := accounts
    exact .inl ⟨by rw [wallet?_eq, at_id]; rfl, noted⟩
  | notLoaded failure => exact .inr accounts
  | notCreated failure => exact .inr accounts
  | closed => exact .inr accounts

/-- When all are done, one user has created the wallet. Everybody else has it open as well, or found
no wallet and came too late to create it. -/
theorem exists_creator (run : (new key disk).run? steps = some file) (settled : file.IsSettled)
    (somebody : file.users ≠ []) :
    ∃ creator, file.creators = [creator] ∧ file.wallet? creator = some wallet ∧
      ∀ id < file.users.length, id ≠ creator →
        (file.wallet? id = some wallet ∧ .loaded id ∈ file.journal) ∨
          (file.stage? id = some .tooLate ∧ .refused id ∈ file.journal) := by
  have ended := Passes.of_run run
  rcases (ended.accounted valid blank opens).creation with
    ⟨-, -, unsettled⟩ | ⟨creator, -, only, opened⟩
  · have at_first := stage?_of_lt (List.length_pos_of_ne_nil somebody)
    have waits := unsettled 0 _ at_first
    rw [settled 0 _ at_first] at waits
    cases waits
  · refine ⟨creator, only, opened, fun id known other => ?_⟩
    have at_id := stage?_of_lt known
    rcases ended.outcome valid blank opens at_id (settled id _ at_id) with
      ⟨held, loaded | created⟩ | ⟨late, refused⟩
    · exact .inl ⟨held, loaded⟩
    · have own := mem_creators.mpr created
      rw [only] at own
      exact absurd (List.mem_singleton.mp own) other
    · exact .inr ⟨late ▸ at_id, refused⟩

/-- All have the wallet open in the end exactly if at no time two stood between their two steps. -/
theorem all_open_iff_apart (run : (new key disk).run? steps = some file)
    (settled : file.IsSettled) :
    (∀ id < file.users.length, file.wallet? id = some wallet) ↔
      ∀ passed, (new key disk).Passes steps passed → passed.missedCount ≤ 1 := by
  have ended := Passes.of_run run
  constructor
  · intro all passed passes
    by_contra two
    -- Two between their two steps are one too many, and one of them is refused in the end.
    obtain ⟨id, late⟩ := passes.exists_refused valid blank opens run settled (by omega)
    obtain ⟨user, found, -⟩ := Option.map_eq_some_iff.mp late
    have held := all id (List.getElem?_eq_some_iff.mp found).1
    rw [wallet?_eq, late] at held
    cases held
  · intro apart id known
    -- Whoever has no wallet open was refused, which does not happen to users who keep apart.
    have at_id := stage?_of_lt known
    rcases ended.outcome valid blank opens at_id (settled id _ at_id) with ⟨held, -⟩ | ⟨late, -⟩
    · exact held
    · exact absurd (late ▸ at_id) ((ended.calm valid blank opens apart).unrefused id)

end

/-- Users come to a file that holds nothing, all for the same wallet and through whatever database
objects, and look for it and create it in any order. Nobody waits for ever: whoever has no result can
go on or waits for somebody who can, and nobody takes more than three steps. When all have a result,
exactly one of them has created the wallet; every other one has loaded it, or has found no wallet
and then come too late to create it. All of them have the wallet open exactly if at no time two stood
between their two steps, and with one database object that is always so. -/
theorem one_creator_and_all_open_iff_apart (valid : request.IsFor wallet)
    (blank : disk.read key = none) (opens : ∀ step ∈ steps, step.Opens request)
    (run : (new key disk).run? steps = some file) :
    steps.length ≤ 3 * file.users.length ∧
    (file.IsSettled ∨
      ∃ id step, (step = .load id ∨ step = .create id) ∧ (file.step? step).isSome = true) ∧
    (file.IsSettled → file.users ≠ [] →
      ∃ creator, file.creators = [creator] ∧ file.wallet? creator = some wallet ∧
        ∀ id < file.users.length, id ≠ creator →
          (file.wallet? id = some wallet ∧ .loaded id ∈ file.journal) ∨
            (file.stage? id = some .tooLate ∧ .refused id ∈ file.journal)) ∧
    (file.IsSettled →
      ((∀ id < file.users.length, file.wallet? id = some wallet) ↔
        ∀ passed, (new key disk).Passes steps passed → passed.missedCount ≤ 1)) ∧
    ∀ database, (∀ other asked, .arrive other asked ∈ steps → other = database) →
      ∀ passed, (new key disk).Passes steps passed → passed.missedCount ≤ 1 := by
  refine ⟨length_le_of_opens valid blank opens run, ?_, exists_creator valid blank opens run,
    all_open_iff_apart valid blank opens run, ?_⟩
  · by_cases settled : file.IsSettled
    · exact .inl settled
    · exact .inr (exists_step_of_not_settled settled)
  · intro database only passed passes
    exact (passes.served valid blank opens only).single

/-- The wallet of one key is what its request is for. -/
theorem isFor_of_isSingleKey {external : Descriptor} (single : IsSingleKey external) :
    singleKeyRequest.IsFor (singleKeyWallet external 0) :=
  ⟨DescriptorWallet.new?_of_admitted? single.admitted rfl,
    DescriptorWallet.identity?_of_addressText single.first, fun _ none => nomatch none⟩

/-- Two users come through one database object, and the second waits until the first has created the
wallet. -/
def waitingInLine : List FileStep :=
  [.arrive 0 singleKeyRequest, .arrive 0 singleKeyRequest, .load 0, .create 0, .load 1]

theorem one_creator_and_all_open_iff_apart_waiting :
    ∃ file wallet, (new (.file "wallet") (.empty [""])).run? waitingInLine = some file ∧
      file.IsSettled ∧ file.users.length = 2 ∧ file.creators = [0] ∧
      ∀ id < 2, file.wallet? id = some wallet := by
  obtain ⟨external, single⟩ := exists_isSingleKey
  have arrived : (new (.file "wallet") (.empty [""])).step? (.arrive 0 singleKeyRequest) =
      some (singleKeyFile none [.arrived] []) := rfl
  have arrivedToo : (singleKeyFile none [.arrived] []).step? (.arrive 0 singleKeyRequest) =
      some (singleKeyFile none [.arrived, .arrived] []) := rfl
  have missed : (singleKeyFile none [.arrived, .arrived] []).step? (.load 0) =
      some (singleKeyFile none [.missed, .arrived] []) := step?_load_blank rfl rfl rfl
  have created : (singleKeyFile none [.missed, .arrived] []).step? (.create 0) =
      some (singleKeyHeld external 0 [singleKeyOpened external 0, .arrived] [.created 0]) :=
    singleKeyFile_create single rfl
  have loaded : (singleKeyHeld external 0 [singleKeyOpened external 0, .arrived]
      [.created 0]).step? (.load 1) =
        some (singleKeyHeld external 0 [singleKeyOpened external 0, singleKeyOpened external 0]
          [.loaded 1, .created 0]) :=
    singleKeyHeld_load single rfl rfl
  have run : (new (.file "wallet") (.empty [""])).run? waitingInLine =
      some (singleKeyHeld external 0 [singleKeyOpened external 0, singleKeyOpened external 0]
        [.loaded 1, .created 0]) := by
    rw [waitingInLine, run?_cons arrived, run?_cons arrivedToo, run?_cons missed,
      run?_cons created, run?_cons loaded, run?]
  have opens : ∀ step ∈ waitingInLine, step.Opens singleKeyRequest := by
    simp [waitingInLine, FileStep.Opens]
  have only : ∀ other asked, .arrive other asked ∈ waitingInLine → other = 0 := by
    intro other asked among
    simp only [waitingInLine, List.mem_cons, FileStep.arrive.injEq, reduceCtorEq, List.not_mem_nil,
      or_false] at among
    rcases among with ⟨rfl, -⟩ | ⟨rfl, -⟩ <;> rfl
  have blank : (Disk.empty [""]).read (.file "wallet") = none := rfl
  obtain ⟨-, -, -, allOpen, served⟩ := one_creator_and_all_open_iff_apart
    (isFor_of_isSingleKey single) blank opens run
  have settled : IsSettled (singleKeyHeld external 0
      [singleKeyOpened external 0, singleKeyOpened external 0] [.loaded 1, .created 0]) :=
    isSettled_iff.mpr
      (by simp [singleKeyHeld, singleKeyFile, singleKeyOpened, FileStage.isSettled])
  exact ⟨_, _, run, settled, rfl, rfl, (allOpen settled).mpr (served 0 only)⟩

/-- Two users come through two database objects, and both look for the wallet before either creates
it. -/
def crossingPaths : List FileStep :=
  [.arrive 0 singleKeyRequest, .arrive 1 singleKeyRequest, .load 0, .load 1, .create 0, .create 1]

/-- A file with two users who came through two database objects. -/
def twoDoors (held : Option StoredWallet) (first second : FileStage) (journal : List FileEvent) :
    SharedFile :=
  { singleKeyFile held [] journal with
    users := [⟨0, singleKeyRequest, first⟩, ⟨1, singleKeyRequest, second⟩] }

/-- The second is refused, though what it asks for is the wallet that is stored by then. -/
theorem crossing_paths_refuse_one :
    ∃ wallet file, singleKeyRequest.IsFor wallet ∧
      (∀ step ∈ crossingPaths, step.Opens singleKeyRequest) ∧
      (new (.file "wallet") (.empty [""])).run? crossingPaths = some file ∧ file.IsSettled ∧
      file.stored? = some wallet.toStored ∧ file.stage? 1 = some .tooLate ∧
      file.wallet? 1 = none := by
  obtain ⟨external, single⟩ := exists_isSingleKey
  have valid := isFor_of_isSingleKey single
  have arrived : (new (.file "wallet") (.empty [""])).step? (.arrive 0 singleKeyRequest) =
      some (singleKeyFile none [.arrived] []) := rfl
  have arrivedToo : (singleKeyFile none [.arrived] []).step? (.arrive 1 singleKeyRequest) =
      some (twoDoors none .arrived .arrived []) := rfl
  have missed : (twoDoors none .arrived .arrived []).step? (.load 0) =
      some (twoDoors none .missed .arrived []) := step?_load_blank rfl rfl rfl
  have missedToo : (twoDoors none .missed .arrived []).step? (.load 1) =
      some (twoDoors none .missed .missed []) := step?_load_blank rfl rfl rfl
  have created : (twoDoors none .missed .missed []).step? (.create 0) =
      some (twoDoors (some (singleKeyStored external 0)) (singleKeyOpened external 0) .missed
        [.created 0]) := step?_create rfl rfl valid.made
  have refused : (twoDoors (some (singleKeyStored external 0)) (singleKeyOpened external 0) .missed
      [.created 0]).step? (.create 1) =
        some (twoDoors (some (singleKeyStored external 0)) (singleKeyOpened external 0) .tooLate
          [.refused 1, .created 0]) := rfl
  have run : (new (.file "wallet") (.empty [""])).run? crossingPaths =
      some (twoDoors (some (singleKeyStored external 0)) (singleKeyOpened external 0) .tooLate
        [.refused 1, .created 0]) := by
    rw [crossingPaths, run?_cons arrived, run?_cons arrivedToo, run?_cons missed,
      run?_cons missedToo, run?_cons created, run?_cons refused, run?]
  have settled : IsSettled (twoDoors (some (singleKeyStored external 0))
      (singleKeyOpened external 0) .tooLate [.refused 1, .created 0]) :=
    isSettled_iff.mpr
      (by simp [twoDoors, singleKeyOpened, FileStage.tooLate, FileStage.isSettled])
  exact ⟨_, _, valid, by simp [crossingPaths, FileStep.Opens], run, settled, rfl, rfl, rfl⟩

end SharedFile

end WalletBridge
