/-
This file proves that many threads can share a handle. While the slot holds the object, a native
call on it is in progress only in the hands of whoever has the lock. The release that empties the
slot has the lock until the free function has returned, so no call is in progress meanwhile, and
everybody who gets the lock afterwards finds the slot empty.
-/

import Mathlib.Data.List.Basic
import WalletBridge.Proofs.SharedTurn

namespace WalletBridge

/-- Whether an event is about the free function. -/
def ObjectEvent.isFree : ObjectEvent → Bool
  | .freeBegan .. => true
  | .freeEnded .. => true
  | _ => false

/-- Whether the free function is called. -/
def ObjectEvent.isFreeBegan : ObjectEvent → Bool
  | .freeBegan .. => true
  | _ => false

namespace SharedHandle

variable {kind : ResourceKind}

/-! ### The lock -/

/-- The holder of the lock is the one use that stands where a use has it. -/
def Exclusive (shared : SharedHandle kind) : Prop :=
  ∀ id, shared.holder = some id ↔ shared.users[id]?.any (·.stage.hasLock) = true

/-- A use takes the lock when nobody has it, or gives it back, or leaves it where it is. -/
theorem Change.lock {id : UseId} {former : Option HandleUser} {slot slotThen : Option Address}
    {holder holderThen : Option UseId} {next : HandleUser} {events : List ObjectEvent}
    (change : Change kind id former slot holder next slotThen holderThen events) :
    (holder = none ∧ holderThen = some id ∧ next.stage.hasLock = true) ∨
      (former.any (·.stage.hasLock) = true ∧ holderThen = none ∧ next.stage.hasLock = false) ∨
      (holderThen = holder ∧ next.stage.hasLock = former.any (·.stage.hasLock)) := by
  cases change with
  | acquire use slot => exact .inl ⟨rfl, rfl, rfl⟩
  | left use result slot holder => exact .inr (.inl ⟨rfl, rfl, rfl⟩)
  | _ => exact .inr (.inr ⟨rfl, rfl⟩)

theorem Exclusive.turn {before after : SharedHandle kind} {id : UseId} {next : HandleUser}
    {events : List ObjectEvent} (exclusive : Exclusive before)
    (turn : Turn before after id next events) : Exclusive after := by
  intro other
  have held := exclusive other
  by_cases same : other = id
  · subst same
    rw [turn.now]
    rcases turn.change.lock with ⟨_, taken, has⟩ | ⟨_, given, lacks⟩ | ⟨kept, unchanged⟩
    · simp [taken, has]
    · simp [given, lacks]
    · rw [kept, held, Option.any_some, unchanged]
  · rw [turn.others other same]
    rcases turn.change.lock with ⟨free, taken, _⟩ | ⟨had, given, _⟩ | ⟨kept, _⟩
    · rw [← held, free, taken]
      simpa using fun equal => same equal.symm
    · rw [← held, given, (exclusive id).mpr had]
      simpa using fun equal => same equal.symm
    · rw [kept, held]

/-- When one use stands where it has the lock, every other one stands where it lacks it. -/
theorem Exclusive.lacks {shared : SharedHandle kind} (exclusive : Exclusive shared)
    {id other : UseId} {user : HandleUser}
    (has : shared.users[id]?.any (·.stage.hasLock) = true) (apart : other ≠ id)
    (present : shared.users[other]? = some user) : user.stage.hasLock = false := by
  have notOther : ¬shared.users[other]?.any (·.stage.hasLock) = true := by
    rw [← exclusive other, (exclusive id).mpr has]
    exact fun same => apart (Option.some.inj same).symm
  rw [present] at notOther
  exact Bool.eq_false_iff.mpr notOther

/-! ### Where uses stand -/

/-- Where a use stands while the object is there. -/
inductive Early (address : Address) : HandleUser → Prop where
  | waiting (use : HandleUse) : Early address ⟨use, .waiting⟩
  | holding (use : HandleUse) : Early address ⟨use, .holding⟩
  | calling : Early address ⟨.call, .calling address⟩
  | serving : Early address ⟨.call, .leaving .served⟩
  | served : Early address ⟨.call, .over .served⟩
  | looking (isLive : Bool) : Early address ⟨.look, .leaving (.looked isLive)⟩
  | looked (isLive : Bool) : Early address ⟨.look, .over (.looked isLive)⟩

/-- Where the use stands that releases the object, and what was written since it began to. -/
inductive Winning (id : UseId) (address : Address) : HandleUser → List ObjectEvent → Prop where
  | freeing (use : HandleUse) (releases : use.releases = true) :
    Winning id address ⟨use, .freeing address⟩ []
  | freed (use : HandleUse) (releases : use.releases = true) :
    Winning id address ⟨use, .freed⟩ [.freeEnded id address]
  | leaving (use : HandleUse) (releases : use.releases = true) :
    Winning id address ⟨use, .leaving (.released true)⟩ [.freeEnded id address]
  | told (use : HandleUse) (releases : use.releases = true) :
    Winning id address ⟨use, .over (.released true)⟩ [.freeEnded id address]

/-- Where any other use stands from then on. It is too late for a release only once the one that
releases the object is over. -/
inductive Late (kind : ResourceKind) (settled : Prop) : HandleUser → Prop where
  | waiting (use : HandleUse) : Late kind settled ⟨use, .waiting⟩
  | holding (use : HandleUse) : Late kind settled ⟨use, .holding⟩
  | served : Late kind settled ⟨.call, .over .served⟩
  | refusing : Late kind settled ⟨.call, .leaving (.refused (.useAfterFree kind))⟩
  | refused : Late kind settled ⟨.call, .over (.refused (.useAfterFree kind))⟩
  | looking (isLive : Bool) : Late kind settled ⟨.look, .leaving (.looked isLive)⟩
  | looked (isLive : Bool) : Late kind settled ⟨.look, .over (.looked isLive)⟩
  | missing (use : HandleUse) (releases : use.releases = true) (since : settled) :
    Late kind settled ⟨use, .leaving (.released false)⟩
  | missed (use : HandleUse) (releases : use.releases = true) (since : settled) :
    Late kind settled ⟨use, .over (.released false)⟩

theorem Late.mono {first second : Prop} {user : HandleUser} (late : Late kind first user)
    (implies : first → second) : Late kind second user := by
  cases late with
  | missing use releases since => exact .missing use releases (implies since)
  | missed use releases since => exact .missed use releases (implies since)
  | _ => constructor

/-- Whoever does not have the lock when the slot is emptied is from then on too late. -/
theorem Early.late {address : Address} {settled : Prop} {user : HandleUser}
    (early : Early address user) (lacks : user.stage.hasLock = false) : Late kind settled user := by
  cases early with
  | waiting use => exact .waiting use
  | served => exact .served
  | looked isLive => exact .looked isLive
  | holding use => cases lacks
  | calling => cases lacks
  | serving => cases lacks
  | looking isLive => cases lacks

section

variable {id : UseId} {former : Option HandleUser} {slot slotThen : Option Address}
  {holder holderThen : Option UseId} {next : HandleUser} {events : List ObjectEvent}
  {address : Address}

/-- While the object is there, a step leaves it there, or a release empties the slot. -/
theorem Change.early
    (change : Change kind id former slot holder next slotThen holderThen events)
    (there : slot = some address) (early : ∀ user, former = some user → Early address user) :
    (slotThen = some address ∧ Early address next ∧ ∀ event ∈ events, event.isFree = false) ∨
      (slotThen = none ∧ former.any (·.stage.hasLock) = true ∧ Winning id address next [] ∧
        events = [.freeBegan id address]) := by
  cases change with
  | begin use slot holder => exact .inl ⟨there, .waiting use, by simp⟩
  | acquire use slot => exact .inl ⟨there, .holding use, by simp⟩
  | callBegan place holder =>
    cases there
    exact .inl ⟨rfl, .calling, by simp [ObjectEvent.isFree]⟩
  | callRefused holder => cases there
  | looked slot holder => exact .inl ⟨there, .looking _, by simp⟩
  | freeBegan use releases place holder =>
    cases there
    exact .inr ⟨rfl, rfl, .freeing use releases, rfl⟩
  | nothingFreed use releases holder => cases there
  | callEnded use place slot holder =>
    cases early _ rfl
    exact .inl ⟨there, .serving, by simp [ObjectEvent.isFree]⟩
  | freeEnded use place slot holder => cases early _ rfl
  | counted use slot holder => cases early _ rfl
  | left use result slot holder =>
    cases early _ rfl with
    | serving => exact .inl ⟨there, .served, by simp⟩
    | looking isLive => exact .inl ⟨there, .looked isLive, by simp⟩

/-- The use that releases the object goes on to the end of its release. -/
theorem Change.winning {user : HandleUser} {later : List ObjectEvent}
    (change : Change kind id former slot holder next slotThen holderThen events)
    (gone : slot = none) (present : former = some user) (winning : Winning id address user later) :
    slotThen = none ∧ Winning id address next (events ++ later) ∧ user.stage.isOver = false := by
  cases winning with
  | freeing use releases =>
    cases present
    cases change
    exact ⟨gone, .freed use releases, rfl⟩
  | freed use releases =>
    cases present
    cases change
    exact ⟨gone, .leaving use releases, rfl⟩
  | leaving use releases =>
    cases present
    cases change
    exact ⟨gone, .told use releases, rfl⟩
  | told use releases =>
    cases present
    cases change

/-- Any other use finds the slot empty. -/
theorem Change.late {settled : Prop}
    (change : Change kind id former slot holder next slotThen holderThen events)
    (gone : slot = none) (late : ∀ user, former = some user → Late kind settled user)
    (settles : former.any (·.stage.hasLock) = true → settled) :
    slotThen = none ∧ Late kind settled next ∧ events = [] := by
  cases change with
  | begin use slot holder => exact ⟨gone, .waiting use, rfl⟩
  | acquire use slot => exact ⟨gone, .holding use, rfl⟩
  | callBegan place holder => cases gone
  | callRefused holder => exact ⟨gone, .refusing, rfl⟩
  | looked slot holder => exact ⟨gone, .looking _, rfl⟩
  | freeBegan use releases place holder => cases gone
  | nothingFreed use releases holder => exact ⟨gone, .missing use releases (settles rfl), rfl⟩
  | callEnded use place slot holder => cases late _ rfl
  | freeEnded use place slot holder => cases late _ rfl
  | counted use slot holder => cases late _ rfl
  | left use result slot holder =>
    cases late _ rfl with
    | refusing => exact ⟨gone, .refused, rfl⟩
    | looking isLive => exact ⟨gone, .looked isLive, rfl⟩
    | missing use releases since => exact ⟨gone, .missed use releases since, rfl⟩

/-- A native call begins only in the use that is in it from then on. -/
theorem Change.of_callBegan {caller : UseId} {target : Address}
    (change : Change kind id former slot holder next slotThen holderThen events)
    (began : .callBegan caller target ∈ events) :
    caller = id ∧ next = ⟨.call, .calling target⟩ := by
  cases change with
  | callBegan place holder =>
    cases List.mem_singleton.mp began
    exact ⟨rfl, rfl⟩
  | freeBegan use releases place holder => cases List.mem_singleton.mp began
  | callEnded use place slot holder => cases List.mem_singleton.mp began
  | freeEnded use place slot holder => cases List.mem_singleton.mp began
  | _ => cases began

/-- A use that is in a native call does nothing before the call has ended. -/
theorem Change.of_calling {use : HandleUse} {target : Address}
    (change : Change kind id former slot holder next slotThen holderThen events)
    (calling : former = some ⟨use, .calling target⟩) : .callEnded id target ∈ events := by
  cases calling
  cases change
  exact List.mem_singleton_self _

end

/-! ### Before and after the release -/

/-- Every native call in a journal has returned. -/
def AllReturned (journal : List ObjectEvent) : Prop :=
  ∀ caller target, .callBegan caller target ∈ journal → .callEnded caller target ∈ journal

/-- The object is there, and nobody has called its free function. -/
structure Intact (address : Address) (shared : SharedHandle kind) : Prop where
  slot : shared.handle.slot = some address
  users : ∀ (id : UseId) (user : HandleUser), shared.users[id]? = some user → Early address user
  unfreed : ∀ event ∈ shared.journal, event.isFree = false
  /-- A native call has returned or is in progress. -/
  calls : ∀ (caller : UseId) (target : Address), .callBegan caller target ∈ shared.journal →
    .callEnded caller target ∈ shared.journal ∨
      shared.users[caller]? = some ⟨.call, .calling target⟩

/-- Whether a use is over. -/
def IsSettled (id : UseId) (shared : SharedHandle kind) : Prop :=
  shared.users[id]?.any (·.stage.isOver) = true

/-- A use released the object or is about to. -/
structure Released (address : Address) (winner : UseId) (shared : SharedHandle kind) : Prop where
  slot : shared.handle.slot = none
  account : ∃ user later earlier, shared.users[winner]? = some user ∧
    Winning winner address user later ∧
    shared.journal = later ++ .freeBegan winner address :: earlier ∧
    (∀ event ∈ earlier, event.isFree = false) ∧ AllReturned earlier
  late : ∀ other : UseId, other ≠ winner → ∀ user, shared.users[other]? = some user →
    Late kind (IsSettled winner shared) user

/-- A step leaves the object there, or it is the one that empties the slot. -/
theorem Intact.turn {address : Address} {before after : SharedHandle kind} {id : UseId}
    {next : HandleUser} {events : List ObjectEvent} (intact : Intact address before)
    (exclusive : Exclusive before) (turn : Turn before after id next events) :
    Intact address after ∨ Released address id after := by
  rcases turn.change.early intact.slot (intact.users id) with
    ⟨slot, early, unfreed⟩ | ⟨slot, has, winning, began⟩
  · refine .inl ⟨slot, fun other user present => ?_, fun event member => ?_,
      fun caller target called => ?_⟩
    · by_cases same : other = id
      · subst same
        rw [turn.now] at present
        exact Option.some.inj present ▸ early
      · exact intact.users other user (turn.others other same ▸ present)
    · rw [turn.journal] at member
      rcases List.mem_append.mp member with new | old
      · exact unfreed event new
      · exact intact.unfreed event old
    · rw [turn.journal] at called ⊢
      rcases List.mem_append.mp called with new | old
      · obtain ⟨rfl, calling⟩ := turn.change.of_callBegan new
        exact .inr (calling ▸ turn.now)
      · rcases intact.calls caller target old with ended | calling
        · exact .inl (List.mem_append_right events ended)
        · by_cases same : caller = id
          · subst same
            exact .inl (List.mem_append_left _ (turn.change.of_calling calling))
          · exact .inr ((turn.others caller same).trans calling)
  · refine .inr ⟨slot, ⟨next, [], before.journal, turn.now, winning, ?_, intact.unfreed, ?_⟩, ?_⟩
    · rw [turn.journal, began]
      rfl
    · intro caller target called
      rcases intact.calls caller target called with ended | calling
      · exact ended
      · by_cases same : caller = id
        · subst same
          have ended := turn.change.of_calling calling
          rw [began] at ended
          cases List.mem_singleton.mp ended
        · cases exclusive.lacks has same calling
    · intro other apart user present
      rw [turn.others other apart] at present
      exact (intact.users other user present).late (exclusive.lacks has apart present)

theorem Winning.over_of_lacks {id : UseId} {address : Address} {user : HandleUser}
    {later : List ObjectEvent} (winning : Winning id address user later)
    (lacks : user.stage.hasLock = false) : user.stage.isOver = true := by
  cases winning with
  | told use releases => rfl
  | freeing use releases => cases lacks
  | freed use releases => cases lacks
  | leaving use releases => cases lacks

/-- A step after the release began leaves it the only one. -/
theorem Released.turn {address : Address} {winner : UseId} {before after : SharedHandle kind}
    {id : UseId} {next : HandleUser} {events : List ObjectEvent}
    (released : Released address winner before) (exclusive : Exclusive before)
    (turn : Turn before after id next events) : Released address winner after := by
  obtain ⟨user, later, earlier, present, winning, journal, unfreed, returned⟩ := released.account
  by_cases same : id = winner
  · subst same
    obtain ⟨slot, onward, unsettled⟩ := turn.change.winning released.slot present winning
    refine ⟨slot, ⟨next, events ++ later, earlier, turn.now, onward, ?_, unfreed, returned⟩, ?_⟩
    · rw [turn.journal, journal, List.append_assoc]
    · intro other apart known found
      rw [turn.others other apart] at found
      refine (released.late other apart known found).mono fun settled => ?_
      rw [IsSettled, present, Option.any_some, unsettled] at settled
      cases settled
  · -- Only the one that released has the lock until it is over.
    have kept := turn.others winner (Ne.symm same)
    have settles (has : before.users[id]?.any (·.stage.hasLock) = true) :
        IsSettled winner before := by
      rw [IsSettled, present]
      exact winning.over_of_lacks (exclusive.lacks has (Ne.symm same) present)
    obtain ⟨slot, late, quiet⟩ :=
      turn.change.late released.slot (released.late id same) settles
    have stays : IsSettled winner before → IsSettled winner after := by
      unfold IsSettled
      rw [kept]
      exact fun settled => settled
    refine ⟨slot, ⟨user, later, earlier, kept.trans present, winning, ?_, unfreed, returned⟩, ?_⟩
    · rw [turn.journal, quiet]
      exact journal
    · intro other apart known found
      by_cases own : other = id
      · subst own
        rw [turn.now] at found
        exact Option.some.inj found ▸ late.mono stays
      · rw [turn.others other own] at found
        exact (released.late other apart known found).mono stays

/-- In every state the lock is with one use at most, and the object is there or is released by one
use. -/
theorem Reachable.intact_or_released {library : NativeLibrary} {address : Address}
    {lifecycle : Lifecycle} {shared : SharedHandle kind}
    (reached : Reachable ⟨library, some address⟩ lifecycle shared) :
    Exclusive shared ∧ (Intact address shared ∨ ∃ winner, Released address winner shared) := by
  induction reached with
  | new =>
    refine ⟨fun id => ⟨nofun, nofun⟩, .inl ⟨rfl, fun id user present => ?_, nofun, nofun⟩⟩
    cases present
  | step reached taken inductionHypothesis =>
    obtain ⟨exclusive, phase⟩ := inductionHypothesis
    obtain ⟨id, next, events, turn⟩ := step?_turn taken
    refine ⟨exclusive.turn turn, ?_⟩
    rcases phase with intact | ⟨winner, released⟩
    · exact (intact.turn exclusive turn).imp_right fun released => ⟨id, released⟩
    · exact .inr ⟨winner, released.turn exclusive turn⟩

/-! ### Calls that come too late -/

/-- Where a use stands that gets the lock only when the slot is empty. -/
inductive Refusing (kind : ResourceKind) : HandleUser → Prop where
  | waiting (use : HandleUse) : Refusing kind ⟨use, .waiting⟩
  | holding (use : HandleUse) : Refusing kind ⟨use, .holding⟩
  | refusing : Refusing kind ⟨.call, .leaving (.refused (.useAfterFree kind))⟩
  | refused : Refusing kind ⟨.call, .over (.refused (.useAfterFree kind))⟩
  | other (use : HandleUse) (noCall : use ≠ .call) (stage : UseStage) : Refusing kind ⟨use, stage⟩

/-- The slot is empty, and a certain use did not get the lock before. -/
structure Barred (id : UseId) (shared : SharedHandle kind) : Prop where
  slot : shared.handle.slot = none
  user : ∀ user, shared.users[id]? = some user → Refusing kind user

/-- No step fills the slot. -/
theorem Change.slot_none {id : UseId} {former : Option HandleUser} {slot slotThen : Option Address}
    {holder holderThen : Option UseId} {next : HandleUser} {events : List ObjectEvent}
    (change : Change kind id former slot holder next slotThen holderThen events)
    (gone : slot = none) : slotThen = none := by
  cases change with
  | freeBegan use releases place holder => rfl
  | _ => exact gone

/-- A use that does not get the lock before the slot is empty is refused. -/
theorem Change.refusing {id : UseId} {former : Option HandleUser} {slot slotThen : Option Address}
    {holder holderThen : Option UseId} {next : HandleUser} {events : List ObjectEvent}
    (change : Change kind id former slot holder next slotThen holderThen events)
    (gone : slot = none) (refusing : ∀ user, former = some user → Refusing kind user) :
    Refusing kind next := by
  cases change with
  | begin use slot holder => exact .waiting use
  | acquire use slot => exact .holding use
  | callBegan place holder => cases gone
  | callRefused holder => exact .refusing
  | looked slot holder => exact .other .look nofun _
  | freeBegan use releases place holder => cases gone
  | nothingFreed use releases holder => exact .other use (by rintro rfl; cases releases) _
  | callEnded use place slot holder =>
    cases refusing _ rfl with
    | other use noCall => exact .other _ noCall _
  | freeEnded use place slot holder =>
    cases refusing _ rfl with
    | other use noCall => exact .other _ noCall _
  | counted use slot holder =>
    cases refusing _ rfl with
    | other use noCall => exact .other _ noCall _
  | left use result slot holder =>
    cases refusing _ rfl with
    | refusing => exact .refused
    | other use noCall => exact .other _ noCall _

theorem Barred.turn {watched id : UseId} {before after : SharedHandle kind} {next : HandleUser}
    {events : List ObjectEvent} (barred : Barred watched before)
    (turn : Turn before after id next events) : Barred watched after := by
  refine ⟨turn.change.slot_none barred.slot, fun user present => ?_⟩
  by_cases same : watched = id
  · subst same
    rw [turn.now] at present
    exact Option.some.inj present ▸ turn.change.refusing barred.slot barred.user
  · exact barred.user user (turn.others watched same ▸ present)

/-- Whoever is barred once stays so, whatever is done with the handle. -/
theorem Barred.run {watched : UseId} {steps : List HandleStep} {shared after : SharedHandle kind}
    (barred : Barred watched shared) (ran : shared.run? steps = some after) :
    Barred watched after := by
  induction steps generalizing shared with
  | nil => exact Option.some.inj ran ▸ barred
  | cons step rest inductionHypothesis =>
    obtain ⟨between, taken, ranRest⟩ := Option.bind_eq_some_iff.mp ran
    obtain ⟨id, next, events, turn⟩ := step?_turn taken
    exact inductionHypothesis (barred.turn turn) ranRest

/-! ### What a handle promises -/

/-- What a handle promises to all that share it. -/
structure ReleasesOnce (address : Address) (shared : SharedHandle kind) : Prop where
  /-- The free function is called once at most. -/
  once : shared.journal.countP ObjectEvent.isFreeBegan ≤ 1
  /-- It is called for the object of the handle, when all native calls have returned, and nothing
  but its own return comes afterwards. -/
  alone : ∀ later earlier id place, shared.journal = later ++ .freeBegan id place :: earlier →
    place = address ∧ AllReturned earlier ∧ ∀ event ∈ later, event = .freeEnded id address
  /-- While it is in progress no native call is. -/
  apart : ∀ (freer caller : UseId) (use other : HandleUse) (place target : Address),
    shared.users[freer]? = some ⟨use, .freeing place⟩ →
      shared.users[caller]? ≠ some ⟨other, .calling target⟩
  /-- When a release is over, one release has told that it released the object, and every other
  that is over has told that it did not. -/
  winner : ∀ (id : UseId) (use : HandleUse) (result : UseResult), use.releases = true →
    shared.users[id]? = some ⟨use, .over result⟩ →
      ∃ (winner : UseId) (own : HandleUse), own.releases = true ∧
        shared.users[winner]? = some ⟨own, .over (.released true)⟩ ∧
        ∀ (other : UseId) (use : HandleUse) (result : UseResult), use.releases = true →
          shared.users[other]? = some ⟨use, .over result⟩ →
            result = .released (decide (other = winner))
  /-- Once the free function is called, a native call whose use waits for the lock or has not begun
  is refused. -/
  refused : ∀ (freer : UseId) (place : Address), .freeBegan freer place ∈ shared.journal →
    ∀ (steps : List HandleStep) (after : SharedHandle kind), shared.run? steps = some after →
      ∀ (id : UseId) (result : UseResult),
        (∀ user, shared.users[id]? = some user → user.stage = .waiting) →
        after.users[id]? = some ⟨.call, .over result⟩ → result = .refused (.useAfterFree kind)

/-- A journal without the beginning of a free function has none to count. -/
theorem countP_isFreeBegan {events : List ObjectEvent}
    (absent : ∀ id place, .freeBegan id place ∉ events) :
    events.countP ObjectEvent.isFreeBegan = 0 := by
  rw [List.countP_eq_zero]
  intro event member began
  cases event with
  | freeBegan id place => exact absent id place member
  | _ => cases began

theorem Intact.releasesOnce {address : Address} {shared : SharedHandle kind}
    (intact : Intact address shared) : ReleasesOnce address shared := by
  have absent (id : UseId) (place : Address) : .freeBegan id place ∉ shared.journal :=
    fun member => Bool.noConfusion (intact.unfreed _ member)
  refine ⟨?_, fun later earlier id place journal => ?_,
    fun freer caller use other place target freeing => ?_,
    fun id use result releases ended => ?_, fun freer place member => absurd member (absent _ _)⟩
  · rw [countP_isFreeBegan absent]
    exact Nat.zero_le 1
  · refine absurd ?_ (absent id place)
    rw [journal]
    exact List.mem_append_right later List.mem_cons_self
  · cases intact.users freer _ freeing
  · cases intact.users id _ ended <;> cases releases

theorem Winning.later_eq {id : UseId} {address : Address} {user : HandleUser}
    {later : List ObjectEvent} (winning : Winning id address user later) :
    ∀ event ∈ later, event = .freeEnded id address := by
  cases winning with
  | freeing use releases => exact nofun
  | freed use releases => exact fun event member => List.mem_singleton.mp member
  | leaving use releases => exact fun event member => List.mem_singleton.mp member
  | told use releases => exact fun event member => List.mem_singleton.mp member

theorem Winning.told_of_over {id : UseId} {address : Address} {user : HandleUser}
    {later : List ObjectEvent} (winning : Winning id address user later)
    (isOver : user.stage.isOver = true) :
    ∃ use : HandleUse, use.releases = true ∧ user = ⟨use, .over (.released true)⟩ := by
  cases winning with
  | told use releases => exact ⟨use, releases, rfl⟩
  | freeing use releases => cases isOver
  | freed use releases => cases isOver
  | leaving use releases => cases isOver

theorem Late.released_false {settled : Prop} {use : HandleUse} {result : UseResult}
    (late : Late kind settled ⟨use, .over result⟩) (releases : use.releases = true) :
    settled ∧ result = .released false := by
  cases late with
  | missed use releases since => exact ⟨since, rfl⟩
  | served => cases releases
  | refused => cases releases
  | looked isLive => cases releases

section

variable {address : Address} {winner : UseId} {shared : SharedHandle kind}

/-- A release that is over tells whether it was the one that released the object. -/
theorem Released.result_eq (released : Released address winner shared) {id : UseId}
    {use : HandleUse} {result : UseResult} (releases : use.releases = true)
    (ended : shared.users[id]? = some ⟨use, .over result⟩) :
    IsSettled winner shared ∧ result = .released (decide (id = winner)) := by
  obtain ⟨user, later, earlier, present, winning, _⟩ := released.account
  by_cases same : id = winner
  · subst same
    have isSettled : IsSettled id shared := by
      rw [IsSettled, ended]
      rfl
    rw [ended] at present
    cases present
    cases winning with
    | told use releases => exact ⟨isSettled, by rw [decide_eq_true rfl]⟩
  · rw [decide_eq_false same]
    exact (released.late id same _ ended).released_false releases

/-- The one that released the object tells so when it is over. -/
theorem Released.winner_told (released : Released address winner shared)
    (settled : IsSettled winner shared) :
    ∃ own : HandleUse, own.releases = true ∧
      shared.users[winner]? = some ⟨own, .over (.released true)⟩ := by
  obtain ⟨user, later, earlier, present, winning, _⟩ := released.account
  rw [IsSettled, present] at settled
  obtain ⟨own, releases, rfl⟩ := winning.told_of_over settled
  exact ⟨own, releases, present⟩

/-- Whoever waits for the lock after the object was released is barred. -/
theorem Released.barred (released : Released address winner shared) {id : UseId}
    (waiting : ∀ user, shared.users[id]? = some user → user.stage = .waiting) :
    Barred id shared := by
  refine ⟨released.slot, fun user found => ?_⟩
  obtain ⟨use, stage⟩ := user
  cases waiting _ found
  exact .waiting use

theorem Released.releasesOnce (released : Released address winner shared) :
    ReleasesOnce address shared := by
  obtain ⟨user, later, earlier, present, winning, journal, unfreed, returned⟩ := released.account
  have notEarlier (id : UseId) (place : Address) : .freeBegan id place ∉ earlier :=
    fun member => Bool.noConfusion (unfreed _ member)
  have notLater (id : UseId) (place : Address) : .freeBegan id place ∉ later :=
    fun member => ObjectEvent.noConfusion (winning.later_eq _ member)
  refine ⟨?_, fun other former id place split => ?_,
    fun freer caller use other place target freeing calling => ?_,
    fun id use result releases ended => ?_,
    fun freer place member steps after ran id result waiting ended => ?_⟩
  · rw [journal, List.countP_append, List.countP_cons, countP_isFreeBegan notLater,
      countP_isFreeBegan notEarlier]
    exact Nat.le_refl 1
  · rw [journal] at split
    obtain ⟨rfl, same, rfl⟩ :=
      (List.append_cons_inj_of_notMem (notLater id place) (notEarlier id place)).mp split
    cases same
    exact ⟨rfl, returned, winning.later_eq⟩
  · by_cases same : caller = winner
    · subst same
      rw [calling] at present
      cases present
      cases winning
    · cases released.late caller same _ calling
  · obtain ⟨settled, _⟩ := released.result_eq releases ended
    obtain ⟨own, ownReleases, told⟩ := released.winner_told settled
    exact ⟨winner, own, ownReleases, told,
      fun other use result releases ended => (released.result_eq releases ended).2⟩
  · cases ((released.barred waiting).run ran).user _ ended with
    | refused => rfl
    | other use noCall => exact absurd rfl noCall

end

/-- Whatever many threads do with a handle and in which order they take their turns, the free
function of its object is called once at most, while no native call is in progress; exactly one
release tells that it was the one, and no native call begins afterwards. -/
theorem reachable_releasesOnce {library : NativeLibrary} {address : Address}
    {lifecycle : Lifecycle} {shared : SharedHandle kind}
    (reached : Reachable ⟨library, some address⟩ lifecycle shared) :
    ReleasesOnce address shared := by
  rcases reached.intact_or_released.2 with intact | ⟨winner, released⟩
  · exact intact.releasesOnce
  · exact released.releasesOnce

/-- What a run leads to is reachable. -/
theorem Reachable.run {handle : Handle kind} {lifecycle : Lifecycle}
    {shared after : SharedHandle kind} {steps : List HandleStep}
    (reached : Reachable handle lifecycle shared) (ran : shared.run? steps = some after) :
    Reachable handle lifecycle after := by
  induction steps generalizing shared with
  | nil => exact Option.some.inj ran ▸ reached
  | cons step rest inductionHypothesis =>
    obtain ⟨between, taken, ranRest⟩ := Option.bind_eq_some_iff.mp ran
    exact inductionHypothesis (reached.step taken) ranRest

/-- Two releases that wait for a call, and a call that comes too late. -/
def competingSteps : List HandleStep :=
  [.begin .call, .begin .release, .begin .release, .acquire 0, .inspect 0, .begin .call,
   .finish 0, .leave 0, .acquire 2, .inspect 2, .finish 2, .count 2, .leave 2,
   .acquire 1, .inspect 1, .leave 1, .acquire 3, .inspect 3, .leave 3]

theorem reachable_releasesOnce_competing :
    let shared? := (new ⟨⟨0, "linked", abiVersion⟩, some 7⟩ .zero).run? competingSteps
    shared?.map (fun shared : SharedHandle .wallet => shared.users.map (·.stage)) =
        some [.over .served, .over (.released false), .over (.released true),
          .over (.refused (.useAfterFree .wallet))] ∧
      ∃ shared : SharedHandle .wallet, shared? = some shared ∧ ReleasesOnce 7 shared := by
  intro shared?
  obtain ⟨shared, ran⟩ : ∃ shared, shared? = some shared := ⟨_, rfl⟩
  exact ⟨rfl, shared, ran, reachable_releasesOnce (Reachable.new.run ran)⟩

end SharedHandle

end WalletBridge
