/-
This file lists once what a step on a shared handle can do. A step is taken by one use: it changes
where that use stands, it may empty the slot, take or give back the lock, and write an event. All
other uses stay where they are. What holds of every step is shown by going through the list.
-/

import WalletBridge.Host.SharedHandle

namespace WalletBridge

/-! ### Steps -/

/-- Whether a use has the lock in a stage. -/
def UseStage.hasLock : UseStage → Bool
  | .waiting => false
  | .over _ => false
  | _ => true

/-- Whether a use is there to release the object. -/
def HandleUse.releases : HandleUse → Bool
  | .release => true
  | .drop => true
  | _ => false

namespace SharedHandle

variable {kind : ResourceKind}

/-- What a step of a use can do: where the use stood, if it had begun, what was in the slot and who
had the lock, then the same after the step, and what is written into the journal. -/
inductive Change (kind : ResourceKind) (id : UseId) :
    Option HandleUser → Option Address → Option UseId →
      HandleUser → Option Address → Option UseId → List ObjectEvent → Prop where
  | begin (use : HandleUse) (slot : Option Address) (holder : Option UseId) :
    Change kind id none slot holder ⟨use, .waiting⟩ slot holder []
  | acquire (use : HandleUse) (slot : Option Address) :
    Change kind id (some ⟨use, .waiting⟩) slot none ⟨use, .holding⟩ slot (some id) []
  | callBegan (address : Address) (holder : Option UseId) :
    Change kind id (some ⟨.call, .holding⟩) (some address) holder
      ⟨.call, .calling address⟩ (some address) holder [.callBegan id address]
  | callRefused (holder : Option UseId) :
    Change kind id (some ⟨.call, .holding⟩) none holder
      ⟨.call, .leaving (.refused (.useAfterFree kind))⟩ none holder []
  | looked (slot : Option Address) (holder : Option UseId) :
    Change kind id (some ⟨.look, .holding⟩) slot holder
      ⟨.look, .leaving (.looked slot.isSome)⟩ slot holder []
  | freeBegan (use : HandleUse) (releases : use.releases = true) (address : Address)
      (holder : Option UseId) :
    Change kind id (some ⟨use, .holding⟩) (some address) holder
      ⟨use, .freeing address⟩ none holder [.freeBegan id address]
  | nothingFreed (use : HandleUse) (releases : use.releases = true) (holder : Option UseId) :
    Change kind id (some ⟨use, .holding⟩) none holder
      ⟨use, .leaving (.released false)⟩ none holder []
  | callEnded (use : HandleUse) (address : Address) (slot : Option Address)
      (holder : Option UseId) :
    Change kind id (some ⟨use, .calling address⟩) slot holder
      ⟨use, .leaving .served⟩ slot holder [.callEnded id address]
  | freeEnded (use : HandleUse) (address : Address) (slot : Option Address)
      (holder : Option UseId) :
    Change kind id (some ⟨use, .freeing address⟩) slot holder
      ⟨use, .freed⟩ slot holder [.freeEnded id address]
  | counted (use : HandleUse) (slot : Option Address) (holder : Option UseId) :
    Change kind id (some ⟨use, .freed⟩) slot holder
      ⟨use, .leaving (.released true)⟩ slot holder []
  | left (use : HandleUse) (result : UseResult) (slot : Option Address)
      (holder : Option UseId) :
    Change kind id (some ⟨use, .leaving result⟩) slot holder ⟨use, .over result⟩ slot none []

/-- One use takes a turn, and all others stay where they are. -/
structure Turn (before after : SharedHandle kind) (id : UseId) (next : HandleUser)
    (events : List ObjectEvent) : Prop where
  change : Change kind id before.users[id]? before.handle.slot before.holder
    next after.handle.slot after.holder events
  now : after.users[id]? = some next
  others : ∀ other, other ≠ id → after.users[other]? = before.users[other]?
  journal : after.journal = events ++ before.journal

/-- A use that begins takes the next number. -/
theorem Turn.of_begin {before after : SharedHandle kind} {use : HandleUse}
    (users : after.users = before.users ++ [⟨use, .waiting⟩])
    (handle : after.handle = before.handle) (holder : after.holder = before.holder)
    (journal : after.journal = before.journal) :
    Turn before after before.users.length ⟨use, .waiting⟩ [] := by
  refine ⟨?_, ?_, fun other apart => ?_, journal⟩
  · rw [List.getElem?_eq_none (Nat.le_refl _), handle, holder]
    exact .begin use _ _
  · rw [users, List.getElem?_concat_length]
  · rw [users]
    by_cases less : other < before.users.length
    · exact List.getElem?_append_left less
    · have beyond : before.users.length < other :=
        Nat.lt_of_le_of_ne (Nat.le_of_not_lt less) (Ne.symm apart)
      rw [List.getElem?_eq_none (Nat.le_of_lt beyond),
        List.getElem?_eq_none (by rw [List.length_append]; exact beyond)]

/-- A use that has begun goes to another stage. -/
theorem Turn.of_setStage {before after : SharedHandle kind} {id : UseId} {use : HandleUse}
    {stage next : UseStage} {slot slotAfter : Option Address} {holder : Option UseId}
    {events : List ObjectEvent} (found : before.users[id]? = some ⟨use, stage⟩)
    (slotBefore : before.handle.slot = slot) (holderBefore : before.holder = holder)
    (users : after.users = (before.setStage id next).users)
    (slotThen : after.handle.slot = slotAfter)
    (change : Change kind id (some ⟨use, stage⟩) slot holder
      ⟨use, next⟩ slotAfter after.holder events)
    (journal : after.journal = events ++ before.journal) :
    Turn before after id ⟨use, next⟩ events := by
  refine ⟨?_, ?_, fun other apart => ?_, journal⟩
  · rw [found, slotBefore, holderBefore, slotThen]
    exact change
  · rw [users, setStage, List.getElem?_modify_eq, found]
    rfl
  · rw [users, setStage]
    exact List.getElem?_modify_ne _ _ (Ne.symm apart)

/-- What a use does when it looks at the slot is a turn. -/
theorem inspect_turn {before : SharedHandle kind} {id : UseId} {use : HandleUse}
    (found : before.users[id]? = some ⟨use, .holding⟩) :
    ∃ next events, Turn before (before.inspect id use) id next events := by
  have releasing (releases : use.releases = true)
      (same : before.inspect id use = before.inspect id .release) :
      ∃ next events, Turn before (before.inspect id use) id next events := by
    rw [same]
    cases slot : before.handle.slot with
    | some address =>
      simp only [inspect, slot]
      exact ⟨_, _, .of_setStage found slot rfl rfl rfl (.freeBegan use releases address _) rfl⟩
    | none =>
      simp only [inspect, slot]
      exact ⟨_, [], .of_setStage found slot rfl rfl slot (.nothingFreed use releases _) rfl⟩
  cases use with
  | call =>
    cases slot : before.handle.slot with
    | some address =>
      simp only [inspect, Handle.address, slot]
      exact ⟨_, _, .of_setStage found slot rfl rfl slot (.callBegan address _) rfl⟩
    | none =>
      simp only [inspect, Handle.address, slot]
      exact ⟨_, [], .of_setStage found slot rfl rfl slot (.callRefused _) rfl⟩
  | look => exact ⟨_, [], .of_setStage found rfl rfl rfl rfl (.looked _ _) rfl⟩
  | release => exact releasing rfl rfl
  | drop => exact releasing rfl rfl

/-- What a use does in its stage is a turn. -/
theorem stepUser_turn {before after : SharedHandle kind} {id : UseId} {user : HandleUser}
    (found : before.users[id]? = some user) {step : HandleStep}
    (taken : before.stepUser id user step = some after) :
    ∃ next events, Turn before after id next events := by
  obtain ⟨use, stage⟩ := user
  cases step with
  | begin use => cases taken
  | acquire _ =>
    simp only [stepUser] at taken
    split at taken
    · rename_i free
      cases taken
      exact ⟨_, [], .of_setStage found rfl free rfl rfl (.acquire use _) rfl⟩
    · cases taken
  | inspect _ =>
    simp only [stepUser] at taken
    split at taken
    · cases taken
      exact inspect_turn found
    · cases taken
  | finish _ =>
    simp only [stepUser] at taken
    split at taken
    · cases taken
      exact ⟨_, _, .of_setStage found rfl rfl rfl rfl (.callEnded use _ _ _) rfl⟩
    · cases taken
      exact ⟨_, _, .of_setStage found rfl rfl rfl rfl (.freeEnded use _ _ _) rfl⟩
    · cases taken
  | count _ =>
    simp only [stepUser] at taken
    split at taken
    · cases taken
      exact ⟨_, [], .of_setStage found rfl rfl rfl rfl (.counted use _ _) rfl⟩
    · cases taken
  | leave _ =>
    simp only [stepUser] at taken
    split at taken
    · cases taken
      exact ⟨_, [], .of_setStage found rfl rfl rfl rfl (.left use _ _ _) rfl⟩
    · cases taken

/-- Every step is a turn of one use. -/
theorem step?_turn {before after : SharedHandle kind} {step : HandleStep}
    (taken : before.step? step = some after) :
    ∃ id next events, Turn before after id next events := by
  cases step with
  | begin use =>
    refine ⟨before.users.length, ⟨use, .waiting⟩, [], ?_⟩
    simp only [step?, begin?] at taken
    split at taken
    · cases taken
    · split at taken
      · split at taken
        · cases taken
          exact .of_begin rfl rfl rfl rfl
        · cases taken
      · cases taken
        exact .of_begin rfl rfl rfl rfl
  | acquire id | inspect id | finish id | count id | leave id =>
    simp only [step?] at taken
    split at taken
    · rename_i found
      exact ⟨id, stepUser_turn found taken⟩
    · cases taken

end SharedHandle

end WalletBridge
