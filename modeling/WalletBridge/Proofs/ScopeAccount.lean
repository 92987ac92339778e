/-
This file keeps an account of a session by its log. The account relates the log to the process,
namely to the free functions in the journal and to the counters of releases, and to the table: what
is live was never freed, and what is released was freed once and on request. It also says which
blocks are open and that what they use still has its name. Whatever frees an object, an owner's
request, the exit of a block or the end of its owner, goes through one lemma, and every operation
keeps the account as long as it takes no object away from an open block.
-/

import WalletBridge.Proofs.OperationSteps
import WalletBridge.Proofs.SessionLedger

namespace WalletBridge

/-! ### What a log says -/

/-- How an event freed an object, if it did. -/
def ScopeEvent.freeing? (resource : Resource) : ScopeEvent → Option Freeing
  | .freed other _ _ _ why => if other = resource then some why else none
  | _ => none

/-- The crossing behind an event. -/
def ScopeEvent.crossing? : ScopeEvent → Option Crossing
  | .freed _ library kind address _ => some (.released library (.object kind address))
  | _ => none

/-- Whether an event is a release that is counted under a cause. -/
def ScopeEvent.isCounted (cause : ReleaseCause) : ScopeEvent → Bool
  | .freed _ _ _ _ why => why.cause = cause
  | _ => false

/-- The crossings of a journal that give objects back. -/
def Crossing.objectReleases (journal : List Crossing) : List Crossing :=
  journal.filter fun crossing => crossing.freed?.isSome

namespace ScopeLog

/-- The reasons for which an object was freed, the last first. -/
def freeings (log : ScopeLog) (resource : Resource) : List Freeing :=
  log.filterMap (·.freeing? resource)

/-- An object was freed once, because its owner asked for it. -/
def FreedOnce (log : ScopeLog) (resource : Resource) : Prop :=
  ∃ why, log.freeings resource = [why] ∧ why.cause = .explicit

/-- The objects that blocks use which were entered and not left, the innermost first. It makes no
sense to leave blocks in another order than the opposite of that in which they were entered. -/
def openBlocks : ScopeLog → Option (List Resource)
  | [] => some []
  | .entered resource :: earlier => (openBlocks earlier).map (resource :: ·)
  | .left resource :: earlier =>
    match openBlocks earlier with
    | some (innermost :: enclosing) => if innermost = resource then some enclosing else none
    | _ => none
  | _ :: earlier => openBlocks earlier

end ScopeLog

/-- An event that neither makes nor frees an object. -/
structure ScopeEvent.IsMark (event : ScopeEvent) : Prop where
  isMade : ∀ label, event.isMade label = false
  freeing : ∀ resource, event.freeing? resource = none
  crossing : event.crossing? = none
  isCounted : ∀ cause, event.isCounted cause = false

/-- What holds of an event, given the events before it. When a block is left, its object has been
freed. If it is the exit that frees the object, then the block is the innermost one, and the objects
of all blocks that are not open any more have been freed before. -/
def ScopeEvent.InOrder (earlier : ScopeLog) : ScopeEvent → Prop
  | .left resource => earlier.freeings resource ≠ []
  | .freed resource _ _ _ .left => ∃ enclosing, earlier.openBlocks = some (resource :: enclosing) ∧
      ∀ inner, .entered inner ∈ earlier →
        inner ∈ resource :: enclosing ∨ earlier.freeings inner ≠ []
  | _ => True

/-- Every event of a log is in order. -/
def ScopeLog.InOrder (log : ScopeLog) : Prop :=
  ∀ event earlier, event :: earlier <:+ log → event.InOrder earlier

namespace ScopeLog

variable {log : ScopeLog} {resource other : Resource} {library : LibraryId} {kind : ResourceKind}
  {address : Address} {why : Freeing}

theorem freeings_freed_self :
    freeings (.freed resource library kind address why :: log) resource =
      why :: log.freeings resource := by
  simp [freeings, ScopeEvent.freeing?]

theorem freeings_freed_ne (apart : other ≠ resource) :
    freeings (.freed other library kind address why :: log) resource = log.freeings resource := by
  simp [freeings, ScopeEvent.freeing?, apart]

/-- Only the making of an object gives a name to another one. -/
theorem current_cons {event : ScopeEvent} {label : String} (keeps : event.isMade label = false) :
    current (event :: log) label = log.current label := by
  rw [current, current, List.countP_cons_of_neg (by rw [keeps]; exact Bool.false_ne_true)]

theorem current_made_self (label : String) :
    current (.made (log.next label) :: log) label = log.next label := by
  rw [current, next, List.countP_cons_of_pos (by simp [ScopeEvent.isMade])]

theorem current_made_ne {label other : String} (apart : other ≠ label) :
    current (.made (log.next label) :: log) other = log.current other := by
  refine current_cons ?_
  simpa [ScopeEvent.isMade, next] using apart.symm

theorem InOrder.cons {event : ScopeEvent} (inOrder : log.InOrder) (first : event.InOrder log) :
    InOrder (event :: log) := by
  intro later earlier isSuffix
  obtain whole | within := List.suffix_cons_iff.mp isSuffix
  · obtain ⟨rfl, rfl⟩ := List.cons.inj whole
    exact first
  · exact inOrder later earlier within

/-- An object that was freed once stays so when another one is freed. -/
theorem FreedOnce.freed (once : log.FreedOnce resource) (unfreed : log.freeings other = []) :
    FreedOnce (.freed other library kind address why :: log) resource := by
  obtain ⟨reason, only, explicit⟩ := once
  refine ⟨reason, ?_, explicit⟩
  rw [freeings_freed_ne, only]
  rintro rfl
  rw [only] at unfreed
  cases unfreed

theorem FreedOnce.freeings_ne_nil (once : log.FreedOnce resource) : log.freeings resource ≠ [] := by
  obtain ⟨why, only, _⟩ := once
  rw [only]
  exact List.cons_ne_nil why []

end ScopeLog

namespace Session

variable {State Content : Type} (around : Surroundings State)

/-! ### Names in a table -/

theorem object?_put_self (session : Session State) (label : String) (object : Object) :
    (session.put label object).object? label = some object := by
  rw [object?, put]
  generalize session.objects = entries
  induction entries with
  | nil => simp [insert]
  | cons entry rest inductionHypothesis =>
    unfold insert
    split
    · simp
    · split
      · simp
      · rename_i differs _
        have apart : label ≠ entry.1 := by simpa using differs
        rw [List.find?_cons_of_neg (by simpa using apart.symm)]
        exact inductionHypothesis

theorem object?_put_ne (session : Session State) {label other : String} (object : Object)
    (apart : other ≠ label) : (session.put label object).object? other = session.object? other := by
  rw [object?, object?, put]
  generalize session.objects = entries
  have passes : ((label, object).1 == other) = false := by simpa using Ne.symm apart
  induction entries with
  | nil => simp [insert, passes]
  | cons entry rest inductionHypothesis =>
    unfold insert
    split
    · rename_i same
      have passesEntry : (entry.1 == other) = false := by rwa [← eq_of_beq same]
      rw [List.find?_cons, List.find?_cons, passes, passesEntry]
    · split
      · rw [List.find?_cons, passes]
      · simp only [List.find?_cons]
        split
        · rfl
        · exact inductionHypothesis

theorem object?_remove_self (session : Session State) (label : String) :
    (session.remove label).object? label = none := by
  simp [object?, remove]

theorem object?_remove_ne (session : Session State) {label other : String}
    (apart : other ≠ label) : (session.remove label).object? other = session.object? other := by
  rw [object?, object?, remove, List.find?_filter]
  congr 2
  funext entry
  by_cases same : entry.1 = other
  · simp [same, apart]
  · simp [same]

/-! ### Releasing an object -/

/-- The release of an object calls the free function and is counted, or there is nothing left to
release. -/
theorem releaseObject_cases (cause : ReleaseCause) (label : String) (object : Object)
    (why : Freeing) (process : Host State) (log : ScopeLog) :
    (object.isLive = false ∧ (releaseObject around cause object process).2 = process ∧
        log.free label object why = log) ∨
      ∃ address, object.isLive = true ∧
        (releaseObject around cause object process).2 =
            { around.release object.handle.library.id (.object object.kind address) process with
              lifecycle := process.lifecycle.recordRelease cause } ∧
          log.free label object why =
            .freed (log.current label) object.handle.library.id object.kind address why :: log := by
  rw [Object.isLive, Handle.isLive, releaseObject, Surroundings.releaseHandle, ScopeLog.free]
  cases object.handle.slot with
  | none => exact .inl ⟨rfl, rfl, rfl⟩
  | some address => exact .inr ⟨address, rfl, rfl, rfl⟩

/-- A released object is not live any more. -/
theorem releaseObject_isLive (cause : ReleaseCause) (object : Object) (process : Host State) :
    (releaseObject around cause object process).1.2.isLive = false := by
  have handle_eq : ∀ handle : Handle object.kind,
      (object.withHandle handle).isLive = handle.isLive := by cases object <;> exact fun _ => rfl
  simp only [releaseObject, handle_eq, Surroundings.releaseHandle]
  cases slot : object.handle.slot with
  | none => simp only [Handle.isLive, slot, Option.isSome_none]
  | some address => rfl

/-- A table in which one object has gone: its name stands for a released object, or for none if the
owner went away. -/
structure Retires (label : String) (cause : ReleaseCause) (session after : Session State) :
    Prop where
  ordered : Ordered after.objects
  others : ∀ other, other ≠ label → after.object? other = session.object? other
  here : ∀ left, after.object? label = some left → left.isLive = false ∧ cause = .explicit
  stays : cause = .explicit → (after.object? label).isSome = true

/-- What is live afterwards is another object, and it was there before. -/
theorem Retires.of_live {label other : String} {cause : ReleaseCause} {session after : Session State}
    (retires : Retires label cause session after) {left : Object}
    (isLeft : after.object? other = some left) (isLive : left.isLive = true) :
    other ≠ label ∧ session.object? other = some left := by
  have apart : other ≠ label := by
    rintro rfl
    rw [(retires.here left isLeft).1] at isLive
    cases isLive
  exact ⟨apart, retires.others other apart ▸ isLeft⟩

/-! ### The account of a session -/

/-- What a log accounts for, beginning at some moment of the process: every object that is freed and
every release that is counted since then, and the state of every object in the table. The blocks
are those that are open. -/
structure Account (start : Host State) (log : ScopeLog) (blocks : List Resource)
    (session : Session State) : Prop where
  ordered : Ordered session.objects
  releases : Crossing.objectReleases session.process.journal =
    log.filterMap (·.crossing?) ++ Crossing.objectReleases start.journal
  explicit : session.process.lifecycle.explicit =
    log.countP (·.isCounted .explicit) + start.lifecycle.explicit
  byDrop : session.process.lifecycle.byDrop =
    log.countP (·.isCounted .drop) + start.lifecycle.byDrop
  /-- What does not have its name yet was never freed. -/
  unborn : ∀ resource, (log.current resource.label).generation < resource.generation →
    log.freeings resource = []
  live : ∀ label object, session.object? label = some object → object.isLive = true →
    log.freeings (log.current label) = []
  gone : ∀ label object, session.object? label = some object → object.isLive = false →
    log.FreedOnce (log.current label)
  openBlocks : log.openBlocks = some blocks
  /-- What an open block uses still has its name. -/
  inUse : ∀ resource ∈ blocks,
    resource = log.current resource.label ∧ (session.object? resource.label).isSome = true
  /-- What a block used that was left has been freed. -/
  used : ∀ resource, .entered resource ∈ log → resource ∈ blocks ∨ log.FreedOnce resource
  inOrder : log.InOrder

namespace Account

variable {start : Host State} {log : ScopeLog} {blocks : List Resource} {session : Session State}

/-- Nothing is accounted for in the beginning. -/
theorem begin (process : Host State) :
    Account process [] [] (⟨process, []⟩ : Session State) where
  ordered := List.Pairwise.nil
  releases := rfl
  explicit := (Nat.zero_add _).symm
  byDrop := (Nat.zero_add _).symm
  unborn _ _ := rfl
  live := nofun
  gone := nofun
  openBlocks := rfl
  inUse := nofun
  used := nofun
  inOrder _ _ isSuffix := absurd (List.suffix_nil.mp isSuffix) (List.cons_ne_nil _ _)

/-- Calls that give no object back are not accounted for. -/
theorem advance (account : Account start log blocks session) {id : LibraryId} {after : Host State}
    (calls : session.process.CallsOnly id after) :
    Account start log blocks { session with process := after } := by
  obtain ⟨added, journal, keeps⟩ := calls.journal
  refine { account with releases := ?_, explicit := ?_, byDrop := ?_ }
  · rw [← account.releases, Crossing.objectReleases, journal, List.filter_append]
    have none : added.filter (fun crossing => crossing.freed?.isSome) = [] :=
      List.filter_eq_nil_iff.mpr fun crossing member => by rw [(keeps crossing member).2]; simp
    rw [none, List.nil_append]
    rfl
  · exact calls.explicit.trans account.explicit
  · exact calls.byDrop.trans account.byDrop

/-- An open block keeps its object under the name, because it is not dropped. -/
theorem inUse_retires (account : Account start log blocks session) {after : Session State}
    {label : String} {cause : ReleaseCause} (retires : Retires label cause session after)
    (keeps : cause = .drop → log.current label ∉ blocks) :
    ∀ resource ∈ blocks,
      resource = log.current resource.label ∧ (after.object? resource.label).isSome = true := by
  intro resource member
  obtain ⟨isCurrent, isThere⟩ := account.inUse resource member
  refine ⟨isCurrent, ?_⟩
  by_cases same : resource.label = label
  · rw [same] at isCurrent ⊢
    cases cause with
    | explicit => exact retires.stays rfl
    | drop => exact absurd (isCurrent ▸ member) (keeps rfl)
  · rwa [retires.others _ same]

/-- A table may lose an object that was released before. -/
theorem retire (account : Account start log blocks session) {after : Session State}
    {label : String} {object : Object} {cause : ReleaseCause}
    (found : session.object? label = some object) (dead : object.isLive = false)
    (process_eq : after.process = session.process) (retires : Retires label cause session after)
    (keeps : cause = .drop → log.current label ∉ blocks) :
    Account start log blocks after where
  ordered := retires.ordered
  releases := process_eq ▸ account.releases
  explicit := process_eq ▸ account.explicit
  byDrop := process_eq ▸ account.byDrop
  unborn := account.unborn
  live other left isLeft isLive :=
    account.live other left (retires.of_live isLeft isLive).2 isLive
  gone other left isLeft isDead := by
    by_cases same : other = label
    · rw [same]
      exact account.gone label object found dead
    · exact account.gone other left (retires.others other same ▸ isLeft) isDead
  openBlocks := account.openBlocks
  inUse := account.inUse_retires retires keeps
  used := account.used
  inOrder := account.inOrder

/-- A live object is freed. -/
theorem freed (account : Account start log blocks session) {after : Session State}
    {label : String} {object : Object} (why : Freeing) {library : LibraryId} {kind : ResourceKind}
    {address : Address} (found : session.object? label = some object)
    (live : object.isLive = true)
    (process_eq : after.process =
      { around.release library (.object kind address) session.process with
        lifecycle := session.process.lifecycle.recordRelease why.cause })
    (retires : Retires label why.cause session after)
    (keeps : why.cause = .drop → log.current label ∉ blocks)
    (innermost : why = .left → blocks.head? = some (log.current label)) :
    Account start (.freed (log.current label) library kind address why :: log) blocks after := by
  have unfreed : log.freeings (log.current label) = [] := account.live label object found live
  have current_eq : ∀ other,
      ScopeLog.current (.freed (log.current label) library kind address why :: log) other =
        log.current other := fun other => ScopeLog.current_cons rfl
  have elsewhere : ∀ resource, log.current label ≠ resource →
      ScopeLog.freeings (.freed (log.current label) library kind address why :: log) resource =
        log.freeings resource := fun resource apart => ScopeLog.freeings_freed_ne apart
  refine {
    ordered := retires.ordered, releases := ?releases, explicit := ?explicit, byDrop := ?byDrop,
    unborn := ?unborn, live := ?live, gone := ?gone, openBlocks := account.openBlocks,
    inUse := ?inUse, used := ?used, inOrder := account.inOrder.cons ?inOrder }
  case releases =>
    rw [process_eq, List.filterMap_cons]
    exact congrArg (_ :: ·) account.releases
  case explicit =>
    rw [process_eq, List.countP_cons, Nat.add_right_comm, ← account.explicit]
    cases why <;> rfl
  case byDrop =>
    rw [process_eq, List.countP_cons, Nat.add_right_comm, ← account.byDrop]
    cases why <;> rfl
  case unborn =>
    intro resource born
    rw [current_eq] at born
    rw [elsewhere, account.unborn resource born]
    rintro rfl
    exact absurd born (Nat.lt_irrefl _)
  case live =>
    intro other left isLeft isLive
    obtain ⟨apart, wasLeft⟩ := retires.of_live isLeft isLive
    rw [current_eq, elsewhere]
    · exact account.live other left wasLeft isLive
    · exact fun equal => apart (congrArg Resource.label equal).symm
  case gone =>
    intro other left isLeft isDead
    by_cases same : other = label
    · rw [same] at isLeft ⊢
      refine ⟨why, ?_, (retires.here left isLeft).2⟩
      rw [current_eq, ScopeLog.freeings_freed_self, unfreed]
    · rw [current_eq]
      exact (account.gone other left (retires.others other same ▸ isLeft) isDead).freed unfreed
  case inUse =>
    simp only [current_eq]
    exact account.inUse_retires retires keeps
  case used =>
    intro resource entered
    exact (account.used resource (by simpa using entered)).imp_right (·.freed unfreed)
  case inOrder =>
    cases why with
    | left =>
      obtain ⟨enclosing, rfl⟩ := List.head?_eq_some_iff.mp (innermost rfl)
      exact ⟨enclosing, account.openBlocks, fun inner entered =>
        (account.used inner entered).imp_right (·.freeings_ne_nil)⟩
    | disposed => trivial
    | dropped => trivial

/-- The object under a name is freed, unless it is already. -/
theorem free (account : Account start log blocks session) {after : Session State} {label : String}
    {object : Object} (why : Freeing) (found : session.object? label = some object)
    (process_eq : after.process = (releaseObject around why.cause object session.process).2)
    (retires : Retires label why.cause session after)
    (keeps : why.cause = .drop → log.current label ∉ blocks)
    (innermost : why = .left → blocks.head? = some (log.current label)) :
    Account start (log.free label object why) blocks after := by
  obtain ⟨dead, unchanged, silent⟩ | ⟨address, live, freed, noted⟩ := releaseObject_cases
    around why.cause label object why session.process log
  · rw [silent]
    exact account.retire found dead (process_eq.trans unchanged) retires keeps
  · rw [noted]
    exact account.freed around why found live (process_eq.trans freed) retires keeps innermost

/-- A name that no open block uses gets a new object. -/
theorem make (account : Account start log blocks session) {after : Session State} {label : String}
    {object : Object} (live : object.isLive = true) (process_eq : after.process = session.process)
    (ordered : Ordered after.objects) (here : after.object? label = some object)
    (others : ∀ other, other ≠ label → after.object? other = session.object? other)
    (unused : label ∉ blocks.map (·.label)) :
    Account start (.made (log.next label) :: log) blocks after := by
  have fresh : log.freeings (log.next label) = [] := account.unborn _ (Nat.lt_succ_self _)
  refine {
    ordered, releases := process_eq ▸ account.releases, explicit := process_eq ▸ account.explicit,
    byDrop := process_eq ▸ account.byDrop, unborn := ?unborn, live := ?live, gone := ?gone,
    openBlocks := account.openBlocks, inUse := ?inUse, used := ?used,
    inOrder := account.inOrder.cons trivial }
  case unborn =>
    intro resource born
    refine account.unborn resource (Nat.lt_of_le_of_lt ?_ born)
    exact List.Sublist.countP_le (List.sublist_cons_self _ log)
  case live =>
    intro other left isLeft isLive
    by_cases same : other = label
    · rw [same, ScopeLog.current_made_self]
      exact fresh
    · rw [ScopeLog.current_made_ne same]
      exact account.live other left (others other same ▸ isLeft) isLive
  case gone =>
    intro other left isLeft isDead
    by_cases same : other = label
    · rw [same, here] at isLeft
      obtain rfl := Option.some.inj isLeft
      rw [live] at isDead
      cases isDead
    · rw [ScopeLog.current_made_ne same]
      exact account.gone other left (others other same ▸ isLeft) isDead
  case inUse =>
    intro resource member
    have apart : resource.label ≠ label := fun same =>
      unused (List.mem_map.mpr ⟨resource, member, same⟩)
    rw [ScopeLog.current_made_ne apart, others _ apart]
    exact account.inUse resource member
  case used =>
    exact fun resource entered => account.used resource (by simpa using entered)

/-! ### Blocks -/

/-- An event that neither makes nor frees an object can only concern the open blocks. -/
theorem mark (account : Account start log blocks session) {event : ScopeEvent}
    {others : List Resource} (isMark : event.IsMark)
    (openBlocks : ScopeLog.openBlocks (event :: log) = some others)
    (inUse : ∀ resource ∈ others,
      resource = log.current resource.label ∧ (session.object? resource.label).isSome = true)
    (used : ∀ resource, .entered resource ∈ event :: log →
      resource ∈ others ∨ log.FreedOnce resource)
    (inOrder : event.InOrder log) : Account start (event :: log) others session := by
  have current_eq : ∀ label, ScopeLog.current (event :: log) label = log.current label :=
    fun label => ScopeLog.current_cons (isMark.isMade label)
  have freeings_eq : ∀ resource,
      ScopeLog.freeings (event :: log) resource = log.freeings resource :=
    fun resource => List.filterMap_cons_none (isMark.freeing resource)
  have uncounted : ∀ cause, (event :: log).countP (·.isCounted cause) =
      log.countP (·.isCounted cause) := fun cause =>
    List.countP_cons_of_neg (by rw [isMark.isCounted]; exact Bool.false_ne_true)
  refine {
    ordered := account.ordered, releases := ?releases, explicit := ?explicit, byDrop := ?byDrop,
    unborn := ?unborn, live := ?live, gone := ?gone, openBlocks, inUse := ?inUse, used := ?used,
    inOrder := account.inOrder.cons inOrder }
  case releases =>
    rw [List.filterMap_cons_none isMark.crossing]
    exact account.releases
  case explicit =>
    rw [uncounted]
    exact account.explicit
  case byDrop =>
    rw [uncounted]
    exact account.byDrop
  case unborn => simpa only [current_eq, freeings_eq] using account.unborn
  case live => simpa only [current_eq, freeings_eq] using account.live
  case gone => simpa only [current_eq, ScopeLog.FreedOnce, freeings_eq] using account.gone
  case inUse => simpa only [current_eq] using inUse
  case used => simpa only [ScopeLog.FreedOnce, freeings_eq] using used

/-- A block is entered with an object that is there. -/
theorem enter (account : Account start log blocks session) {target : String} {object : Object}
    (found : session.object? target = some object) :
    Account start (.entered (log.current target) :: log) (log.current target :: blocks)
      session := by
  refine account.mark ⟨fun _ => rfl, fun _ => rfl, rfl, fun _ => rfl⟩ ?_ ?_ ?_ trivial
  · rw [ScopeLog.openBlocks, account.openBlocks]
    rfl
  · exact List.forall_mem_cons.mpr ⟨⟨rfl, Option.isSome_of_eq_some found⟩, account.inUse⟩
  · intro resource entered
    obtain here | before := List.mem_cons.mp entered
    · cases here
      exact .inl List.mem_cons_self
    · exact (account.used resource before).imp_left (List.mem_cons_of_mem _)

/-- The innermost block is left, and its object has been freed. -/
theorem exit {resource : Resource} (account : Account start log (resource :: blocks) session)
    (freed : log.FreedOnce resource) : Account start (.left resource :: log) blocks session := by
  refine account.mark ⟨fun _ => rfl, fun _ => rfl, rfl, fun _ => rfl⟩ ?_ ?_ ?_
    freed.freeings_ne_nil
  · rw [ScopeLog.openBlocks, account.openBlocks]
    exact if_pos rfl
  · exact (List.forall_mem_cons.mp account.inUse).2
  · intro other entered
    obtain inside | once := account.used other (by simpa using entered)
    · obtain rfl | outer := List.mem_cons.mp inside
      · exact .inr freed
      · exact .inl outer
    · exact .inr once

/-! ### Operations -/

/-- An object is disposed of, by its owner or at the exit of a block. -/
theorem dispose (account : Account start log blocks session) (why : Freeing) {label : String}
    {object : Object} (found : session.object? label = some object) (explicit : why.cause = .explicit)
    (innermost : why = .left → blocks.head? = some (log.current label)) :
    Account start (log.free label object why) blocks (session.dispose around label object).2 := by
  have cause_eq : ReleaseCause.explicit = why.cause := explicit.symm
  refine account.free around why found ?_ ⟨?_, ?_, ?_, ?_⟩ ?_ innermost
  · rw [explicit]
    rfl
  · exact account.ordered.insert
  · exact fun other apart => object?_put_ne _ _ apart
  · intro left isLeft
    rw [Session.dispose, object?_put_self] at isLeft
    obtain rfl := Option.some.inj isLeft
    exact ⟨releaseObject_isLive _ _ _ _, explicit⟩
  · intro _
    rw [Session.dispose, object?_put_self]
    rfl
  · intro dropped
    rw [explicit] at dropped
    cases dropped

/-- An object that no open block uses is dropped. -/
theorem drop (account : Account start log blocks session) {label : String} {object : Object}
    (found : session.object? label = some object) (unused : label ∉ blocks.map (·.label)) :
    Account start (log.free label object .dropped) blocks
      (dropObject around object (session.remove label)) := by
  refine account.free around .dropped found rfl ⟨?_, ?_, ?_, ?_⟩ ?_ nofun
  · exact account.ordered.filter _
  · exact fun other apart => object?_remove_ne session apart
  · intro left isLeft
    rw [show (dropObject around object (session.remove label)).object? label =
      (session.remove label).object? label from rfl, object?_remove_self] at isLeft
    cases isLeft
  · nofun
  · exact fun _ member => unused (List.mem_map.mpr ⟨_, member, rfl⟩)

/-- A name gets a new object, and the former one is dropped. -/
theorem keep (account : Account start log blocks session) {label : String} {object : Object}
    (live : object.isLive = true) (unused : label ∉ blocks.map (·.label)) :
    Account start (log.note session (.made label)) blocks (session.keep around label object) := by
  have ordered : Ordered (session.put label object).objects := account.ordered.insert
  have here := object?_put_self session label object
  have others : ∀ other, other ≠ label →
      (session.put label object).object? other = session.object? other :=
    fun other apart => object?_put_ne session object apart
  rw [ScopeLog.note, ScopeLog.release, Session.keep]
  cases found : session.object? label with
  | none => exact account.make live rfl ordered here others unused
  | some former =>
    refine (account.drop around found unused).make live rfl ordered here ?_ unused
    exact fun other apart => (others other apart).trans (object?_remove_ne session apart).symm

theorem query (account : Account start log blocks session) {operation : Operation}
    {action : Action State Content} {id : LibraryId}
    (calls : session.process.CallsOnly id (action session.process).2) (answer : Content → Answer)
    (silent : ∀ content, operation.change (.answer (answer content)) = .none) :
    let done := session.query action answer
    Account start (log.note session (operation.change done.1)) blocks done.2 := by
  have unchanged : operation.change (respond (action session.process).1 answer) = .none := by
    cases (action session.process).1 with
    | value content => exact silent content
    | failure error => rfl
    | halted halt => rfl
  show Account start
    (log.note session (operation.change (respond (action session.process).1 answer))) blocks _
  rw [unchanged]
  exact account.advance calls

theorem construct (account : Account start log blocks session) {operation : Operation}
    {label : String} {action : Action State Content} {object : Content → Object} {id : LibraryId}
    (calls : session.process.CallsOnly id (action session.process).2)
    (makes : ∀ content, (action session.process).1 = .value content →
      (object content).isLive = true)
    (named : operation.change (.answer (.label label)) = .made label)
    (unused : label ∉ blocks.map (·.label)) :
    let done := session.construct around label action object
    Account start (log.note session (operation.change done.1)) blocks done.2 := by
  rw [Session.construct, perform]
  rcases ended : action session.process with ⟨content | error | halt, after⟩ <;>
    rw [ended] at calls makes
  · simp only [named]
    exact (account.advance calls).keep around (makes content rfl) unused
  · exact account.advance calls
  · exact account.advance calls

/-- An operation that takes no object away from an open block is accounted for. -/
theorem operate (account : Account start log blocks session) {operation : Operation}
    (keeps : operation.taken?.any (blocks.map (·.label)).contains = false) :
    let done := session.operate around operation
    Account start (log.note session (operation.change done.1)) blocks done.2 := by
  have unused : ∀ label, operation.taken? = some label → label ∉ blocks.map (·.label) := by
    intro label taken
    rw [taken] at keeps
    simpa using keeps
  obtain ⟨step, isStep, agrees⟩ := StepsAs.operate around session operation
  rw [agrees session rfl]
  cases isStep with
  | tells response silent =>
    show Account start (log.note session (operation.change response)) blocks session
    rw [silent]
    exact account
  | asks answer _ confined silent =>
    exact account.query (confined.calls session.process) answer silent
  | derives label object _ confined named taken =>
    exact account.construct around (confined.calls session.process)
      (fun content gives => (confined.makes _ content gives).live) named (unused label taken)
  | opens label object opening named taken =>
    obtain ⟨id, calls, makes⟩ := opening.calls session.process
    refine account.construct around calls (fun content gives => ?_) named (unused label taken)
    obtain ⟨library, madeBy⟩ := makes content gives
    exact madeBy.live
  | @disposes target object found same =>
    subst same
    show Account start (log.release session target .disposed) blocks _
    rw [ScopeLog.release, found]
    exact account.dispose around .disposed found rfl nofun
  | @drops target object found same =>
    subst same
    show Account start (log.release session target .dropped) blocks _
    rw [ScopeLog.release, found]
    exact account.drop around found (unused target rfl)

end Account

end Session

end WalletBridge
