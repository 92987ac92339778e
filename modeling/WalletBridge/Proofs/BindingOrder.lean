/-
This file proves that many threads can share the process-wide binding. A call has its effect at the
one look at the slot with which it ends: a look that finds nothing changes nothing, and whatever a
call finds at the look behind it, it does with it what a call does that looks only once. So the
calls, in the order in which they end, are the calls of one thread; and what holds of the slot
between two clearings holds for all callers.
-/

import Mathlib.Data.List.Basic
import WalletBridge.Boundary.SharedBinding

namespace WalletBridge

namespace Binding

/-- One more call is served by what the calls before it left. -/
theorem serveAll_concat (binding : Binding) (requests : List BindingRequest)
    (request : BindingRequest) :
    binding.serveAll (requests ++ [request]) =
      ((binding.serveAll requests).1 ++ [((binding.serveAll requests).2.serve request).1],
        ((binding.serveAll requests).2.serve request).2) := by
  induction requests generalizing binding with
  | nil => rfl
  | cons first rest inductionHypothesis =>
    simp only [List.cons_append, serveAll, inductionHypothesis]

end Binding

/-! ### Events -/

namespace BindingEvent

/-- The call that ended, if one did. -/
def ended? : BindingEvent → Option Nat
  | .ended call => some call
  | _ => none

/-- Whether a loader ran. -/
def isLoaded : BindingEvent → Bool
  | .loaded _ => true
  | _ => false

/-- Whether the slot was cleared. -/
def isCleared : BindingEvent → Bool
  | .cleared _ => true
  | _ => false

theorem ended?_eq_some {event : BindingEvent} {call : Nat} (ended : event.ended? = some call) :
    event = .ended call := by
  cases event <;> cases ended
  rfl

end BindingEvent

namespace SharedBinding

/-! ### Steps -/

/-- What is written about the slot when a call is served. -/
def marks (binding : Binding) (id : Nat) : BindingRequest → List BindingEvent
  | .get _ => if binding.isBound then [] else [.loaded id]
  | .teardown => if binding.isBound then [.cleared id] else []
  | .isBound => []

/-- Serves a call from its beginning to its end. -/
def serve (shared : SharedBinding) (id : Nat) (request : BindingRequest) : SharedBinding :=
  ⟨(shared.binding.serve request).2,
    (shared.setStage id (.answered (shared.binding.serve request).1)).calls,
    .ended id :: (marks shared.binding id request ++ shared.journal)⟩

/-- What a step can do: a call begins, or misses the library at its first look, or is served from its
beginning to its end. -/
inductive Move (shared : SharedBinding) : SharedBinding → Prop where
  | begin (request : BindingRequest) :
    Move shared ⟨shared.binding, shared.calls ++ [⟨request, .fresh⟩],
      .began shared.calls.length :: shared.journal⟩
  | miss (id : Nat) (request : BindingRequest)
      (found : shared.calls[id]? = some ⟨request, .fresh⟩) : Move shared (shared.setStage id .missed)
  | serve (id : Nat) (request : BindingRequest) (stage : BindingStage)
      (found : shared.calls[id]? = some ⟨request, stage⟩)
      (pending : ∀ answer, stage ≠ .answered answer) : Move shared (shared.serve id request)

/-- A call that finds a bound library takes it and leaves it. -/
theorem serve_get_of_bound {shared : SharedBinding} {bound : Bound}
    (slot : shared.binding.slot = some bound) (id : Nat) (load : LibraryId → Bound) :
    shared.serve id (.get load) = shared.finish id (.bound bound) := by
  have served : shared.binding.serve (.get load) = (.bound bound, shared.binding) := by
    simp only [Binding.serve, Binding.getOrBind, Binding.look, slot]
  have isBound : shared.binding.isBound = true := by rw [Binding.isBound, slot]; rfl
  simp [serve, served, marks, isBound, finish, record, setStage]

theorem look_move {before after : SharedBinding} {id : Nat} {call : BindingCall}
    (found : before.calls[id]? = some call) (taken : before.look id call = some after) :
    Move before after := by
  obtain ⟨request, stage⟩ := call
  cases stage with
  | fresh =>
    cases request with
    | get load =>
      simp only [look, Binding.look] at taken
      split at taken
      · rename_i bound slot
        cases taken
        rw [← serve_get_of_bound slot id load]
        exact .serve id _ _ found (by simp)
      · cases taken
        exact .miss id _ found
    | teardown => cases taken
    | isBound =>
      cases taken
      exact .serve id _ _ found (by simp)
  | missed => cases taken
  | answered answer => cases taken

theorem change_move {before after : SharedBinding} {id : Nat} {call : BindingCall}
    (found : before.calls[id]? = some call) (taken : before.change id call = some after) :
    Move before after := by
  obtain ⟨request, stage⟩ := call
  cases stage with
  | fresh =>
    cases request with
    | get load => cases taken
    | teardown =>
      cases taken
      exact .serve id _ _ found (by simp)
    | isBound => cases taken
  | missed =>
    cases request with
    | get load =>
      -- The second look fills the slot as a call does that looks only once.
      simp only [change, Binding.fill_eq_getOrBind] at taken
      cases taken
      exact .serve id _ _ found (by simp)
    | teardown => cases taken
    | isBound => cases taken
  | answered answer => cases taken

/-- Every step is a move. -/
theorem step?_move {before after : SharedBinding} {step : BindingStep}
    (taken : before.step? step = some after) : Move before after := by
  cases step with
  | begin request =>
    cases taken
    exact .begin request
  | look id =>
    obtain ⟨call, found, looked⟩ := Option.bind_eq_some_iff.mp taken
    exact look_move found looked
  | change id =>
    obtain ⟨call, found, changed⟩ := Option.bind_eq_some_iff.mp taken
    exact change_move found changed

/-! ### Calls over time -/

/-- What a call asked for. -/
def request? (shared : SharedBinding) (call : Nat) : Option BindingRequest :=
  (shared.calls[call]?).map (·.request)

section

variable {shared : SharedBinding} {id : Nat} {request : BindingRequest} {stage : BindingStage}

theorem answer?_eq_none (found : shared.calls[id]? = some ⟨request, stage⟩)
    (pending : ∀ answer, stage ≠ .answered answer) : shared.answer? id = none := by
  rw [answer?, found]
  cases stage with
  | answered answer => exact absurd rfl (pending answer)
  | _ => rfl

theorem answer?_of_getElem? {other : SharedBinding} {call : Nat}
    (same : other.calls[call]? = shared.calls[call]?) : other.answer? call = shared.answer? call := by
  rw [answer?, answer?, same]

/-- A served call is told what one thread would tell it. -/
theorem answer?_serve_self (found : shared.calls[id]? = some ⟨request, stage⟩) :
    (shared.serve id request).answer? id = some (shared.binding.serve request).1 := by
  simp [answer?, serve, setStage, found]

theorem getElem?_setStage_ne {call : Nat} (apart : call ≠ id) :
    (shared.setStage id stage).calls[call]? = shared.calls[call]? :=
  List.getElem?_modify_ne _ _ (Ne.symm apart)

theorem request?_setStage (call : Nat) :
    (shared.setStage id stage).request? call = shared.request? call := by
  by_cases same : call = id
  · subst same
    simp only [request?, setStage, List.getElem?_modify_eq]
    cases shared.calls[call]? <;> rfl
  · rw [request?, getElem?_setStage_ne same, request?]

/-- A call that begins is not over. -/
theorem answer?_begin (call : Nat) :
    (⟨shared.binding, shared.calls ++ [⟨request, .fresh⟩],
      .began shared.calls.length :: shared.journal⟩ : SharedBinding).answer? call =
        shared.answer? call := by
  by_cases begun : call < shared.calls.length
  · exact answer?_of_getElem? (List.getElem?_append_left begun)
  · have beyond : shared.calls.length ≤ call := Nat.le_of_not_lt begun
    rw [answer?, answer?, List.getElem?_append_right beyond, List.getElem?_eq_none beyond]
    cases call - shared.calls.length <;> rfl

/-- A call that misses is not over. -/
theorem answer?_miss (found : shared.calls[id]? = some ⟨request, .fresh⟩) (call : Nat) :
    (shared.setStage id .missed).answer? call = shared.answer? call := by
  by_cases same : call = id
  · subst same
    rw [answer?_eq_none found (by simp)]
    simp [answer?, setStage, found]
  · exact answer?_of_getElem? (getElem?_setStage_ne same)

/-- A call that is over had begun. -/
theorem lt_of_answer? {call : Nat} (answered : (shared.answer? call).isSome = true) :
    call < shared.calls.length := by
  by_contra beyond
  rw [answer?, List.getElem?_eq_none (Nat.le_of_not_lt beyond)] at answered
  cases answered

end

/-- The answers after a move: those that were given before stay. -/
theorem Move.answer? {before after : SharedBinding} (move : Move before after) {call : Nat}
    {answer : BindingAnswer} (told : before.answer? call = some answer) :
    after.answer? call = some answer := by
  have begun : call < before.calls.length := lt_of_answer? (by rw [told]; rfl)
  have kept {id : Nat} {request : BindingRequest} {stage next : BindingStage}
      (found : before.calls[id]? = some ⟨request, stage⟩)
      (pending : ∀ answer, stage ≠ .answered answer) :
      (before.setStage id next).answer? call = some answer := by
    rw [← told]
    refine answer?_of_getElem? (getElem?_setStage_ne ?_)
    rintro rfl
    rw [answer?_eq_none found pending] at told
    cases told
  cases move with
  | begin request =>
    rw [← told]
    exact answer?_of_getElem? (List.getElem?_append_left begun)
  | miss id request found => exact kept found (by simp)
  | serve id request stage found pending => exact kept found pending

/-! ### The order of the calls -/

/-- The calls that are over, in the order in which they ended. -/
def order (shared : SharedBinding) : List Nat := (shared.journal.filterMap (·.ended?)).reverse

theorem mem_order {shared : SharedBinding} {call : Nat} :
    call ∈ shared.order ↔ .ended call ∈ shared.journal := by
  rw [order, List.mem_reverse, List.mem_filterMap]
  constructor
  · rintro ⟨event, member, ended⟩
    exact BindingEvent.ended?_eq_some ended ▸ member
  · exact fun member => ⟨_, member, rfl⟩

/-- Nothing is written of a call after it ended. -/
def Timely (journal : List BindingEvent) : Prop :=
  journal.Pairwise fun later earlier =>
    ∀ call, earlier = .ended call → later ≠ .began call ∧ later ≠ .ended call

/-- The calls that are over were served one after another, in the order in which they ended. -/
structure Sequential (start : Binding) (shared : SharedBinding) : Prop where
  timely : Timely shared.journal
  ended : ∀ call, .ended call ∈ shared.journal ↔ (shared.answer? call).isSome = true
  served : ∃ requests : List BindingRequest,
    shared.order.map shared.request? = requests.map some ∧
      shared.order.map shared.answer? = (start.serveAll requests).1.map some ∧
      shared.binding = (start.serveAll requests).2

theorem Sequential.new (start : Binding) : Sequential start (SharedBinding.new start) :=
  ⟨List.Pairwise.nil, fun _ => by simp [SharedBinding.new, SharedBinding.answer?], [], rfl, rfl, rfl⟩

section

variable {start : Binding} {before after : SharedBinding}

/-- A step that serves nobody leaves the order as it is. -/
theorem Sequential.of_same_answers (sequential : Sequential start before)
    (binding : after.binding = before.binding) (timely : Timely after.journal)
    (ended : ∀ call, .ended call ∈ after.journal ↔ .ended call ∈ before.journal)
    (order : after.order = before.order)
    (requests : ∀ call < before.calls.length, after.request? call = before.request? call)
    (answers : ∀ call, after.answer? call = before.answer? call) : Sequential start after := by
  obtain ⟨_, endedBefore, served, asked, told, bindingBefore⟩ := sequential
  refine ⟨timely, fun call => ?_, served, ?_, ?_, binding.trans bindingBefore⟩
  · rw [ended, answers]
    exact endedBefore call
  · rw [order, ← asked]
    refine List.map_congr_left fun call member => requests call (lt_of_answer? ?_)
    exact (endedBefore call).mp (mem_order.mp member)
  · rw [order, ← told]
    exact List.map_congr_left fun call _ => answers call

theorem mem_marks {binding : Binding} {id : Nat} {request : BindingRequest} {event : BindingEvent}
    (member : event ∈ marks binding id request) : event = .loaded id ∨ event = .cleared id := by
  cases request <;> cases isBound : binding.isBound <;> simp_all [marks]

theorem ended_notMem_marks {binding : Binding} {id : Nat} {request : BindingRequest} (call : Nat) :
    BindingEvent.ended call ∉ marks binding id request :=
  fun member => by rcases mem_marks member with same | same <;> cases same

theorem order_serve (id : Nat) (request : BindingRequest) :
    (before.serve id request).order = before.order ++ [id] := by
  have unmarked : (marks before.binding id request).filterMap (·.ended?) = [] := by
    refine List.filterMap_eq_nil_iff.mpr fun event member => ?_
    rcases mem_marks member with rfl | rfl <;> rfl
  have ended : (before.serve id request).journal.filterMap (·.ended?) =
      id :: before.journal.filterMap (·.ended?) := by
    show id :: (marks before.binding id request ++ before.journal).filterMap (·.ended?) = _
    rw [List.filterMap_append, unmarked, List.nil_append]
  rw [order, ended, List.reverse_cons]
  rfl

/-- A call that is served comes behind all that were served before. -/
theorem Sequential.serve (sequential : Sequential start before) {id : Nat}
    {request : BindingRequest} {stage : BindingStage}
    (found : before.calls[id]? = some ⟨request, stage⟩) (pending : ∀ answer, stage ≠ .answered answer) :
    Sequential start (before.serve id request) := by
  obtain ⟨timely, ended, requests, asked, told, binding⟩ := sequential
  have unanswered : before.answer? id = none := answer?_eq_none found pending
  have unended : .ended id ∉ before.journal := by rw [ended, unanswered]; simp
  have others (call : Nat) (apart : call ≠ id) :
      (before.serve id request).answer? call = before.answer? call :=
    answer?_of_getElem? (getElem?_setStage_ne apart)
  have inOrder (call : Nat) (member : call ∈ before.order) : call ≠ id := by
    rintro rfl
    exact unended (mem_order.mp member)
  refine ⟨?_, fun call => ?_, requests ++ [request], ?_, ?_, ?_⟩
  · refine List.pairwise_cons.mpr ⟨?_, List.pairwise_append.mpr ⟨?_, timely, ?_⟩⟩
    · rintro event member call rfl
      rcases List.mem_append.mp member with marked | written
      · exact absurd marked (ended_notMem_marks call)
      · refine ⟨by simp, ?_⟩
        rintro same
        cases same
        exact unended written
    · refine List.pairwise_of_forall_mem_list fun _ _ event marked call same => ?_
      exact absurd (same ▸ marked) (ended_notMem_marks call)
    · rintro event marked _ _ call rfl
      rcases mem_marks marked with rfl | rfl <;> simp
  · by_cases same : call = id
    · subst same
      rw [answer?_serve_self found]
      exact iff_of_true List.mem_cons_self rfl
    · rw [others call same, ← ended]
      simp [SharedBinding.serve, same, ended_notMem_marks]
  · rw [order_serve, List.map_append, List.map_append, ← asked]
    refine congrArg₂ _ (List.map_congr_left fun call _ => request?_setStage call) ?_
    rw [List.map_singleton, List.map_singleton]
    exact congrArg (fun former => [former]) ((request?_setStage id).trans (by rw [request?, found]; rfl))
  · rw [order_serve, Binding.serveAll_concat, List.map_append, List.map_append, ← told, ← binding]
    refine congrArg₂ _ (List.map_congr_left fun call member => others call (inOrder call member)) ?_
    rw [List.map_singleton, List.map_singleton, answer?_serve_self found]
  · rw [Binding.serveAll_concat, ← binding]
    rfl

theorem Sequential.move (sequential : Sequential start before) (move : Move before after) :
    Sequential start after := by
  cases move with
  | begin request =>
    refine sequential.of_same_answers rfl ?_ (fun call => by simp) rfl (fun call begun => ?_)
      answer?_begin
    · refine List.pairwise_cons.mpr ⟨?_, sequential.timely⟩
      rintro event written call rfl
      refine ⟨?_, by simp⟩
      have begun : call < before.calls.length := lt_of_answer? ((sequential.ended call).mp written)
      simp only [ne_eq, BindingEvent.began.injEq]
      omega
    · rw [request?, request?, List.getElem?_append_left begun]
  | miss id request found =>
    exact sequential.of_same_answers rfl sequential.timely (fun _ => Iff.rfl) rfl
      (fun call _ => request?_setStage call) (answer?_miss found)
  | serve id request stage found pending => exact sequential.serve found pending

end

theorem Reachable.sequential {start : Binding} {shared : SharedBinding}
    (reached : Reachable start shared) : Sequential start shared := by
  induction reached with
  | new => exact .new start
  | step reached taken inductionHypothesis => exact inductionHypothesis.move (step?_move taken)

/-- Who was over before another one began was served before it. -/
theorem Sequential.idxOf_lt {start : Binding} {shared : SharedBinding}
    (sequential : Sequential start shared) {first second : Nat}
    (precedes : shared.Precedes first second) :
    shared.order.idxOf first < shared.order.idxOf second := by
  obtain ⟨later, between, earlier, journal⟩ := precedes
  -- Everything that ended by the time the second call began.
  let since := (between ++ BindingEvent.ended first :: earlier).filterMap (·.ended?)
  have split : shared.order = since.reverse ++ (later.filterMap (·.ended?)).reverse := by
    simp [order, journal, since, BindingEvent.ended?]
  have firstSince : first ∈ since.reverse := by simp [since, BindingEvent.ended?]
  have secondSince : second ∉ since.reverse := by
    intro member
    obtain ⟨event, written, ended⟩ := List.mem_filterMap.mp (List.mem_reverse.mp member)
    have timely := sequential.timely
    rw [Timely, journal, List.append_assoc, List.cons_append] at timely
    obtain ⟨begun, _⟩ := List.pairwise_cons.mp (List.pairwise_append.mp timely).2.1
    exact (begun event written second (BindingEvent.ended?_eq_some ended)).1 rfl
  rw [split, List.idxOf_append_of_mem firstSince, List.idxOf_append_of_notMem secondSince]
  exact Nat.lt_of_lt_of_le (List.idxOf_lt_length_of_mem firstSince) (Nat.le_add_right _ _)

theorem Sequential.linearizes {start : Binding} {shared : SharedBinding}
    (sequential : Sequential start shared) : Linearizes start shared shared.order := by
  obtain ⟨requests, asked, told, _⟩ := sequential.served
  refine ⟨?_, fun call => mem_order.trans (sequential.ended call),
    fun _ _ precedes _ _ => sequential.idxOf_lt precedes, requests, asked, told⟩
  refine List.pairwise_reverse.mpr (List.pairwise_filterMap.mpr ?_)
  refine sequential.timely.imp fun {later earlier} apart call ended former endedFormer same => ?_
  subst same
  exact (apart former (BindingEvent.ended?_eq_some endedFormer)).2
    (BindingEvent.ended?_eq_some ended)

/-! ### The slot over time -/

/-- What is in the slot after what was written, the last first. The slot is filled when it is empty,
cleared when it is not, and whoever asks for the library gets what it holds. -/
inductive Holds (start : Option Bound) (answer? : Nat → Option BindingAnswer) :
    List BindingEvent → Option Bound → Prop where
  | nil : Holds start answer? [] start
  | began {journal : List BindingEvent} {slot : Option Bound} (call : Nat)
      (held : Holds start answer? journal slot) : Holds start answer? (.began call :: journal) slot
  | loaded {journal : List BindingEvent} (call : Nat) (bound : Bound)
      (held : Holds start answer? journal none) :
      Holds start answer? (.loaded call :: journal) (some bound)
  | cleared {journal : List BindingEvent} {bound : Bound} (call : Nat)
      (held : Holds start answer? journal (some bound))
      (told : answer? call = some (.cleared true)) :
      Holds start answer? (.cleared call :: journal) none
  | ended {journal : List BindingEvent} {slot : Option Bound} (call : Nat)
      (answer : BindingAnswer) (held : Holds start answer? journal slot)
      (told : answer? call = some answer) (seen : ∀ bound, answer = .bound bound → slot = some bound) :
      Holds start answer? (.ended call :: journal) slot

section

variable {start : Option Bound} {answer? more? : Nat → Option BindingAnswer}
  {journal : List BindingEvent} {slot : Option Bound}

theorem Holds.mono (holds : Holds start answer? journal slot)
    (kept : ∀ call answer, answer? call = some answer → more? call = some answer) :
    Holds start more? journal slot := by
  induction holds with
  | nil => exact .nil
  | began call _ inductionHypothesis => exact .began call inductionHypothesis
  | loaded call bound _ inductionHypothesis => exact .loaded call bound inductionHypothesis
  | cleared call _ told inductionHypothesis =>
    exact .cleared call inductionHypothesis (kept call _ told)
  | ended call answer _ told seen inductionHypothesis =>
    exact .ended call answer inductionHypothesis (kept call _ told) seen

/-- What was in the slot at an earlier time. -/
theorem Holds.earlier {later : List BindingEvent}
    (holds : Holds start answer? (later ++ journal) slot) :
    ∃ former, Holds start answer? journal former := by
  induction later generalizing slot with
  | nil => exact ⟨slot, holds⟩
  | cons event rest inductionHypothesis => cases holds <;> exact inductionHypothesis ‹_›

/-- While the slot is not cleared, it is filled once at most, and everybody who asks for the library
gets what the slot holds in the end. -/
theorem Holds.within {within earlier : List BindingEvent}
    (holds : Holds start answer? (within ++ earlier) slot)
    (kept : ∀ event ∈ within, event.isCleared = false) :
    within.countP (·.isLoaded) ≤ 1 ∧ (slot = none → within.countP (·.isLoaded) = 0) ∧
      ∀ call bound, .ended call ∈ within → answer? call = some (.bound bound) →
        slot = some bound := by
  induction within generalizing slot with
  | nil => simp
  | cons event rest inductionHypothesis =>
    obtain ⟨first, keptRest⟩ := List.forall_mem_cons.mp kept
    cases holds with
    | began call held =>
      rw [List.countP_cons_of_neg Bool.false_ne_true]
      obtain ⟨once, never, same⟩ := inductionHypothesis held keptRest
      exact ⟨once, never, by simpa using same⟩
    | loaded call bound held =>
      rw [List.countP_cons_of_pos rfl]
      obtain ⟨once, never, same⟩ := inductionHypothesis held keptRest
      refine ⟨Nat.le_of_eq (congrArg (· + 1) (never rfl)), by simp, ?_⟩
      intro other told written answered
      have before : .ended other ∈ rest := by simpa using written
      cases same other told before answered
    | cleared call held told => cases first
    | ended call answer held told seen =>
      rw [List.countP_cons_of_neg Bool.false_ne_true]
      obtain ⟨once, never, same⟩ := inductionHypothesis held keptRest
      refine ⟨once, never, fun other bound written answered => ?_⟩
      rcases List.mem_cons.mp written with now | before
      · cases now
        exact seen bound (Option.some.inj (told.symm.trans answered))
      · exact same other bound before answered

/-- While a filled slot is not cleared, no loader runs. -/
theorem Holds.filled {within earlier : List BindingEvent}
    (holds : Holds start answer? (within ++ earlier) slot)
    (kept : ∀ event ∈ within, event.isCleared = false) :
    ∃ former, Holds start answer? earlier former ∧
      ∀ bound, former = some bound →
        slot = some bound ∧ ∀ event ∈ within, event.isLoaded = false := by
  induction within generalizing slot with
  | nil => exact ⟨slot, holds, fun _ same => ⟨same, by simp⟩⟩
  | cons event rest inductionHypothesis =>
    obtain ⟨first, keptRest⟩ := List.forall_mem_cons.mp kept
    have goOn (held : Holds start answer? (rest ++ earlier) slot) (unloaded : event.isLoaded = false) :
        ∃ former, Holds start answer? earlier former ∧
          ∀ bound, former = some bound →
            slot = some bound ∧ ∀ written ∈ event :: rest, written.isLoaded = false := by
      obtain ⟨former, heldFormer, stays⟩ := inductionHypothesis held keptRest
      refine ⟨former, heldFormer, fun bound same => ⟨(stays bound same).1, ?_⟩⟩
      exact List.forall_mem_cons.mpr ⟨unloaded, (stays bound same).2⟩
    cases holds with
    | began call held => exact goOn held rfl
    | loaded call bound held =>
      obtain ⟨former, heldFormer, stays⟩ := inductionHypothesis held keptRest
      exact ⟨former, heldFormer, fun bound same => absurd (stays bound same).1 (by simp)⟩
    | cleared call held told => cases first
    | ended call answer held told seen => exact goOn held rfl

/-- Whoever cleared the slot is told so. -/
theorem Holds.told_of_cleared (holds : Holds start answer? journal slot) {call : Nat}
    (written : .cleared call ∈ journal) : answer? call = some (.cleared true) := by
  induction holds with
  | nil => cases written
  | began _ _ inductionHypothesis => exact inductionHypothesis (by simpa using written)
  | loaded _ _ _ inductionHypothesis => exact inductionHypothesis (by simpa using written)
  | cleared other _ told inductionHypothesis =>
    rcases List.mem_cons.mp written with now | before
    · cases now
      exact told
    · exact inductionHypothesis before
  | ended _ _ _ _ _ inductionHypothesis => exact inductionHypothesis (by simpa using written)

end

/-! ### The whole binding -/

theorem Move.holds {start : Option Bound} {before after : SharedBinding} (move : Move before after)
    (holds : Holds start before.answer? before.journal before.binding.slot) :
    Holds start after.answer? after.journal after.binding.slot := by
  have held : Holds start after.answer? before.journal before.binding.slot :=
    holds.mono fun _ _ told => move.answer? told
  cases move with
  | begin request => exact .began _ held
  | miss id request found => exact held
  | serve id request stage found pending =>
    have told := answer?_serve_self found
    obtain ⟨⟨slot, nextId⟩, calls, journal⟩ := before
    cases request with
    | get load =>
      cases slot with
      | none => exact .ended id _ (.loaded id (load nextId) held) told fun _ same => by cases same; rfl
      | some bound => exact .ended id _ held told fun _ same => by cases same; rfl
    | teardown =>
      cases slot with
      | none => exact .ended id _ held told fun _ same => by cases same
      | some bound => exact .ended id _ (.cleared id held told) told fun _ same => by cases same
    | isBound => exact .ended id _ held told fun _ same => by cases same

theorem Reachable.holds {start : Binding} {shared : SharedBinding}
    (reached : Reachable start shared) :
    Holds start.slot shared.answer? shared.journal shared.binding.slot := by
  induction reached with
  | new => exact .nil
  | step reached taken inductionHypothesis => exact (step?_move taken).holds inductionHypothesis

/-- A step empties the slot exactly if a call ends in it that is told so. -/
theorem Move.empties_iff {before after : SharedBinding} (move : Move before after) :
    (before.binding.isBound = true ∧ after.binding.isBound = false) ↔
      ∃ call, before.answer? call = none ∧ after.answer? call = some (.cleared true) := by
  -- A step in which nobody is told anything leaves the slot as it is.
  have idle (binding : after.binding = before.binding)
      (answers : ∀ call, after.answer? call = before.answer? call) :
      (before.binding.isBound = true ∧ after.binding.isBound = false) ↔
        ∃ call, before.answer? call = none ∧ after.answer? call = some (.cleared true) := by
    refine iff_of_false ?_ ?_
    · rw [binding]
      rintro ⟨isBound, isEmpty⟩
      rw [isBound] at isEmpty
      cases isEmpty
    · rintro ⟨call, untold, told⟩
      rw [answers, untold] at told
      cases told
  cases move with
  | begin request => exact idle rfl answer?_begin
  | miss id request found => exact idle rfl (answer?_miss found)
  | serve id request stage found pending =>
    have told : (∃ call, before.answer? call = none ∧
        (before.serve id request).answer? call = some (.cleared true)) ↔
          (before.binding.serve request).1 = .cleared true := by
      constructor
      · rintro ⟨call, untold, cleared⟩
        by_cases same : call = id
        · subst same
          exact Option.some.inj ((answer?_serve_self found).symm.trans cleared)
        · rw [← answer?_of_getElem? (getElem?_setStage_ne same)] at untold
          exact absurd (untold.symm.trans cleared) (by simp)
      · exact fun cleared =>
          ⟨id, answer?_eq_none found pending, (answer?_serve_self found).trans (congrArg _ cleared)⟩
    rw [told]
    obtain ⟨⟨slot, nextId⟩, calls, journal⟩ := before
    cases request <;> cases slot <;> simp [SharedBinding.serve, Binding.serve, Binding.isBound,
      Binding.getOrBind, Binding.look, Binding.fill, Binding.teardown]

/-- What all callers see of the slot between two clearings, and of the clearings. -/
structure OneSlot (shared : SharedBinding) : Prop where
  /-- Between two clearings one loader runs at most. -/
  loads : ∀ later within earlier, shared.journal = later ++ within ++ earlier →
    (∀ event ∈ within, event.isCleared = false) → within.countP (·.isLoaded) ≤ 1
  /-- What one caller was told, a library or the reason why there is none, all callers are told, and
  no loader runs, until the slot is cleared. -/
  agree : ∀ later within earlier call bound,
    shared.journal = later ++ within ++ .ended call :: earlier →
    shared.answer? call = some (.bound bound) → (∀ event ∈ within, event.isCleared = false) →
      (∀ event ∈ within, event.isLoaded = false) ∧
        ∀ other told, .ended other ∈ within → shared.answer? other = some (.bound told) →
          told = bound
  /-- Whoever cleared the slot is told so. -/
  cleared : ∀ call, .cleared call ∈ shared.journal → shared.answer? call = some (.cleared true)

theorem Holds.oneSlot {start : Option Bound} {shared : SharedBinding}
    (holds : Holds start shared.answer? shared.journal shared.binding.slot) : OneSlot shared := by
  refine ⟨fun later within earlier split kept => ?_,
    fun later within earlier call bound split answered kept => ?_,
    fun call written => holds.told_of_cleared written⟩
  · rw [split, List.append_assoc] at holds
    obtain ⟨_, held⟩ := holds.earlier
    exact (held.within kept).1
  · rw [split, List.append_assoc] at holds
    obtain ⟨slot, held⟩ := holds.earlier
    obtain ⟨former, heldFormer, stays⟩ := held.filled kept
    -- The call that was told saw what was in the slot by then.
    have seen : former = some bound := by
      cases heldFormer with
      | ended _ answer _ told seen =>
        exact seen bound (Option.some.inj (told.symm.trans answered))
    obtain ⟨filled, unloaded⟩ := stays bound seen
    refine ⟨unloaded, fun other told written answeredToo => ?_⟩
    have same := (held.within kept).2.2 other told written answeredToo
    exact Option.some.inj (same.symm.trans filled)

/-- Whatever many threads ask of the binding, and in which order they take their turns at the slot:
they get what one thread would have got that serves the calls in some order, in which whoever was
over before another one began comes first. Between two clearings of the slot one loader runs at
most, and all callers are told the same, be it a failure; and the slot is emptied exactly in the
steps in which a caller is told that it cleared it. -/
theorem reachable_linearizes {start : Binding} {shared : SharedBinding}
    (reached : Reachable start shared) :
    (∃ order, Linearizes start shared order) ∧ OneSlot shared ∧
      ∀ step after, shared.step? step = some after →
        ((shared.binding.isBound = true ∧ after.binding.isBound = false) ↔
          ∃ call, shared.answer? call = none ∧ after.answer? call = some (.cleared true)) :=
  ⟨⟨shared.order, reached.sequential.linearizes⟩, reached.holds.oneSlot,
    fun _ _ taken => (step?_move taken).empties_iff⟩

/-- What steps lead to is reachable. -/
theorem Reachable.foldlM {start : Binding} {shared after : SharedBinding}
    {steps : List BindingStep} (reached : Reachable start shared)
    (ran : steps.foldlM SharedBinding.step? shared = some after) : Reachable start after := by
  induction steps generalizing shared with
  | nil => exact Option.some.inj ran ▸ reached
  | cons step rest inductionHypothesis =>
    obtain ⟨between, taken, ranRest⟩ := Option.bind_eq_some_iff.mp ran
    exact inductionHypothesis (reached.step taken) ranRest

/-- A loader that finds no library, and one that finds a library. -/
def failingLoad : LibraryId → Bound := fun _ => .error (.libraryLoad "absent" "no such file")
def linkedLoad : LibraryId → Bound := fun id => .ok ⟨id, "linked", abiVersion⟩

/-- Two callers miss the library. The first one fails to load it, which a third caller is told too;
then the slot is cleared between the two looks of the second one, which loads it again. -/
def tornSteps : List BindingStep :=
  [.begin (.get failingLoad), .begin (.get linkedLoad), .look 0, .look 1, .change 0,
    .begin .teardown, .begin (.get linkedLoad), .look 3, .change 2, .change 1,
    .begin .isBound, .look 4]

theorem reachable_linearizes_torn :
    ∃ shared, tornSteps.foldlM SharedBinding.step? (new .empty) = some shared ∧
      [0, 3, 2, 1, 4].map shared.answer? =
        [some (.bound (failingLoad 0)), some (.bound (failingLoad 0)), some (.cleared true),
          some (.bound (linkedLoad 1)), some (.isBound true)] ∧
      (∃ order, Linearizes .empty shared order) ∧ OneSlot shared := by
  obtain ⟨shared, ran⟩ : ∃ shared,
      tornSteps.foldlM SharedBinding.step? (new .empty) = some shared := ⟨_, rfl⟩
  have told : [0, 3, 2, 1, 4].map shared.answer? =
      [some (.bound (failingLoad 0)), some (.bound (failingLoad 0)), some (.cleared true),
        some (.bound (linkedLoad 1)), some (.isBound true)] := by
    cases ran
    rfl
  obtain ⟨linearizes, oneSlot, _⟩ := reachable_linearizes (Reachable.new.foldlM ran)
  exact ⟨shared, ran, told, linearizes, oneSlot⟩

end SharedBinding

end WalletBridge
