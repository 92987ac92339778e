/-
This file proves in which order an answer is read, converted and given back, access by access and
whatever the conversion does. A null is not touched. An error is read in full before its transit
struct is given back, and the payload beside it is not looked at. A payload is converted once, and
the transit struct is given back once the conversion is over, also when it failed or halted. The
payload is never given back here.

The conversion is arbitrary, so one thing has to be asked of it: that it leaves the transit struct
alone, to which it has no pointer. A conversion that calls the library again, and reads what it
answers in the same way, keeps to this by itself, to any depth.
-/

import WalletBridge.Host.TransitMemory
import WalletBridge.Host.Basic

namespace WalletBridge

variable {Value State Content Other : Type}

/-! ### Runs that tell what they did -/

namespace Traced

variable {Event : Type}

theorem pure_apply (content : Content) (state : State) :
    (Pure.pure content : Traced Event State Content) state = (.value content, state, []) := rfl

theorem bind_of_value {first : Traced Event State Content}
    {next : Content → Traced Event State Other} {state between : State} {content : Content}
    {events : List Event} (ended : first state = (.value content, between, events)) :
    (first >>= next) state =
      ((next content between).1, (next content between).2.1,
        events ++ (next content between).2.2) := by
  show Traced.bind first next state = _
  rw [Traced.bind, ended]

end Traced

/-! ### What an access is about -/

namespace Access

/-- The place that an access is about. -/
def place? : Access Value → Option Place
  | .read place _ => some place
  | .freed place _ => some place
  | _ => none

/-- Whether an access is about a place. -/
def touches (place : Place) (access : Access Value) : Bool := access.place? = some place

/-- Whether an access is about a place that is not live. -/
def isStray : Access Value → Bool
  | .read _ wasLive => !wasLive
  | .freed _ wasLive => !wasLive
  | _ => false

variable {place other : Place} {wasLive : Bool} {value : Value}

@[simp] theorem touches_read :
    touches place (.read other wasLive : Access Value) = decide (other = place) := by
  simp [touches, place?]

@[simp] theorem touches_freed :
    touches place (.freed other wasLive : Access Value) = decide (other = place) := by
  simp [touches, place?]

@[simp] theorem touches_entered : touches place (.entered value) = false := rfl

@[simp] theorem touches_left : touches place (.left : Access Value) = false := rfl

@[simp] theorem isStray_read : isStray (.read place wasLive : Access Value) = !wasLive := rfl

@[simp] theorem isStray_freed : isStray (.freed place wasLive : Access Value) = !wasLive := rfl

@[simp] theorem isStray_entered : isStray (.entered value) = false := rfl

@[simp] theorem isStray_left : isStray (.left : Access Value) = false := rfl

theorem filter_of_untouched {accesses : List (Access Value)}
    (untouched : ∀ access ∈ accesses, access.touches place = false) :
    accesses.filter (·.touches place) = [] :=
  List.filter_eq_nil_iff.mpr fun access member => by
    rw [untouched access member]
    exact Bool.false_ne_true

end Access

namespace TransitMemory

/-- The accesses that read places in order. -/
def reads (memory : TransitMemory Value State) (places : List Place) : List (Access Value) :=
  places.map fun place => .read place (memory.live place)

/-- Places that are live are read without going astray. -/
theorem strays_reads {memory : TransitMemory Value State} {places : List Place}
    (live : ∀ place ∈ places, memory.live place = true) :
    (memory.reads places).filter (·.isStray) = [] := by
  rw [List.filter_eq_nil_iff, reads, List.forall_mem_map]
  intro place member
  rw [Access.isStray_read, live place member]
  exact Bool.false_ne_true

/-- Reading places touches no other place. -/
theorem untouched_reads (memory : TransitMemory Value State) {places : List Place} {place : Place}
    (absent : place ∉ places) :
    ∀ access ∈ memory.reads places, access.touches place = false := by
  rw [reads, List.forall_mem_map]
  intro other member
  rw [Access.touches_read]
  exact decide_eq_false fun same => absent (same ▸ member)

/-- The places of an answer behind its transit struct are no transit structs. -/
theorem transit_not_mem_error (memory : TransitMemory Value State) (address other : Address) :
    Place.transit other ∉ ((memory.transits address).error.map memory.errorPlaces).getD [] := by
  rcases (memory.transits address).error with _ | found
  · exact List.not_mem_nil
  · simp [errorPlaces]

/-- An answer has one transit struct, its own. -/
theorem transit_mem_answerPlaces {memory : TransitMemory Value State} {address other : Address} :
    Place.transit other ∈ memory.answerPlaces address ↔ other = address := by
  rw [answerPlaces, List.mem_cons, Place.transit.injEq]
  exact or_iff_left (memory.transit_not_mem_error address other)

/-- Reading an answer in full touches its transit struct once. -/
theorem touched_reads (memory : TransitMemory Value State) (address : Address) :
    (memory.reads (memory.answerPlaces address)).filter (·.touches (.transit address)) =
      [.read (.transit address) (memory.live (.transit address))] := by
  have behind := memory.untouched_reads (memory.transit_not_mem_error address address)
  rw [answerPlaces, reads, List.map_cons, List.filter_cons_of_pos (by simp)]
  exact congrArg (List.cons _) (Access.filter_of_untouched behind)

end TransitMemory

/-! ### Reading an error -/

namespace Reader

theorem lossyText_apply (address : Option Address) (memory : TransitMemory Value State) :
    lossyText address memory =
      (.value (copyLossy (memory.string address)), memory,
        memory.reads (address.toList.map .text)) := by
  cases address with
  | none => rfl
  | some address => rfl

/-- An error is read in full, each of its places once, and memory stays as it is. -/
theorem error_apply (address : Address) (memory : TransitMemory Value State) :
    error address memory =
      (.value (readError (memory.rawError address)), memory,
        memory.reads (memory.errorPlaces address)) := by
  have code := lossyText_apply (memory.errors address).code memory
  have message := lossyText_apply (memory.errors address).message memory
  have slots : errorSlots address memory =
      (.value (memory.errors address), memory, memory.reads [.error address]) := rfl
  rw [error, Traced.bind_of_value slots, Traced.bind_of_value code, Traced.bind_of_value message,
    Traced.pure_apply]
  simp only [TransitMemory.errorPlaces, TransitMemory.reads, List.map_append, List.map_cons,
    List.map_nil, List.singleton_append, List.append_nil]
  rfl

/-! ### Reading an answer -/

/-- Under the guard, an answer with an error is read in full, and its conversion is not asked. -/
theorem contents_of_error (convert : Value → Reader Value State Content) {address found : Address}
    {memory : TransitMemory Value State} (set : (memory.transits address).error = some found) :
    contents convert address memory =
      (.failure (readError (memory.rawError found)), memory,
        memory.reads (memory.answerPlaces address)) := by
  have slots : transitSlots address memory =
      (.value (memory.transits address), memory, memory.reads [.transit address]) := rfl
  have places : memory.answerPlaces address = .transit address :: memory.errorPlaces found := by
    rw [TransitMemory.answerPlaces, set]
    rfl
  rw [contents, Traced.bind_of_value slots]
  simp only [set]
  rw [Traced.bind_of_value (error_apply found memory), places]
  simp only [Traced.fail, TransitMemory.reads, List.map_cons, List.map_nil, List.append_nil,
    List.singleton_append]

theorem answerPlaces_of_no_error {address : Address} {memory : TransitMemory Value State}
    (unset : (memory.transits address).error = none) :
    memory.answerPlaces address = [.transit address] := by
  rw [TransitMemory.answerPlaces, unset]
  rfl

/-- Under the guard, the payload of an answer without an error is converted, once. -/
theorem contents_of_value (convert : Value → Reader Value State Content) {address : Address}
    {memory : TransitMemory Value State} (unset : (memory.transits address).error = none) :
    contents convert address memory =
      ((convert (memory.transits address).value memory).1,
        (convert (memory.transits address).value memory).2.1,
        memory.reads (memory.answerPlaces address) ++
          .entered (memory.transits address).value ::
            ((convert (memory.transits address).value memory).2.2 ++ [.left])) := by
  have slots : transitSlots address memory =
      (.value (memory.transits address), memory, memory.reads [.transit address]) := rfl
  rw [contents, Traced.bind_of_value slots, answerPlaces_of_no_error unset]
  simp only [unset]
  rfl

/-- What an answer with an error is read as. -/
theorem answer_of_error (operation : String)
    (free : Address → TransitMemory Value State → TransitMemory Value State)
    (convert : Value → Reader Value State Content) {address found : Address}
    {memory : TransitMemory Value State} (set : (memory.transits address).error = some found) :
    answer operation (some address) free convert memory =
      (.failure (readError (memory.rawError found)), free address memory,
        memory.reads (memory.answerPlaces address) ++
          [.freed (.transit address) (memory.live (.transit address))]) := by
  show Traced.guarded (contents convert address) (freeing free address) memory = _
  rw [Traced.guarded, contents_of_error convert set]
  rfl

/-- What an answer without an error is read as. -/
theorem answer_of_value (operation : String)
    (free : Address → TransitMemory Value State → TransitMemory Value State)
    (convert : Value → Reader Value State Content) {address : Address}
    {memory : TransitMemory Value State} (unset : (memory.transits address).error = none) :
    answer operation (some address) free convert memory =
      let value := (memory.transits address).value
      let (ending, left, inner) := convert value memory
      (ending, free address left,
        memory.reads (memory.answerPlaces address) ++ .entered value :: inner ++
          [.left, .freed (.transit address) (left.live (.transit address))]) := by
  show Traced.guarded (contents convert address) (freeing free address) memory = _
  rw [Traced.guarded, contents_of_value convert unset]
  simp only [freeing, List.append_assoc, List.cons_append, List.nil_append]

/-- Without the accesses, this is the reading of the answer that lies at the address. -/
theorem answer_run (operation : String) (raw : Option Address)
    (free : Address → TransitMemory Value State → TransitMemory Value State)
    (convert : Value → Reader Value State Content) (memory : TransitMemory Value State) :
    (answer operation raw free convert).run memory =
      decodeWith operation (memory.reply raw) (raw.elim id free)
        (fun value => (convert value).run) memory := by
  cases raw with
  | none => rfl
  | some address =>
    rcases slot : (memory.transits address).error with _ | found
    · rw [Traced.run, answer_of_value operation free convert slot]
      simp only [TransitMemory.reply, Option.map_some, slot, Option.map_none]
      rfl
    · rw [Traced.run, answer_of_error operation free convert slot]
      simp only [TransitMemory.reply, Option.map_some, slot]
      rfl

end Reader

/-! ### What is asked of the others -/

/-- Whether an answer is there: its transit struct, and its error with its strings when it has
one. -/
def TransitMemory.Holds (memory : TransitMemory Value State) (address : Address) : Prop :=
  ∀ place ∈ memory.answerPlaces address, memory.live place = true

theorem TransitMemory.Holds.transit {memory : TransitMemory Value State} {address : Address}
    (held : memory.Holds address) : memory.live (.transit address) = true :=
  held _ (transit_mem_answerPlaces.mpr rfl)

/-- A free function for transit structs gives back the answer and nothing else. -/
structure FreesAnswers (free : Address → TransitMemory Value State → TransitMemory Value State) :
    Prop where
  live : ∀ address memory, (free address memory).live = (memory.freeTransit address).live
  transits : ∀ address memory other, other ≠ address →
    (free address memory).transits other = memory.transits other

theorem freesAnswers_freeTransit :
    FreesAnswers (fun address memory => memory.freeTransit address :
      Address → TransitMemory Value State → TransitMemory Value State) where
  live _ _ := rfl
  transits _ _ _ _ := rfl

/-- What it is to leave a transit struct alone. -/
structure LeftAlone (address : Address) (memory after : TransitMemory Value State)
    (accesses : List (Access Value)) : Prop where
  live : after.live (.transit address) = memory.live (.transit address)
  transits : memory.live (.transit address) = true →
    after.transits address = memory.transits address
  untouched : memory.live (.transit address) = true →
    ∀ access ∈ accesses, access.touches (.transit address) = false

namespace LeftAlone

variable {address : Address} {memory between after : TransitMemory Value State}
  {accesses more : List (Access Value)}

/-- Accesses that do not change memory. -/
theorem still (untouched : ∀ access ∈ accesses, access.touches (.transit address) = false) :
    LeftAlone address memory memory accesses where
  live := rfl
  transits _ := rfl
  untouched _ := untouched

theorem trans (first : LeftAlone address memory between accesses)
    (second : LeftAlone address between after more) :
    LeftAlone address memory after (accesses ++ more) where
  live := second.live.trans first.live
  transits wasLive := (second.transits (first.live.trans wasLive)).trans (first.transits wasLive)
  untouched wasLive access member := by
    rcases List.mem_append.mp member with earlier | later
    · exact first.untouched wasLive access earlier
    · exact second.untouched (first.live.trans wasLive) access later

/-- Giving one answer back leaves the others alone. -/
theorem freed {free : Address → TransitMemory Value State → TransitMemory Value State}
    (frees : FreesAnswers free) {other : Address} (apart : address ≠ other) (wasLive : Bool) :
    LeftAlone address memory (free other memory) [.freed (.transit other) wasLive] where
  live := by
    have absent : Place.transit address ∉ memory.answerPlaces other :=
      fun member => apart (TransitMemory.transit_mem_answerPlaces.mp member)
    rw [frees.live]
    simp [TransitMemory.freeTransit, absent]
  transits _ := frees.transits other memory address apart
  untouched _ := by simp [Ne.symm apart]

end LeftAlone

/-- A reader leaves the transit structs alone that are there before it, and leaves no other
behind. -/
def LeavesAnswers (reader : Reader Value State Content) : Prop :=
  ∀ memory address, LeftAlone address memory (reader memory).2.1 (reader memory).2.2

/-- A native call makes a transit struct for its answer, if it has one, and leaves the others
alone. -/
structure HandsAnswer
    (call : TransitMemory Value State → Option Address × TransitMemory Value State) : Prop where
  fresh : ∀ memory address, (call memory).1 = some address →
    memory.live (.transit address) = false
  others : ∀ memory other, (call memory).1 ≠ some other →
    LeftAlone other memory (call memory).2 ([] : List (Access Value))

namespace Reader

variable {free : Address → TransitMemory Value State → TransitMemory Value State}
  {address : Address}

/-- After it was read, an answer is gone. -/
theorem answer_gone (operation : String) (convert : Value → Reader Value State Content)
    (frees : FreesAnswers free) (memory : TransitMemory Value State) :
    (answer operation (some address) free convert memory).2.1.live (.transit address) = false := by
  have gone (left : TransitMemory Value State) :
      (free address left).live (.transit address) = false := by
    rw [frees.live]
    simp [TransitMemory.freeTransit, TransitMemory.transit_mem_answerPlaces]
  exact gone _

/-- Reading an answer leaves the other answers alone if its conversion does. -/
theorem answer_others {convert : Value → Reader Value State Content} (operation : String)
    (frees : FreesAnswers free) (leaves : ∀ value, LeavesAnswers (convert value)) {other : Address}
    (apart : other ≠ address) (memory : TransitMemory Value State) :
    LeftAlone other memory (answer operation (some address) free convert memory).2.1
      (answer operation (some address) free convert memory).2.2 := by
  have absent : Place.transit other ∉ memory.answerPlaces address :=
    fun member => apart (TransitMemory.transit_mem_answerPlaces.mp member)
  have reads : LeftAlone other memory memory (memory.reads (memory.answerPlaces address)) :=
    .still (memory.untouched_reads absent)
  rcases slot : (memory.transits address).error with _ | found
  · rw [answer_of_value operation free convert slot]
    have alone := leaves (memory.transits address).value memory other
    rcases ended : convert (memory.transits address).value memory with ⟨ending, left, inner⟩
    rw [ended] at alone
    have entered : LeftAlone other memory memory [Access.entered (memory.transits address).value] :=
      .still (by simp)
    have done : LeftAlone other left left [(Access.left : Access Value)] :=
      .still (by simp)
    simp only [ended]
    exact (reads.trans (entered.trans alone)).trans (done.trans (.freed frees apart _))
  · rw [answer_of_error operation free convert slot]
    exact reads.trans (.freed frees apart _)

end Reader

namespace LeavesAnswers

/-- A reader that only ends, in whatever way. -/
theorem still {reader : Reader Value State Content}
    (same : ∀ memory, (reader memory).2 = (memory, [])) : LeavesAnswers reader := by
  intro memory address
  rw [same memory]
  exact .still fun access member => absurd member List.not_mem_nil

theorem bind {first : Reader Value State Content} {next : Content → Reader Value State Other}
    (leaves : LeavesAnswers first) (goesOn : ∀ content, LeavesAnswers (next content)) :
    LeavesAnswers (first >>= next) := by
  intro memory address
  have begun := leaves memory address
  rcases ended : first memory with ⟨_ | _ | _, between, accesses⟩
  case value content =>
    rw [ended] at begun
    rw [Traced.bind_of_value ended]
    exact begun.trans (goesOn content between address)
  -- Without a value nothing follows.
  all_goals
    rw [ended] at begun
    rw [show (first >>= next) memory = Traced.bind first next memory from rfl, Traced.bind, ended]
    exact begun

/-- A call of the library whose answer is read. -/
theorem asking {call : TransitMemory Value State → Option Address × TransitMemory Value State}
    {free : Address → TransitMemory Value State → TransitMemory Value State}
    {convert : Value → Reader Value State Content} (operation : String) (hands : HandsAnswer call)
    (frees : FreesAnswers free) (leaves : ∀ value, LeavesAnswers (convert value)) :
    LeavesAnswers (Reader.asking call operation free convert) := by
  intro memory other
  have fresh := hands.fresh memory
  have others := hands.others memory other
  rw [Reader.asking]
  rcases handed : call memory with ⟨_ | address, laid⟩
  · rw [handed] at others
    exact others nofun
  · rw [handed] at fresh others
    by_cases own : other = address
    · subst own
      -- The address was free before the call and is free again: nothing is left behind.
      have wasDead : memory.live (.transit other) = false := fresh other rfl
      exact
        { live := (Reader.answer_gone operation convert frees laid).trans wasDead.symm
          transits := fun wasLive => absurd wasLive (by rw [wasDead]; exact Bool.false_ne_true)
          untouched := fun wasLive => absurd wasLive (by rw [wasDead]; exact Bool.false_ne_true) }
    · have before := others fun same => own (Option.some.inj same).symm
      exact before.trans (Reader.answer_others operation frees leaves own laid)

end LeavesAnswers

/-! ### A conversion that calls the library -/

/-- A call whose answer lies at a fixed address, and is null while that address is taken. -/
def TransitMemory.answerAt (address : Address) (value : Value)
    (memory : TransitMemory Value State) : Option Address × TransitMemory Value State :=
  if memory.live (.transit address) then (none, memory)
  else
    (some address,
      { memory with
        transits := fun other => if other = address then ⟨value, none⟩ else memory.transits other
        live := fun place => memory.live place || place = .transit address })

theorem handsAnswer_answerAt (address : Address) (value : Value) :
    HandsAnswer fun memory : TransitMemory Value State => memory.answerAt address value where
  fresh memory other handed := by
    by_cases taken : memory.live (.transit address) = true
    · rw [TransitMemory.answerAt, if_pos taken] at handed
      cases handed
    · rw [TransitMemory.answerAt, if_neg taken] at handed
      cases handed
      exact Bool.eq_false_iff.mpr taken
  others memory other apart := by
    by_cases taken : memory.live (.transit address) = true
    · rw [TransitMemory.answerAt, if_pos taken]
      exact .still fun access member => absurd member List.not_mem_nil
    · rw [TransitMemory.answerAt, if_neg taken] at apart ⊢
      have away : other ≠ address := fun same => apart (congrArg some same.symm)
      exact
        { live := by simp [away]
          transits := fun _ => if_neg away
          untouched := fun _ access member => absurd member List.not_mem_nil }

/-- A memory in which one answer waits, with a number as its payload. -/
def TransitMemory.waiting (address : Address) (value : Nat) : TransitMemory Nat Unit :=
  { transits := fun _ => ⟨value, none⟩
    errors := fun _ => ⟨none, none⟩
    texts := fun _ => []
    live := fun place => place = .transit address
    rest := () }

/-- A conversion that calls the library, reads what it answers, and then halts. -/
def Reader.haltingBehindCall (_ : Nat) : Reader Nat Unit Unit := do
  let _ ← Reader.asking (TransitMemory.answerAt 8 5) "inner"
    (fun address memory => memory.freeTransit address) Traced.pure
  Traced.halt ⟨"conversion failed"⟩

theorem Reader.leavesAnswers_haltingBehindCall (value : Nat) :
    LeavesAnswers (Reader.haltingBehindCall value) :=
  LeavesAnswers.bind
    (LeavesAnswers.asking "inner" (handsAnswer_answerAt 8 5) freesAnswers_freeTransit
      fun _ => LeavesAnswers.still fun _ => rfl)
    fun _ => LeavesAnswers.still fun _ => rfl

/-! ### The reading is safe -/

/-- What is safe about the reading of an answer. The memory is the one before it, the one that the
answer is given back in, and the one after it; besides there are the accesses of the conversion
alone, and all accesses. -/
structure ReadsSafely (address : Address) (memory left after : TransitMemory Value State)
    (inner accesses : List (Access Value)) : Prop where
  /-- The transit struct is read once and then given back once, both while it is live, and nothing
  else is done with it. -/
  touched : accesses.filter (·.touches (.transit address)) =
    [.read (.transit address) true, .freed (.transit address) true]
  /-- Only the conversion can go astray. -/
  strays : accesses.filter (·.isStray) = inner.filter (·.isStray)
  /-- Nothing but the answer is given back. -/
  live : ∀ place,
    after.live place = (left.live place && !decide (place ∈ memory.answerPlaces address))

/-- What the reading of an answer relies on. -/
structure ReadingContract (address : Address)
    (free : Address → TransitMemory Value State → TransitMemory Value State)
    (convert : Value → Reader Value State Content) (memory : TransitMemory Value State) : Prop where
  held : memory.Holds address
  frees : FreesAnswers free
  leaves : ∀ value, LeavesAnswers (convert value)

namespace Reader

variable {address : Address}
  {free : Address → TransitMemory Value State → TransitMemory Value State}
  {convert : Value → Reader Value State Content} {memory : TransitMemory Value State}

theorem readsSafely_of_error (contract : ReadingContract address free convert memory) :
    ReadsSafely address memory memory (free address memory) ([] : List (Access Value))
      (memory.reads (memory.answerPlaces address) ++
        [.freed (.transit address) (memory.live (.transit address))]) where
  touched := by
    rw [List.filter_append, memory.touched_reads, contract.held.transit]
    simp
  strays := by
    rw [List.filter_append, TransitMemory.strays_reads contract.held, contract.held.transit]
    rfl
  live place := by rw [contract.frees.live]; rfl

theorem readsSafely_of_value (contract : ReadingContract address free convert memory)
    (unset : (memory.transits address).error = none) {value : Value} {ending : Outcome Content}
    {left : TransitMemory Value State} {inner : List (Access Value)}
    (ended : convert value memory = (ending, left, inner)) :
    ReadsSafely address memory left (free address left) inner
      (memory.reads (memory.answerPlaces address) ++ .entered value :: inner ++
        [.left, .freed (.transit address) (left.live (.transit address))]) := by
  have wasLive := contract.held.transit
  have alone := contract.leaves value memory address
  rw [ended] at alone
  have live := alone.live
  have nothing := Access.filter_of_untouched (alone.untouched wasLive)
  have places : left.answerPlaces address = memory.answerPlaces address := by
    have unsetThen : (left.transits address).error = none := by
      rw [alone.transits wasLive, unset]
    rw [answerPlaces_of_no_error unset, answerPlaces_of_no_error unsetThen]
  refine { touched := ?_, strays := ?_, live := ?_ }
  · rw [List.filter_append, List.filter_append, memory.touched_reads, live, wasLive,
      List.filter_cons_of_neg (by simp), nothing]
    simp
  · rw [List.filter_append, List.filter_append, TransitMemory.strays_reads contract.held, live,
      wasLive]
    simp
  · intro place
    rw [contract.frees.live, TransitMemory.freeTransit, places]

/-- An answer is read, converted and given back in order. Null is an error of the operation and is
not touched. An error is read in full before the answer is given back, and its payload is not
converted. A payload is converted once, and the answer is given back once the conversion is over, in
whatever way it ended; how it ended is kept. Where the answer is there and the conversion leaves it
alone, the transit struct is read once and given back once while it is live, the reading does not go
astray, and nothing but the answer is given back. -/
theorem answer_freed_behind_conversion (operation : String) (raw : Option Address)
    (free : Address → TransitMemory Value State → TransitMemory Value State)
    (convert : Value → Reader Value State Content) (memory : TransitMemory Value State) :
    (answer operation raw free convert).run memory =
        decodeWith operation (memory.reply raw) (raw.elim id free)
          (fun value => (convert value).run) memory ∧
      match raw with
      | none =>
        answer operation raw free convert memory = (.failure (.nullPointer operation), memory, [])
      | some address =>
        match (memory.transits address).error with
        | some found =>
          let accesses := memory.reads (memory.answerPlaces address) ++
            [.freed (.transit address) (memory.live (.transit address))]
          answer operation raw free convert memory =
              (.failure (readError (memory.rawError found)), free address memory, accesses) ∧
            (ReadingContract address free convert memory →
              ReadsSafely address memory memory (free address memory) [] accesses)
        | none =>
          let value := (memory.transits address).value
          let (ending, left, inner) := convert value memory
          let accesses := memory.reads (memory.answerPlaces address) ++ .entered value :: inner ++
            [.left, .freed (.transit address) (left.live (.transit address))]
          answer operation raw free convert memory = (ending, free address left, accesses) ∧
            (ReadingContract address free convert memory →
              ReadsSafely address memory left (free address left) inner accesses) := by
  refine ⟨answer_run operation raw free convert memory, ?_⟩
  cases raw with
  | none => rfl
  | some address =>
    rcases slot : (memory.transits address).error with _ | found
    · rcases ended : convert (memory.transits address).value memory with ⟨ending, left, inner⟩
      have equation := answer_of_value operation free convert slot
      simp only [ended] at equation
      simp only [slot, ended]
      exact ⟨equation, fun contract => readsSafely_of_value contract slot ended⟩
    · simp only [slot]
      exact ⟨answer_of_error operation free convert slot, readsSafely_of_error⟩

end Reader

/-- The conversion reads another answer in between, and both are given back, the inner one first,
before the halt goes on. -/
theorem Reader.answer_freed_behind_conversion_halting :
    let free := fun address (memory : TransitMemory Nat Unit) => memory.freeTransit address
    let memory := TransitMemory.waiting 7 42
    let (ending, after, accesses) := answer "outer" (some 7) free haltingBehindCall memory
    ReadingContract 7 free haltingBehindCall memory ∧
      ending = .halted ⟨"conversion failed"⟩ ∧
      accesses =
        [.read (.transit 7) true, .entered 42, .read (.transit 8) true, .entered 5, .left,
          .freed (.transit 8) true, .left, .freed (.transit 7) true] ∧
      ReadsSafely 7 memory (haltingBehindCall 42 memory).2.1 after (haltingBehindCall 42 memory).2.2
        accesses := by
  have contract : ReadingContract 7 (fun address memory => memory.freeTransit address)
      haltingBehindCall (TransitMemory.waiting 7 42) :=
    { held := by simp [TransitMemory.Holds, TransitMemory.answerPlaces, TransitMemory.waiting]
      frees := freesAnswers_freeTransit
      leaves := leavesAnswers_haltingBehindCall }
  refine ⟨contract, by rfl, by decide, ?_⟩
  exact (answer_freed_behind_conversion "outer" (some 7)
    (fun address memory => memory.freeTransit address) haltingBehindCall
    (.waiting 7 42)).2.2 contract

/-! ### The answers that the host reads -/

/-- The memory in which an answer lies and nothing else does. -/
def TransitMemory.laid (value : Value) (error : Option RawError) (rest : State) :
    TransitMemory Value State :=
  { transits := fun _ => ⟨value, error.map fun _ => 0⟩
    errors := fun _ =>
      ⟨(error.bind (·.code)).map fun _ => 0, (error.bind (·.message)).map fun _ => 1⟩
    texts := fun address =>
      (error.bind fun found => if address = 0 then found.code else found.message).getD []
    live := fun place => place ∈ [.transit 0, .error 0, .text 0, .text 1]
    rest := rest }

/-- A reader that leaves the answers alone and does something with the rest of the process. -/
def Reader.onRest (action : Run State Content) : Reader Value State Content := fun memory =>
  ((action memory.rest).1, { memory with rest := (action memory.rest).2 }, [])

theorem Reader.leavesAnswers_onRest (action : Run State Content) :
    LeavesAnswers (Reader.onRest action : Reader Value State Content) := fun _ _ =>
  { live := rfl
    transits := fun _ => rfl
    untouched := fun _ _ member => absurd member List.not_mem_nil }

namespace TransitMemory

theorem rawError_laid (value : Value) (error : RawError) (rest : State) (address : Address) :
    (laid value (some error) rest).rawError address = error := by
  obtain ⟨_ | code, _ | message⟩ := error <;> rfl

theorem holds_laid (value : Value) (error : Option RawError) (rest : State) :
    (laid value error rest).Holds 0 := by
  rcases error with _ | ⟨_ | code, _ | message⟩ <;>
    simp [Holds, answerPlaces, errorPlaces, laid]

end TransitMemory

namespace Surroundings

variable {Native : Type} (around : Surroundings Native)

/-- Gives an answer back, in its memory and to the library. -/
def givingBack (library : LibraryId) (payload : Payload) (address : Address)
    (memory : TransitMemory payload.Raw (Host Native)) :
    TransitMemory payload.Raw (Host Native) :=
  { memory.freeTransit address with
    rest := around.release library
      (.transit payload ((memory.transits address).error.map memory.rawError)) memory.rest }

theorem freesAnswers_givingBack (library : LibraryId) (payload : Payload) :
    FreesAnswers (around.givingBack library payload) where
  live _ _ := rfl
  transits _ _ _ _ := rfl

/-- Every answer that an entry point gives the host is read like this, and safely: it is there, and
the conversions of the host do not reach it. -/
theorem query_eq_answer {payload : Payload} (library : LibraryId) (entry : Entry payload)
    (convert : payload.Raw → Action Native Content) {process asked : Host Native}
    {transit : Transit payload}
    (answered : around.ask library entry process = (.value (some transit), asked)) :
    let memory := TransitMemory.laid transit.value transit.error asked
    let free := around.givingBack library payload
    let conversion := fun value => Reader.onRest (convert value)
    let reading := Reader.answer entry.symbol (some 0) free conversion memory
    around.query library entry convert process = (reading.1, reading.2.1.rest) ∧
      ReadingContract 0 free conversion memory := by
  intro memory free conversion reading
  have contract : ReadingContract 0 free conversion memory :=
    { held := TransitMemory.holds_laid transit.value transit.error asked
      frees := around.freesAnswers_givingBack library payload
      leaves := fun value => Reader.leavesAnswers_onRest (convert value) }
  have queried : around.query library entry convert process =
      decodeWith entry.symbol (some (transit.value, transit.error))
        (around.release library (.transit payload transit.error)) convert asked := by
    rw [query, Run.bind_apply, answered]
    rfl
  refine ⟨?_, contract⟩
  rw [queried]
  obtain ⟨value, _ | error⟩ := transit
  · have read : reading = _ := Reader.answer_of_value entry.symbol free conversion rfl
    rw [read]
    rfl
  · have read : reading = _ := Reader.answer_of_error entry.symbol free conversion rfl
    have reported : memory.rawError 0 = error := TransitMemory.rawError_laid value error asked 0
    have freed : free 0 memory =
        { memory.freeTransit 0 with
          rest :=
            around.release library (.transit payload (some (memory.rawError 0))) asked } := rfl
    rw [read, freed, reported]
    rfl

end Surroundings

end WalletBridge
