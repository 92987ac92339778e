/-
This file proves what copying a sequence does, for every block and every decoder of elements. The
elements are visited in order and once each, up to the first that the decoder does not turn into a
value. How that element ended is how the copy ends, and if there is none, the copy is the list of
all values. A block is given back once, as it was handed over, behind the last visit, in whatever
way the copy ended.

A decoder may depend on what it did before. What it does with an element is therefore asked in the
state that the elements before it left.
-/

import WalletBridge.Host.SequenceMemory

namespace WalletBridge

variable {Element State Content Other : Type}

/-! ### Where a list of elements stops -/

/-- How an outcome without a value stops whatever needs the value. -/
def Outcome.stop? : Outcome Content → Option (Outcome Other)
  | .value _ => none
  | .failure error => some (.failure error)
  | .halted halt => some (.halted halt)

/-- The state that the elements before a position leave. -/
def stateBefore (decode : Element → Run State Content) (elements : List Element) (state : State)
    (position : Nat) : State :=
  (elements.take position).foldl (fun before element => (decode element before).2) state

/-- How the element at a position ends, when there is one. -/
def endingAt (decode : Element → Run State Content) (elements : List Element) (state : State)
    (position : Nat) : Option (Outcome Content) :=
  elements[position]?.map fun element =>
    (decode element (stateBefore decode elements state position)).1

/-- How many elements of a list are decoded, and how the whole ends. -/
inductive Decodes (decode : Element → Run State Content) (elements : List Element)
    (state : State) : Nat → Outcome (List Content) → Prop
  /-- Every element gives a value. -/
  | all (contents : List Content)
      (each : ∀ position, endingAt decode elements state position =
        contents[position]?.map Outcome.value) :
      Decodes decode elements state elements.length (.value contents)
  /-- The element at a position is the first that gives none. -/
  | stopped (position : Nat) (ending : Outcome Content) (last : Outcome (List Content))
      (earlier : ∀ before < position, ∃ content,
        endingAt decode elements state before = some (.value content))
      (here : endingAt decode elements state position = some ending)
      (stops : ending.stop? = some last) :
      Decodes decode elements state (position + 1) last

theorem stateBefore_cons (decode : Element → Run State Content) (element : Element)
    (rest : List Element) (state : State) (position : Nat) :
    stateBefore decode (element :: rest) state (position + 1) =
      stateBefore decode rest (decode element state).2 position := rfl

namespace Decodes

variable {decode : Element → Run State Content} {elements rest : List Element} {element : Element}
  {state : State} {visited : Nat} {ending : Outcome (List Content)}

theorem nil (state : State) : Decodes decode [] state 0 (.value []) :=
  .all [] fun _ => rfl

/-- An element that gives a value is put before what follows. -/
theorem cons {content : Content} (first : (decode element state).1 = .value content)
    (decodes : Decodes decode rest (decode element state).2 visited ending) :
    Decodes decode (element :: rest) state (visited + 1) (ending.map (content :: ·)) := by
  have atFirst : endingAt decode (element :: rest) state 0 = some (.value content) :=
    congrArg some first
  cases decodes with
  | all contents each =>
    refine .all (content :: contents) fun position => ?_
    cases position with
    | zero => exact atFirst
    | succ position => exact each position
  | stopped position stopping last earlier here stops =>
    have same : ending.map (content :: ·) = ending := by
      cases stopping with
      | value _ => cases stops
      | failure error => cases stops; rfl
      | halted halt => cases stops; rfl
    rw [same]
    refine .stopped (position + 1) stopping ending (fun before isBefore => ?_) here stops
    cases before with
    | zero => exact ⟨content, atFirst⟩
    | succ before => exact earlier before (Nat.lt_of_succ_lt_succ isBefore)

/-- An element that gives no value is the last. -/
theorem of_stop (stops : (decode element state).1.stop? = some ending) :
    Decodes decode (element :: rest) state 1 ending :=
  .stopped 0 (decode element state).1 ending (fun _ isBefore => absurd isBefore (Nat.not_lt_zero _))
    rfl stops

theorem visited_le (decodes : Decodes decode elements state visited ending) :
    visited ≤ elements.length := by
  cases decodes with
  | all contents each => exact Nat.le_refl _
  | stopped position stopping last earlier here stops =>
    obtain ⟨element, found, _⟩ := Option.map_eq_some_iff.mp here
    exact (List.getElem?_eq_some_iff.mp found).1

end Decodes

/-! ### Copying a sequence -/

namespace RawSequence

variable (slots : Address → Nat → Element) (decode : Element → Run State Content)

theorem decodeEach_cons (address : Address) (position : Nat) (rest : List Nat) (state : State) :
    decodeEach slots decode address (position :: rest) state =
      match decode (slots address position) state with
      | (.value content, between) =>
        let (ending, after, events) := decodeEach slots decode address rest between
        (ending.map (content :: ·), after, visit slots address position :: events)
      | (.failure error, after) => (.failure error, after, [visit slots address position])
      | (.halted halt, after) => (.halted halt, after, [visit slots address position]) := by
  simp only [decodeEach, bind, Traced.bind, decodeAt]
  rcases decode (slots address position) state with ⟨_ | _ | _, between⟩
  · simp only
    rcases decodeEach slots decode address rest between with ⟨_ | _ | _, after, events⟩ <;>
      simp [Outcome.map, Pure.pure, Traced.pure]
  · rfl
  · rfl

/-- Positions are visited in order, up to the first whose element gives no value. -/
theorem decodeEach_decodes (address : Address) (positions : List Nat) (state : State) :
    ∃ visited ending,
      Decodes decode (positions.map (slots address)) state visited ending ∧
        decodeEach slots decode address positions state =
          (ending, stateBefore decode (positions.map (slots address)) state visited,
            (positions.take visited).map (visit slots address)) := by
  induction positions generalizing state with
  | nil => exact ⟨0, .value [], Decodes.nil state, rfl⟩
  | cons position rest inductionHypothesis =>
    rw [decodeEach_cons, List.map_cons]
    rcases ended : decode (slots address position) state with ⟨outcome, between⟩
    have state_eq : (decode (slots address position) state).2 = between := by rw [ended]
    have outcome_eq : (decode (slots address position) state).1 = outcome := by rw [ended]
    cases outcome with
    | value content =>
      obtain ⟨visited, ending, decodes, copied⟩ := inductionHypothesis between
      refine ⟨visited + 1, ending.map (content :: ·), ?_, ?_⟩
      · exact Decodes.cons outcome_eq (by rw [state_eq]; exact decodes)
      · simp only [copied, stateBefore_cons, state_eq, List.take_succ_cons, List.map_cons]
    | failure error =>
      refine ⟨1, .failure error, Decodes.of_stop (by rw [outcome_eq]; rfl), ?_⟩
      rw [stateBefore_cons, state_eq]
      rfl
    | halted halt =>
      refine ⟨1, .halted halt, Decodes.of_stop (by rw [outcome_eq]; rfl), ?_⟩
      rw [stateBefore_cons, state_eq]
      rfl

/-- Without the events, this is the decoding of a list of elements. -/
theorem decodeEach_run (address : Address) (positions : List Nat) (state : State) :
    (decodeEach slots decode address positions).run state =
      Run.each decode (positions.map (slots address)) state := by
  induction positions generalizing state with
  | nil => rfl
  | cons position rest inductionHypothesis =>
    rw [Traced.run, decodeEach_cons, List.map_cons, Run.each, Run.bind]
    rcases decode (slots address position) state with ⟨content | error | halt, between⟩
    · have onward := inductionHypothesis between
      rw [Traced.run] at onward
      simp only [Run.bind, ← onward]
      rcases decodeEach slots decode address rest between with ⟨_ | _ | _, after, events⟩ <;> rfl
    · rfl
    · rfl

/-- Without the events, this is the copying of the block. -/
theorem copy_run (release : RawSequence → State → State) (sequence : RawSequence) (state : State) :
    (copy slots release decode sequence).run state =
      toSequence (sequence.block slots) (release sequence) decode state := by
  obtain ⟨_ | address, length, capacity⟩ := sequence
  · by_cases empty : length = 0 <;> simp [copy, block, toSequence, Traced.run, empty] <;> rfl
  · have decoded := decodeEach_run slots decode address (List.range length.toNat) state
    show (_, release _ _) = (_, release _ _)
    rw [elements, ← decoded]
    rfl

/-- A sequence is copied element by element and then given back. Its elements are visited in order
and once each, up to the first that gives no value, and how that one ends is how the copy ends; if
every element gives a value, the copy is the list of the values. The block is given back once, as it
was handed over, behind the last visit. A null sequence is never given back: it is empty if it
claims no elements, and else it is refused. -/
theorem copied_in_order_and_released_once (release : RawSequence → State → State)
    (sequence : RawSequence) (state : State) :
    (copy slots release decode sequence).run state =
        toSequence (sequence.block slots) (release sequence) decode state ∧
      match sequence.address with
      | none =>
        let ending := if sequence.length = 0 then .value [] else .failure (.invalidInput
          ("null sequence claiming " ++ toString sequence.length ++ " elements"))
        copy slots release decode sequence state = (ending, state, [])
      | some address =>
        let elements := sequence.elements slots address
        ∃ visited ending, Decodes decode elements state visited ending ∧
          copy slots release decode sequence state =
            (ending, release sequence (stateBefore decode elements state visited),
              (List.range visited).map (visit slots address) ++ [.released sequence]) := by
  refine ⟨copy_run slots decode release sequence state, ?_⟩
  obtain ⟨_ | address, length, capacity⟩ := sequence
  · by_cases empty : length = 0 <;> simp [copy, empty] <;> rfl
  · obtain ⟨visited, ending, decodes, copied⟩ :=
      decodeEach_decodes slots decode address (List.range length.toNat) state
    refine ⟨visited, ending, decodes, ?_⟩
    have within : visited ≤ length.toNat := by
      have bound := decodes.visited_le
      rwa [List.length_map, List.length_range] at bound
    simp only [copy, Traced.guarded, copied, List.take_range, Nat.min_eq_left within]
    rfl

example :
    copy (fun _ position => position + 1) (fun _ calls => calls + 10)
        (fun element calls =>
          if element = 2 then (.halted ⟨"bad element"⟩, calls) else (.value element, calls + 1))
        ⟨some 7, 3, 4⟩ 0 =
      (.halted ⟨"bad element"⟩, 11,
        [.visited 7 0 1, .visited 7 1 2, .released ⟨some 7, 3, 4⟩]) := by
  decide

end RawSequence

end WalletBridge
