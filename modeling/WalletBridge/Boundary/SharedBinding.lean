/-
This file holds the process-wide binding in the hands of many threads, as a machine: each step is
one look at the slot, shared or exclusive, and calls take turns between them. Beside it stands the
binding in the hands of one thread, which serves one call after another; what the many get is what
one thread would have got in some order of the calls.
-/

import WalletBridge.Boundary.Binding

namespace WalletBridge

/-! ### Calls -/

/-- What a caller wants from the binding. -/
inductive BindingRequest where
  /-- The bound library; if there is none, loading is tried in the caller's own way. -/
  | get (load : LibraryId → Bound)
  | teardown
  | isBound

/-- What a caller gets. -/
inductive BindingAnswer where
  | bound (bound : Bound)
  | cleared (wasBound : Bool)
  | isBound (isBound : Bool)

namespace Binding

/-- Serves one call from its beginning to its end. -/
def serve (request : BindingRequest) (binding : Binding) : BindingAnswer × Binding :=
  match request with
  | .get load =>
    let (bound, after) := binding.getOrBind load
    (.bound bound, after)
  | .teardown =>
    let (wasBound, after) := binding.teardown
    (.cleared wasBound, after)
  | .isBound => (.isBound binding.isBound, binding)

/-- Serves calls one after another. -/
def serveAll (binding : Binding) : List BindingRequest → List BindingAnswer × Binding
  | [] => ([], binding)
  | request :: rest =>
    let (answer, after) := binding.serve request
    let (answers, last) := after.serveAll rest
    (answer :: answers, last)

end Binding

/-- Where a call stands. -/
inductive BindingStage where
  /-- Has done nothing yet. -/
  | fresh
  /-- Found the slot empty at its first look, and looks again next. -/
  | missed
  | answered (answer : BindingAnswer)

/-- A call of the binding. -/
structure BindingCall where
  request : BindingRequest
  stage : BindingStage

/-! ### The state -/

/-- What is seen of the calls from outside, and when a loader runs. -/
inductive BindingEvent where
  | began (call : Nat)
  | loaded (call : Nat)
  | cleared (call : Nat)
  | ended (call : Nat)
  deriving Repr, DecidableEq

/-- The binding in the hands of many threads. -/
structure SharedBinding where
  binding : Binding
  /-- The calls, in the order in which they began. -/
  calls : List BindingCall
  /-- What happened, the last first. -/
  journal : List BindingEvent

/-- One atomic step of somebody. -/
inductive BindingStep where
  /-- A call begins. -/
  | begin (request : BindingRequest)
  /-- A call looks at the slot along with others. -/
  | look (call : Nat)
  /-- A call has the slot to itself, and does with it what it has to. -/
  | change (call : Nat)

namespace SharedBinding

/-- The binding before the first call. -/
def new (binding : Binding) : SharedBinding := ⟨binding, [], []⟩

/-- Puts a call into another stage. -/
def setStage (shared : SharedBinding) (call : Nat) (stage : BindingStage) : SharedBinding :=
  { shared with calls := shared.calls.modify call fun former => { former with stage := stage } }

/-- Writes events into the journal, the last first. -/
def record (shared : SharedBinding) (events : List BindingEvent) : SharedBinding :=
  { shared with journal := events ++ shared.journal }

/-- Ends a call. -/
def finish (shared : SharedBinding) (call : Nat) (answer : BindingAnswer) : SharedBinding :=
  (shared.setStage call (.answered answer)).record [.ended call]

/-- Looks at the slot along with others. -/
def look (shared : SharedBinding) (id : Nat) (call : BindingCall) : Option SharedBinding :=
  match call.stage, call.request with
  | .fresh, .get _ =>
    match shared.binding.look with
    | some bound => some (shared.finish id (.bound bound))
    | none => some (shared.setStage id .missed)
  | .fresh, .isBound => some (shared.finish id (.isBound shared.binding.isBound))
  | _, _ => none

/-- Does with the slot what a call has to, while nobody else looks. -/
def change (shared : SharedBinding) (id : Nat) (call : BindingCall) : Option SharedBinding :=
  match call.stage, call.request with
  | .missed, .get load =>
    let (bound, after) := shared.binding.fill load
    let events := if shared.binding.isBound then [] else [BindingEvent.loaded id]
    some (({ shared with binding := after }.record events).finish id (.bound bound))
  | .fresh, .teardown =>
    let (wasBound, after) := shared.binding.teardown
    let events := if wasBound then [BindingEvent.cleared id] else []
    some (({ shared with binding := after }.record events).finish id (.cleared wasBound))
  | _, _ => none

/-- Takes a step, when it is possible. -/
def step? (shared : SharedBinding) (step : BindingStep) : Option SharedBinding :=
  match step with
  | .begin request =>
    let begun : SharedBinding := { shared with calls := shared.calls ++ [⟨request, .fresh⟩] }
    some (begun.record [.began shared.calls.length])
  | .look id => (shared.calls[id]?).bind fun call => shared.look id call
  | .change id => (shared.calls[id]?).bind fun call => shared.change id call

/-- The states that the steps lead to from a binding before its first call. -/
inductive Reachable (binding : Binding) : SharedBinding → Prop where
  | new : Reachable binding (SharedBinding.new binding)
  | step {before after : SharedBinding} {step : BindingStep}
      (reached : Reachable binding before) (taken : before.step? step = some after) :
      Reachable binding after

/-- The answer of a call, when the call is over. -/
def answer? (shared : SharedBinding) (call : Nat) : Option BindingAnswer :=
  match shared.calls[call]? with
  | some ⟨_, .answered answer⟩ => some answer
  | _ => none

/-- Whether one call was over before another one began. -/
def Precedes (shared : SharedBinding) (first second : Nat) : Prop :=
  ∃ later between earlier,
    shared.journal = later ++ BindingEvent.began second :: between ++
      BindingEvent.ended first :: earlier

/-- An order of the calls that are over, each once: whoever was over before another one began
comes first, and one thread that serves the calls in this order gives the same answers. -/
structure Linearizes (start : Binding) (shared : SharedBinding) (order : List Nat) : Prop where
  nodup : order.Nodup
  complete : ∀ call, call ∈ order ↔ (shared.answer? call).isSome
  respects : ∀ first second, shared.Precedes first second → first ∈ order → second ∈ order →
    order.idxOf first < order.idxOf second
  answers : ∃ requests : List BindingRequest,
    order.map (fun call => (shared.calls[call]?).map (·.request)) = requests.map some ∧
      order.map shared.answer? = (start.serveAll requests).1.map some

end SharedBinding

end WalletBridge
