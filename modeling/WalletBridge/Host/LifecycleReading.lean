/-
This file reads the lifecycle counters while other threads wrap and release handles. The three
counters are read one after another, and anything may happen between two reads. What matters
afterwards is which handles were live all the time.
-/

import WalletBridge.Host.Basic

namespace WalletBridge

/-- Where a handle stands, as the counters see it. -/
inductive CountedHandle where
  /-- Is wrapped and counted as such. -/
  | live
  /-- Has been released, which is counted next. -/
  | emptied (cause : ReleaseCause)
  /-- Has been released, and is counted as such. -/
  | released
  deriving Repr, DecidableEq

/-- How far a reader is, with what it has read. -/
inductive LifecycleReader where
  | idle
  | started
  | readWrapped (wrapped : UInt64)
  | readExplicit (wrapped explicit : UInt64)
  | finished (snapshot : LifecycleSnapshot)
  deriving Repr, DecidableEq

/-- The counters, the handles behind them and a reader. -/
structure LifecycleReading where
  counters : Lifecycle
  /-- The handles, in the order in which they were wrapped. -/
  handles : List CountedHandle
  reader : LifecycleReader
  /-- The handles that have been live since the reader started. -/
  steady : List Nat
  deriving Repr, DecidableEq

/-- One step of somebody. -/
inductive LifecycleStep where
  /-- A handle is wrapped and counted. -/
  | wrap
  /-- A handle is released. -/
  | empty (handle : Nat) (cause : ReleaseCause)
  /-- A release is counted. -/
  | count (handle : Nat)
  /-- The reader starts. -/
  | start
  /-- The reader reads the next counter. -/
  | read
  deriving Repr, DecidableEq

namespace LifecycleReading

/-- The counters of a process that has wrapped nothing. -/
def new : LifecycleReading := ⟨.zero, [], .idle, []⟩

/-- The handles that are live. -/
def liveHandles (reading : LifecycleReading) : List Nat :=
  (List.range reading.handles.length).filter fun handle => reading.handles[handle]? == some .live

/-- What the reader does next. -/
def readNext (reading : LifecycleReading) : Option LifecycleReader :=
  match reading.reader with
  | .idle => none
  | .started => some (.readWrapped (UInt64.ofNat reading.counters.wrapped))
  | .readWrapped wrapped => some (.readExplicit wrapped (UInt64.ofNat reading.counters.explicit))
  | .readExplicit wrapped explicit =>
    some (.finished ⟨wrapped, explicit, UInt64.ofNat reading.counters.byDrop⟩)
  | .finished _ => none

/-- Takes a step, when it is possible. -/
def step? (reading : LifecycleReading) : LifecycleStep → Option LifecycleReading
  | .wrap =>
    some { reading with
      counters := reading.counters.recordWrapped
      handles := reading.handles ++ [.live] }
  | .empty handle cause =>
    match reading.handles[handle]? with
    | some .live =>
      some { reading with
        handles := reading.handles.set handle (.emptied cause)
        steady := reading.steady.filter (· != handle) }
    | _ => none
  | .count handle =>
    match reading.handles[handle]? with
    | some (.emptied cause) =>
      some { reading with
        counters := reading.counters.recordRelease cause
        handles := reading.handles.set handle .released }
    | _ => none
  | .start =>
    match reading.reader with
    | .idle => some { reading with reader := .started, steady := reading.liveHandles }
    | _ => none
  | .read => reading.readNext.map fun reader => { reading with reader := reader }

/-- Takes steps one after another, when all are possible. -/
def run? (reading : LifecycleReading) : List LifecycleStep → Option LifecycleReading
  | [] => some reading
  | step :: rest => (reading.step? step).bind fun after => after.run? rest

/-- The states that the steps lead to in a process that has wrapped nothing. -/
inductive Reachable : LifecycleReading → Prop where
  | new : Reachable LifecycleReading.new
  | step {before after : LifecycleReading} {step : LifecycleStep}
      (reached : Reachable before) (taken : before.step? step = some after) : Reachable after

end LifecycleReading

end WalletBridge
