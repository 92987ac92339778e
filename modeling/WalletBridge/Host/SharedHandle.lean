/-
This file holds one handle that many threads use at the same time, as a machine: the uses take
turns in any order, and each turn is one atomic step.

A lock guards the handle's slot. A use waits for the lock, looks at the slot, does what it came for
and gives the lock back. A native call and the free function each last from one step to a later
one, and others may take turns in between. A use also keeps the handle itself alive, so the handle
goes away only when no use is in progress, and nothing can use it afterwards.
-/

import WalletBridge.Host.Handle

namespace WalletBridge

/-! ### Uses -/

/-- The number of a use: uses are numbered as they begin. -/
abbrev UseId := Nat

/-- What a use wants. -/
inductive HandleUse where
  /-- One native call on the object. -/
  | call
  /-- To know whether the object is still there. -/
  | look
  /-- To release the object. -/
  | release
  /-- To release the object because the handle goes away. -/
  | drop
  deriving Repr, DecidableEq

/-- What a use got. -/
inductive UseResult where
  | served
  | refused (error : BridgeError)
  | looked (isLive : Bool)
  | released (wasLive : Bool)
  deriving Repr, DecidableEq

/-- Where a use stands. -/
inductive UseStage where
  /-- Waits for the lock. -/
  | waiting
  /-- Has the lock, and looks at the slot next. -/
  | holding
  /-- Has the lock, and its native call is in progress. -/
  | calling (address : Address)
  /-- Has the lock, and its call of the free function is in progress. -/
  | freeing (address : Address)
  /-- Has the lock, and counts the release next. -/
  | freed
  /-- Has the lock, and gives it back next. -/
  | leaving (result : UseResult)
  /-- Is over. -/
  | over (result : UseResult)
  deriving Repr, DecidableEq

/-- Whether a use is over. -/
def UseStage.isOver : UseStage → Bool
  | .over _ => true
  | _ => false

/-- A use of a handle. -/
structure HandleUser where
  use : HandleUse
  stage : UseStage
  deriving Repr, DecidableEq

/-! ### The state -/

/-- What happens to the native object. -/
inductive ObjectEvent where
  | callBegan (use : UseId) (address : Address)
  | callEnded (use : UseId) (address : Address)
  | freeBegan (use : UseId) (address : Address)
  | freeEnded (use : UseId) (address : Address)
  deriving Repr, DecidableEq

/-- A handle in the hands of many threads. -/
structure SharedHandle (kind : ResourceKind) where
  handle : Handle kind
  /-- The use that has the lock. -/
  holder : Option UseId
  users : List HandleUser
  /-- Whether the handle goes away. -/
  dropped : Bool
  lifecycle : Lifecycle
  /-- What happened to the object, the last first. -/
  journal : List ObjectEvent

namespace SharedHandle

variable {kind : ResourceKind}

/-- A handle that nobody has used. -/
def new (handle : Handle kind) (lifecycle : Lifecycle) : SharedHandle kind :=
  { handle := handle
    holder := none
    users := []
    dropped := false
    lifecycle := lifecycle
    journal := [] }

/-- Whether no use is in progress. -/
def isIdle (shared : SharedHandle kind) : Bool := shared.users.all (·.stage.isOver)

/-- Puts a use into another stage. -/
def setStage (shared : SharedHandle kind) (use : UseId) (stage : UseStage) : SharedHandle kind :=
  { shared with users := shared.users.modify use fun former => { former with stage := stage } }

/-- Writes an event into the journal. -/
def record (shared : SharedHandle kind) (event : ObjectEvent) : SharedHandle kind :=
  { shared with journal := event :: shared.journal }

end SharedHandle

/-! ### Steps -/

/-- One atomic step of somebody. -/
inductive HandleStep where
  /-- A use begins. -/
  | begin (use : HandleUse)
  /-- A use takes the lock. -/
  | acquire (use : UseId)
  /-- A use looks at the slot, and begins what it came for. -/
  | inspect (use : UseId)
  /-- The native call or the free function of a use returns. -/
  | finish (use : UseId)
  /-- A use counts its release. -/
  | count (use : UseId)
  /-- A use gives the lock back. -/
  | leave (use : UseId)
  deriving Repr, DecidableEq

namespace SharedHandle

variable {kind : ResourceKind}

/-- Begins a use, unless the handle goes away; it goes away only where no use is in progress. -/
def begin? (shared : SharedHandle kind) (use : HandleUse) : Option (SharedHandle kind) :=
  if shared.dropped then none
  else
    match use with
    | .drop =>
      if shared.isIdle then
        some { shared with users := shared.users ++ [⟨.drop, .waiting⟩], dropped := true }
      else none
    | _ => some { shared with users := shared.users ++ [⟨use, .waiting⟩] }

/-- Looks at the slot. A release empties it before the free function runs. -/
def inspect (shared : SharedHandle kind) (id : UseId) : HandleUse → SharedHandle kind
  | .call =>
    match shared.handle.address with
    | .ok address => (shared.setStage id (.calling address)).record (.callBegan id address)
    | .error error => shared.setStage id (.leaving (.refused error))
  | .look => shared.setStage id (.leaving (.looked shared.handle.isLive))
  | .release | .drop =>
    match shared.handle.slot with
    | some address =>
      let emptied := { shared with handle := { shared.handle with slot := none } }
      (emptied.setStage id (.freeing address)).record (.freeBegan id address)
    | none => shared.setStage id (.leaving (.released false))

/-- Why a use releases the object. -/
def causeOf : HandleUse → ReleaseCause
  | .drop => .drop
  | _ => .explicit

/-- What a use does in its stage, when that is the step it takes. -/
def stepUser (shared : SharedHandle kind) (id : UseId) (user : HandleUser) :
    HandleStep → Option (SharedHandle kind)
  | .acquire _ =>
    match user.stage, shared.holder with
    | .waiting, none => some { shared.setStage id .holding with holder := some id }
    | _, _ => none
  | .inspect _ =>
    match user.stage with
    | .holding => some (shared.inspect id user.use)
    | _ => none
  | .finish _ =>
    match user.stage with
    | .calling address =>
      some ((shared.setStage id (.leaving .served)).record (.callEnded id address))
    | .freeing address => some ((shared.setStage id .freed).record (.freeEnded id address))
    | _ => none
  | .count _ =>
    match user.stage with
    | .freed =>
      some { shared.setStage id (.leaving (.released true)) with
        lifecycle := shared.lifecycle.recordRelease (causeOf user.use) }
    | _ => none
  | .leave _ =>
    match user.stage with
    | .leaving result => some { shared.setStage id (.over result) with holder := none }
    | _ => none
  | .begin _ => none

/-- Takes a step, when it is possible. -/
def step? (shared : SharedHandle kind) (step : HandleStep) : Option (SharedHandle kind) :=
  match step with
  | .begin use => shared.begin? use
  | .acquire id | .inspect id | .finish id | .count id | .leave id =>
    match shared.users[id]? with
    | some user => shared.stepUser id user step
    | none => none

/-- Takes steps one after another, when all are possible. -/
def run? (shared : SharedHandle kind) : List HandleStep → Option (SharedHandle kind)
  | [] => some shared
  | step :: rest => (shared.step? step).bind fun after => after.run? rest

/-- The states that the steps lead to from a handle that nobody has used. -/
inductive Reachable (handle : Handle kind) (lifecycle : Lifecycle) : SharedHandle kind → Prop where
  | new : Reachable handle lifecycle (SharedHandle.new handle lifecycle)
  | step {before after : SharedHandle kind} {step : HandleStep}
      (reached : Reachable handle lifecycle before) (taken : before.step? step = some after) :
      Reachable handle lifecycle after

/-- Whether a release that begins while a native call is in progress has to wait. -/
def releaseWaits (handle : Handle kind) : Bool :=
  match (SharedHandle.new handle .zero).run?
      [.begin .call, .acquire 0, .inspect 0, .begin .release] with
  | some shared => (shared.step? (.acquire 1)).isNone
  | none => false

/-- A release waits for a native call that is in progress. -/
theorem releaseWaits_eq_true (handle : Handle kind) : releaseWaits handle = true := by
  obtain ⟨library, slot⟩ := handle
  cases slot <;> rfl

end SharedHandle

end WalletBridge
