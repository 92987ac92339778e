/-
This file runs an executor on a clock. A job waits, for a while or at a gate, and then acts on a
world that all jobs share. Workers do what they can do at once; a caller that waits lets the calls
that it drives go on; and when nobody can do anything, the clock moves on to the next moment at
which somebody can. Every move is made of steps of the executor.
-/

import WalletBridge.Executor.Machine

namespace WalletBridge

/-! ### Jobs -/

/-- What a job does: it waits, and then it acts. An action is told the name of its worker. -/
inductive Job (World Content : Type) where
  | act (action : String → Run World Content)
  | sleep (milliseconds : Nat) (rest : Job World Content)
  | gate (name : String) (rest : Job World Content)

namespace Job

variable {World Content : Type}

/-- A job that ends with an outcome. -/
def ofOutcome (outcome : Outcome Content) : Job World Content :=
  .act fun _ world => (outcome, world)

instance : Inhabited (Job World Content) := ⟨ofOutcome (.halted ⟨""⟩)⟩

/-- How many waits and actions a job has. -/
def size : Job World Content → Nat
  | .act _ => 1
  | .sleep _ rest => rest.size + 1
  | .gate _ rest => rest.size + 1

/-- The gates of a job. -/
def gates : Job World Content → List String
  | .act _ => []
  | .sleep _ rest => rest.gates
  | .gate name rest => name :: rest.gates

end Job

/-! ### The state -/

/-- A gate: whether a job has come to it, and whether it is open. -/
structure Gate where
  name : String
  started : Bool
  isOpen : Bool
  deriving Repr, DecidableEq

/-- The first and the longest pause before a job is offered again, in milliseconds. -/
def firstPause : Nat := 1

@[inherit_doc firstPause]
def longestPause : Nat := 50

/-- The times of a call: when its pause ends, how long the next one is, and when its time is
over. -/
structure CallTimes (World Content : Type) where
  job : Job World Content
  wake : Nat
  nextPause : Nat
  deadline : Option Nat

/-- The times of a worker: what is left of its job, and until when it sleeps. -/
structure WorkerTimes (World Content : Type) where
  rest : Option (Job World Content)
  wake : Nat

/-- An executor on a clock. -/
structure Timeline (World Content : Type) where
  clock : Nat
  threadName : String
  executor : Executor Content
  calls : List (CallTimes World Content)
  workers : List (WorkerTimes World Content)
  gates : List Gate
  world : World

namespace Timeline

variable {World Content : Type}

/-- A new executor, whose workers are named with a common beginning and their numbers. -/
def new (poolSize capacity : Nat) (threadName : String) (world : World) :
    Timeline World Content :=
  let executor := Executor.new poolSize capacity
  { clock := 0
    threadName := threadName
    executor := executor
    calls := []
    workers := executor.workers.map fun _ => ⟨none, 0⟩
    gates := []
    world := world }

/-- Takes a step of the executor. -/
def step? (timeline : Timeline World Content) (step : ExecutorStep Content) :
    Option (Timeline World Content) :=
  (timeline.executor.step? step).map fun executor => { timeline with executor := executor }

/-- Takes a step of the executor, if it is possible. -/
def step (timeline : Timeline World Content) (step : ExecutorStep Content) :
    Timeline World Content :=
  (timeline.step? step).getD timeline

/-- Begins a call and puts up the gates of its job. -/
def begin (timeline : Timeline World Content) (kind : CallKind) (job : Job World Content) :
    CallId × Timeline World Content :=
  let fresh := job.gates.filter fun name => !timeline.gates.any (·.name == name)
  let deadline := match kind with
    | .timed milliseconds => some (timeline.clock + milliseconds)
    | _ => none
  (timeline.calls.length,
    { timeline.step (.begin kind) with
      calls := timeline.calls ++ [⟨job, 0, firstPause, deadline⟩]
      gates := timeline.gates ++ fresh.map fun name => ⟨name, false, false⟩ })

/-- What a call's caller got, when the call is over. -/
def reply? (timeline : Timeline World Content) (call : CallId) :
    Option (Except ExecutorError Content) :=
  match timeline.executor.calls[call]? with
  | some ⟨_, .done reply, _⟩ => some reply
  | _ => none

/-! ### Moves of workers -/

/-- Goes on with a worker's job. -/
def work (timeline : Timeline World Content) (index : Nat) (job : Job World Content) :
    Option (Timeline World Content) :=
  let put (rest : Option (Job World Content)) (wake : Nat) : Timeline World Content :=
    { timeline with workers := timeline.workers.set index ⟨rest, wake⟩ }
  match job with
  | .act action =>
    let (outcome, world) := action (timeline.threadName ++ "-" ++ toString index) timeline.world
    { put none 0 with world := world }.step? (.finish index outcome)
  | .sleep milliseconds rest => some (put (some rest) (timeline.clock + milliseconds))
  | .gate name rest =>
    match timeline.gates.find? (·.name == name) with
    | some ⟨_, started, true⟩ =>
      let after := put (some rest) 0
      if started then some after
      else some { after with gates := after.gates.map fun gate =>
        if gate.name == name then { gate with started := true } else gate }
    | some ⟨_, false, false⟩ =>
      some { timeline with gates := timeline.gates.map fun gate =>
        if gate.name == name then { gate with started := true } else gate }
    | _ => none

/-- What a worker can do now. -/
def moveWorker? (timeline : Timeline World Content) (index : Nat) :
    Option (Timeline World Content) :=
  match timeline.executor.workers[index]? with
  | some .idle => timeline.step? (.receive index)
  | some (.running job) =>
    match timeline.workers[index]? with
    | some ⟨none, _⟩ =>
      (timeline.calls[job]?).map fun call =>
        { timeline with workers := timeline.workers.set index ⟨some call.job, 0⟩ }
    | some ⟨some rest, wake⟩ => if timeline.clock < wake then none else timeline.work index rest
    | none => none
  | some (.ended ..) => timeline.step? (.judge index)
  | some (.judged ..) => timeline.step? (.complete index)
  | some (.counted ..) => timeline.step? (.reply index)
  | some (.unheard _) => timeline.step? (.regret index)
  | some .leaving => timeline.step? (.leave index)
  | some .stopped | none => none

/-! ### Moves of calls -/

/-- Whether the time of a call is over. -/
def isLate (timeline : Timeline World Content) (call : CallId) : Bool :=
  match (timeline.calls[call]?).bind (·.deadline) with
  | some deadline => deadline ≤ timeline.clock
  | none => false

/-- Changes the times of a call. -/
def setTimes (timeline : Timeline World Content) (call : CallId)
    (change : CallTimes World Content → CallTimes World Content) : Timeline World Content :=
  { timeline with calls := timeline.calls.modify call change }

/-- What a driven call can do now. -/
def moveCall? (timeline : Timeline World Content) (call : CallId) :
    Option (Timeline World Content) :=
  match timeline.executor.calls[call]?, timeline.calls[call]? with
  | some state, some times =>
    match state.stage with
    | .fresh => timeline.step? (.check call)
    | .offering => timeline.step? (.offer call)
    | .crowded =>
      (timeline.step? (.recheck call)).map fun after =>
        after.setTimes call fun former =>
          { former with
            wake := after.clock + former.nextPause
            nextPause := min (2 * former.nextPause) longestPause }
    | .pausing =>
      if times.wake ≤ timeline.clock then timeline.step? (.retry call)
      else if timeline.isLate call then timeline.step? (.expire call)
      else none
    | .queued => timeline.step? (.count call)
    | .waiting =>
      match timeline.step? (.take call) with
      | some after => some after
      | none => if timeline.isLate call then timeline.step? (.miss call) else none
    | .missed => timeline.step? (.expire call)
    | .expired => timeline.step? (.giveUp call)
    | .done _ | .abandoned => none
  | _, _ => none

/-! ### Waiting -/

/-- The first move that can be made now: workers come before calls. -/
def move? (timeline : Timeline World Content) (driven : List CallId) :
    Option (Timeline World Content) :=
  match (List.range timeline.workers.length).findSome? timeline.moveWorker? with
  | some after => some after
  | none => driven.findSome? timeline.moveCall?

/-- The moments at which a sleeping worker wakes. -/
def workerAlarms (timeline : Timeline World Content) : List Nat :=
  timeline.workers.filterMap fun worker => if worker.rest.isSome then some worker.wake else none

/-- The moments at which a driven call wakes or is out of time. -/
def callAlarms (timeline : Timeline World Content) (driven : List CallId) : List Nat :=
  driven.flatMap fun call =>
    match timeline.executor.calls[call]?, timeline.calls[call]? with
    | some ⟨_, .pausing, _⟩, some times => times.wake :: times.deadline.toList
    | some ⟨_, .waiting, _⟩, some times => times.deadline.toList
    | _, _ => []

/-- The next moment at which somebody can move. -/
def nextMoment? (timeline : Timeline World Content) (driven : List CallId)
    (alarm : Option Nat) : Option Nat :=
  ((alarm.toList ++ timeline.workerAlarms ++ timeline.callAlarms driven).filter
    (timeline.clock < ·)).min?

/-- How many moves a wait may take. A job takes about ten, a pause takes four. -/
def patience : Nat := 200000

/-- Waits for a goal: moves as long as somebody can, then lets the clock go on to the next alarm.
A wait that can never end is left when nothing is to be expected. -/
def waitUpTo (driven : List CallId) (alarm : Option Nat)
    (goal : Timeline World Content → Bool) :
    Nat → Timeline World Content → Timeline World Content
  | 0, timeline => timeline
  | moves + 1, timeline =>
    if goal timeline then timeline
    else
      match timeline.move? driven with
      | some after => waitUpTo driven alarm goal moves after
      | none =>
        match timeline.nextMoment? driven alarm with
        | some moment => waitUpTo driven alarm goal moves { timeline with clock := moment }
        | none => timeline

/-- Waits for a goal. -/
def wait (timeline : Timeline World Content) (driven : List CallId) (alarm : Option Nat)
    (goal : Timeline World Content → Bool) : Timeline World Content :=
  waitUpTo driven alarm goal patience timeline

/-- Lets the workers do what they can do now. -/
def settle (timeline : Timeline World Content) : Timeline World Content :=
  timeline.wait [] none fun state =>
    ((List.range state.workers.length).findSome? state.moveWorker?).isNone

end Timeline

end WalletBridge
