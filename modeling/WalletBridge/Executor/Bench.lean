/-
This file holds the one caller of an executor who does one thing after another: runs a job and
waits for it, leaves a job in the queue under a name, starts a call in the background, waits,
drops what it waits for, opens gates, and shuts the executor down. Calls in the background go on
while the caller waits.
-/

import WalletBridge.Executor.Timeline

namespace WalletBridge

/-- An executor, the handle by which its caller uses it, and what the caller waits for. -/
structure Bench (World Content : Type) where
  timeline : Timeline World Content
  /-- Whether the caller still has the executor itself, besides the handle. -/
  owned : Bool
  /-- The replies that the caller can wait for. -/
  futures : List (String × CallId)
  /-- The calls in the background. -/
  tasks : List (String × CallId)
  /-- All calls that were ever started in the background. -/
  driven : List CallId

/-- What a caller can see of an executor that it owns. -/
structure ExecutorInfo where
  running : Bool
  poolSize : Nat
  inFlight : UInt64
  stats : ExecutorSnapshot
  deriving Repr, DecidableEq

namespace Bench

variable {World Content : Type}

/-- A new executor in the hands of a caller. -/
def new (poolSize capacity : Nat) (threadName : String) (world : World) : Bench World Content :=
  ⟨.new poolSize capacity threadName world, true, [], [], []⟩

/-- What is left of a table without a name. -/
def without (name : String) (table : List (String × CallId)) : List (String × CallId) :=
  table.filter (·.1 != name)

/-- The call under a name. -/
def find? (name : String) (table : List (String × CallId)) : Option CallId :=
  (table.find? (·.1 == name)).map (·.2)

/-- Lets the workers do what they can do at once. -/
def settle (bench : Bench World Content) : Bench World Content :=
  { bench with timeline := bench.timeline.settle }

/-- Waits until a call is over, and tells what it gave. -/
def awaitCall (bench : Bench World Content) (call : CallId) :
    Option (Except ExecutorError Content) × Bench World Content :=
  let timeline := bench.timeline.wait (call :: bench.driven) none fun state =>
    (state.reply? call).isSome
  (timeline.reply? call, { bench with timeline := timeline }.settle)

/-- Runs a job and waits for it, for ever or up to so many milliseconds. -/
def run (bench : Bench World Content) (limit : Option Nat) (job : Job World Content) :
    Option (Except ExecutorError Content) × Bench World Content :=
  let kind := match limit with
    | some milliseconds => .timed milliseconds
    | none => .patient
  let (call, timeline) := bench.timeline.begin kind job
  { bench with timeline := timeline }.awaitCall call

/-- Drops a call. -/
def drop (bench : Bench World Content) (call : CallId) : Bench World Content :=
  { bench with timeline := bench.timeline.step (.abandon call) }.settle

/-- Drops the call under a name, if there is one. -/
def dropNamed (bench : Bench World Content) (name : String)
    (table : List (String × CallId)) : Bench World Content :=
  match find? name table with
  | some call => bench.drop call
  | none => bench

/-- Queues a job at once; its reply can be waited for under a name. Tells why it is not queued. -/
def tryRun (bench : Bench World Content) (name : String) (job : Job World Content) :
    Option ExecutorError × Bench World Content :=
  let (call, begun) := bench.timeline.begin .immediate job
  let timeline := ((begun.step (.check call)).step (.offer call)).step (.count call)
  let after := { bench with timeline := timeline }.settle
  match timeline.reply? call with
  | some (.error error) => (some error, after)
  | _ =>
    let free := after.dropNamed name after.futures
    (none, { free with futures := (name, call) :: without name free.futures })

/-- Starts a call in the background, under a name. -/
def spawn (bench : Bench World Content) (name : String) (job : Job World Content) :
    Bench World Content :=
  let (call, timeline) := bench.timeline.begin .patient job
  { bench with
    timeline := timeline
    tasks := (name, call) :: without name bench.tasks
    driven := bench.driven ++ [call] }

/-- Waits so many milliseconds, and tells whether the call under a name is over. -/
def idle (bench : Bench World Content) (name : String) (milliseconds : Nat) :
    Option Bool × Bench World Content :=
  let moment := bench.timeline.clock + milliseconds
  let timeline := bench.timeline.wait bench.driven (some moment) fun state =>
    moment ≤ state.clock && (state.move? bench.driven).isNone
  ((find? name bench.tasks).map fun call => (timeline.reply? call).isSome,
    { bench with timeline := timeline }.settle)

/-- Drops the background call under a name, and tells whether there was one. -/
def abort (bench : Bench World Content) (name : String) : Bool × Bench World Content :=
  match find? name bench.tasks with
  | some call => (true, { bench.drop call with tasks := without name bench.tasks })
  | none => (false, bench)

/-- Waits for the reply under a name, once. There is none when the name stands for nothing. -/
def awaitNamed (bench : Bench World Content) (name : String) :
    Option (Except ExecutorError Content) × Bench World Content :=
  match find? name bench.futures with
  | some call => { bench with futures := without name bench.futures }.awaitCall call
  | none =>
    match find? name bench.tasks with
    | some call => { bench with tasks := without name bench.tasks }.awaitCall call
    | none => (none, bench)

/-- Drops the wait for the reply under a name, and tells whether there was one. -/
def forget (bench : Bench World Content) (name : String) : Bool × Bench World Content :=
  match find? name bench.futures with
  | some call => (true, { bench.drop call with futures := without name bench.futures })
  | none => (false, bench)

/-- Waits until a job has come to a gate, and tells whether there is such a gate. -/
def awaitStart (bench : Bench World Content) (gate : String) : Bool × Bench World Content :=
  if bench.timeline.gates.any (·.name == gate) then
    let timeline := bench.timeline.wait bench.driven none fun state =>
      state.gates.any fun entry => entry.name == gate && entry.started
    (true, { bench with timeline := timeline }.settle)
  else (false, bench)

/-- Opens a gate, and tells whether there is such a gate. -/
def openGate (bench : Bench World Content) (gate : String) : Bool × Bench World Content :=
  let gates := bench.timeline.gates.map fun entry =>
    if entry.name == gate then { entry with isOpen := true } else entry
  (bench.timeline.gates.any (·.name == gate),
    { bench with timeline := { bench.timeline with gates := gates } }.settle)

/-- The counters. -/
def stats (bench : Bench World Content) : ExecutorSnapshot := bench.timeline.executor.stats.snapshot

/-- What the caller can see of the executor, as long as it owns it. -/
def info? (bench : Bench World Content) : Option ExecutorInfo :=
  let executor := bench.timeline.executor
  if bench.owned then
    some ⟨executor.isRunning, executor.workers.length, bench.stats.inFlight, bench.stats⟩
  else none

/-- Sends the stop messages, one after another. Nothing but the workers goes on meanwhile, because
each one is sent with the caller's own thread. -/
def sendStops : Nat → Timeline World Content → Timeline World Content
  | 0, timeline => timeline
  | left + 1, timeline =>
    let room := timeline.wait [] none fun state => (state.step? .stop).isSome
    sendStops left (room.step .stop)

/-- Shuts the executor down, and tells whether the caller still owned it. -/
def shutdown (bench : Bench World Content) : Bool × Bench World Content :=
  if bench.owned then
    let shut := bench.timeline.step .shut
    let stopped := sendStops shut.executor.workers.length shut
    let joined := stopped.wait bench.driven none fun state => (state.step? .join).isSome
    (true, { bench with timeline := joined.step .join, owned := false }.settle)
  else (false, bench)

/-- Lets the executor go without shutting it down, and tells whether the caller still owned it.
The handle keeps the workers busy. -/
def release (bench : Bench World Content) : Bool × Bench World Content :=
  (bench.owned, { bench with owned := false })

end Bench

end WalletBridge
