/-
This file lets the executor work on a session: its jobs do operations on the objects that the
session holds, and give their answers. An operation whose objects are not there is not even begun.
-/

import WalletBridge.Executor.Bench
import WalletBridge.Host.Session
import WalletBridge.Json.Value

namespace WalletBridge

/-- What a job on a session gives. -/
inductive JobResult where
  /-- What was put into the job. -/
  | data (value : Json.Value)
  | answer (answer : Answer)

namespace Job

variable {State : Type}

/-- A job that gives back a value. -/
def ofData (value : Json.Value) : Job (Session State) JobResult := .ofOutcome (.value (.data value))

/-- A job that gives the name of its worker. -/
def workerName : Job (Session State) JobResult :=
  .act fun name session => (.value (.answer (.text name)), session)

/-- A job that does an operation. -/
def ofOperation (around : Surroundings State) (operation : Operation) :
    Job (Session State) JobResult :=
  .act fun _ session =>
    let (response, after) := session.operate around operation
    match response with
    | .answer answer => (.value (.answer answer), after)
    | .refused error => (.failure error, after)
    | .halted halt => (.halted halt, after)
    | .missing role => (.failure (.invalidInput role), after)

end Job

/-- The names of the objects that an operation works on. -/
def Operation.subjects : Operation → List String
  | .openMemory _ | .openFile .. | .connect .. | .parsePsbt .. | .newBuilder _ | .adopt .. => []
  | .openWallet _ database _ _ _ => [database]
  | .networkName wallet | .peekAddress wallet _ | .revealNextAddress wallet
  | .peekFirst wallet _ | .balance wallet | .listUnspent wallet | .listTransactions wallet =>
    [wallet]
  | .sync wallet chain => [wallet, chain]
  | .sign wallet psbt => [wallet, psbt]
  | .serialize psbt | .txid psbt => [psbt]
  | .addRecipient builder _ _ | .feeRate builder _ => [builder]
  | .finish _ builder wallet => [builder, wallet]
  | .dispose target | .isLive target | .drop target | .describe target => [target]

namespace Bench

variable {State : Type}

/-- Whether the objects of an operation are there. -/
def hasSubjects (bench : Bench (Session State) JobResult) (operation : Operation) : Bool :=
  operation.subjects.all fun label => (bench.timeline.world.object? label).isSome

/-- Does an operation as a job and waits for it; nothing is done when its objects are not
there. -/
def request (bench : Bench (Session State) JobResult) (around : Surroundings State)
    (operation : Operation) :
    Option (Except ExecutorError JobResult) × Bench (Session State) JobResult :=
  if bench.hasSubjects operation then bench.run none (.ofOperation around operation)
  else (none, bench)

/-- Does an operation without the executor; nothing is done when its objects are not there. -/
def operate (bench : Bench (Session State) JobResult) (around : Surroundings State)
    (operation : Operation) : Option Response × Bench (Session State) JobResult :=
  if bench.hasSubjects operation then
    let (response, world) := bench.timeline.world.operate around operation
    (some response, { bench with timeline := { bench.timeline with world := world } })
  else (none, bench)

end Bench

end WalletBridge
