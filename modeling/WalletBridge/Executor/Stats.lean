/-
This file holds the four counters of an executor. They only grow, and each is changed by one kind
of step, so at rest the difference of the first two is the number of jobs queued or running. They
are read as words, which say the same as long as the counters fit.
-/

import WalletBridge.Word

namespace WalletBridge

/-- The counters of an executor. -/
structure ExecutorStats where
  /-- Jobs that entered the queue. -/
  submitted : Nat
  /-- Jobs that ended, with whatever outcome. -/
  completed : Nat
  /-- Jobs that ended without a value. -/
  failed : Nat
  /-- Jobs whose caller had left when the reply came. -/
  cancelled : Nat
  deriving Repr, DecidableEq

namespace ExecutorStats

/-- The counters of a new executor. -/
def zero : ExecutorStats := ⟨0, 0, 0, 0⟩

/-- How many jobs are queued or running: the submitted ones less the completed ones, not below
zero. -/
def inFlight (stats : ExecutorStats) : Nat := stats.submitted - stats.completed

/-- Counts a job that entered the queue. -/
def countSubmitted (stats : ExecutorStats) : ExecutorStats :=
  { stats with submitted := stats.submitted + 1 }

/-- Counts a job that ended. -/
def countCompleted (stats : ExecutorStats) : ExecutorStats :=
  { stats with completed := stats.completed + 1 }

/-- Counts a job that ended without a value. -/
def countFailed (stats : ExecutorStats) : ExecutorStats :=
  { stats with failed := stats.failed + 1 }

/-- Counts a job whose caller had left. -/
def countCancelled (stats : ExecutorStats) : ExecutorStats :=
  { stats with cancelled := stats.cancelled + 1 }

end ExecutorStats

/-- The counters as they are read: four words, not necessarily of one moment. -/
structure ExecutorSnapshot where
  submitted : UInt64
  completed : UInt64
  failed : UInt64
  cancelled : UInt64
  deriving Repr, DecidableEq

/-- How many jobs are queued or running: the submitted ones less the completed ones, not below
zero. -/
def ExecutorSnapshot.inFlight (snapshot : ExecutorSnapshot) : UInt64 :=
  Word.saturatingSubtract snapshot.submitted snapshot.completed

namespace ExecutorStats

/-- The counters as they are read at one moment. -/
def snapshot (stats : ExecutorStats) : ExecutorSnapshot :=
  ⟨UInt64.ofNat stats.submitted, UInt64.ofNat stats.completed, UInt64.ofNat stats.failed,
    UInt64.ofNat stats.cancelled⟩

theorem toNat_inFlight_snapshot {stats : ExecutorStats} (submitted : stats.submitted < values64)
    (completed : stats.completed < values64) : stats.snapshot.inFlight.toNat = stats.inFlight := by
  rw [ExecutorSnapshot.inFlight, Word.toNat_saturatingSubtract, snapshot,
    UInt64.toNat_ofNat_of_lt' submitted, UInt64.toNat_ofNat_of_lt' completed, inFlight]

end ExecutorStats

end WalletBridge
