/-
This file says which locks an operation takes, and in which order, when many threads share objects.
The host locks the slot of every handle that an operation uses, the receiver's first; inside the
native call come the locks of the native objects. All are given back in the opposite order.

Every operation takes its locks in the order of their ranks. The machine below lets threads take
turns at the single steps of their operations, so a state of it shows who waits for whom.
-/

import WalletBridge.Boundary.Resource

namespace WalletBridge

/-! ### Locks -/

/-- A lock; objects of one kind are numbered. -/
inductive Lock where
  /-- The lock of a handle's slot. -/
  | slot (kind : ResourceKind) (object : Nat)
  /-- The lock of what a builder has been told. -/
  | params (builder : Nat)
  /-- The lock of a wallet's state. -/
  | wallet (wallet : Nat)
  /-- The lock of the store that a wallet is kept in. -/
  | store (wallet : Nat)
  /-- The lock of a partially signed transaction. -/
  | psbt (psbt : Nat)
  deriving Repr, DecidableEq

/-- The place of a lock in the order in which locks are taken. -/
def Lock.rank : Lock → Nat
  | .slot .txBuilder _ => 0
  | .slot .wallet _ => 1
  | .slot _ _ => 2
  | .params _ => 3
  | .wallet _ => 4
  | .store _ => 5
  | .psbt _ => 5

/-! ### Operations -/

/-- What a thread does with objects that it shares with others. -/
inductive SharedOperation where
  /-- Makes an object out of nothing that is shared. -/
  | create
  | newWallet (database : Nat)
  | peekAddress (wallet : Nat)
  | revealNextAddress (wallet : Nat)
  | balance (wallet : Nat)
  | listUnspent (wallet : Nat)
  | listTransactions (wallet : Nat)
  | sync (wallet chain : Nat)
  | sign (wallet psbt : Nat)
  | addRecipient (builder : Nat)
  | feeRate (builder : Nat)
  | finish (builder wallet : Nat)
  | serialize (psbt : Nat)
  | txid (psbt : Nat)
  /-- Asks whether an object is still there. -/
  | isLive (kind : ResourceKind) (object : Nat)
  | dispose (kind : ResourceKind) (object : Nat)
  deriving Repr, DecidableEq

namespace SharedOperation

/-- The locks that an operation takes when nothing fails, the first one first. -/
def locks : SharedOperation → List Lock
  | .create => []
  | .newWallet database => [.slot .databaseConfig database]
  | .peekAddress wallet => [.slot .wallet wallet, .wallet wallet]
  | .revealNextAddress wallet => [.slot .wallet wallet, .wallet wallet, .store wallet]
  | .balance wallet => [.slot .wallet wallet, .wallet wallet]
  | .listUnspent wallet => [.slot .wallet wallet, .wallet wallet]
  | .listTransactions wallet => [.slot .wallet wallet, .wallet wallet]
  | .sync wallet chain =>
    [.slot .wallet wallet, .slot .blockchain chain, .wallet wallet, .store wallet]
  | .sign wallet psbt => [.slot .wallet wallet, .slot .psbt psbt, .wallet wallet, .psbt psbt]
  | .addRecipient builder => [.slot .txBuilder builder, .params builder]
  | .feeRate builder => [.slot .txBuilder builder, .params builder]
  | .finish builder wallet =>
    [.slot .txBuilder builder, .slot .wallet wallet, .params builder, .wallet wallet, .store wallet]
  | .serialize psbt => [.slot .psbt psbt, .psbt psbt]
  | .txid psbt => [.slot .psbt psbt, .psbt psbt]
  | .isLive kind object => [.slot kind object]
  | .dispose kind object => [.slot kind object]

/-- Every operation takes its locks in the order of their ranks. -/
theorem pairwise_rank_locks (operation : SharedOperation) :
    operation.locks.Pairwise fun first second => first.rank < second.rank := by
  cases operation <;> simp [locks, Lock.rank]

end SharedOperation

/-! ### Threads -/

/-- A thread: what it has to do, the locks that its operation still has to take, and the locks that
it has, the last one first. -/
structure LockingThread where
  operations : List SharedOperation
  wanted : List Lock
  held : List Lock
  deriving Repr, DecidableEq

/-- Whether a thread has done everything. -/
def LockingThread.isFinished (thread : LockingThread) : Bool :=
  thread.operations.isEmpty && thread.wanted.isEmpty && thread.held.isEmpty

/-- One step of a thread. -/
inductive LockStep where
  /-- Begins its next operation. -/
  | begin (thread : Nat)
  /-- Takes the next lock of its operation. -/
  | take (thread : Nat)
  /-- Takes no further locks, because the operation has failed before it asked for the next one. -/
  | turnBack (thread : Nat)
  /-- Gives the last lock back. -/
  | give (thread : Nat)
  deriving Repr, DecidableEq

/-- Threads that share objects. -/
structure LockState where
  threads : List LockingThread
  deriving Repr, DecidableEq

namespace LockState

/-- Threads that have begun nothing. -/
def new (operations : List (List SharedOperation)) : LockState :=
  ⟨operations.map fun own => ⟨own, [], []⟩⟩

/-- Whether some thread has a lock. -/
def isTaken (state : LockState) (lock : Lock) : Bool :=
  state.threads.any (·.held.contains lock)

/-- Whether a thread waits for a lock that somebody has, or will when it asks for its next one. -/
def isWaiting (state : LockState) (thread : LockingThread) : Bool :=
  match thread.wanted with
  | [] => false
  | lock :: _ => state.isTaken lock

/-- What a thread does, when that is the step it takes. A lock that somebody has cannot be taken. -/
def stepThread (state : LockState) (thread : LockingThread) : LockStep → Option LockingThread
  | .begin _ =>
    match thread.operations, thread.wanted, thread.held with
    | operation :: rest, [], [] => some ⟨rest, operation.locks, []⟩
    | _, _, _ => none
  | .take _ =>
    match thread.wanted with
    | [] => none
    | lock :: rest =>
      if state.isTaken lock then none
      else some { thread with wanted := rest, held := lock :: thread.held }
  | .turnBack _ =>
    match thread.wanted with
    | [] => none
    | _ :: _ => some { thread with wanted := [] }
  | .give _ =>
    match thread.wanted, thread.held with
    | [], _ :: rest => some { thread with held := rest }
    | _, _ => none

/-- Takes a step, when it is possible. -/
def step? (state : LockState) (step : LockStep) : Option LockState :=
  match step with
  | .begin index | .take index | .turnBack index | .give index =>
    match state.threads[index]? with
    | some thread =>
      (state.stepThread thread step).map fun after => ⟨state.threads.set index after⟩
    | none => none

/-- The states that the steps lead to from threads that have begun nothing. -/
inductive Reachable (operations : List (List SharedOperation)) : LockState → Prop where
  | new : Reachable operations (LockState.new operations)
  | step {before after : LockState} {step : LockStep}
      (reached : Reachable operations before) (taken : before.step? step = some after) :
      Reachable operations after

end LockState

end WalletBridge
