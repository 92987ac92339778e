/-
This file says what a native side is for the host: something with a state of its own that answers
calls and takes releases, for any number of libraries. The host sees nothing else of it. Whatever
crosses the boundary is written into a journal.

Every answer obliges the host to give back the transit struct, whatever it holds, and the payload
where it is an allocation and no error stands beside it. A payload beside an error is not the
host's. What the host gives back is read off the same journal.
-/

import WalletBridge.Boundary.Call
import WalletBridge.Boundary.Loading

namespace WalletBridge

/-- How the native libraries of a process behave. -/
structure NativeSide (State : Type) where
  /-- The answer of an entry point. -/
  answer : LibraryId → {payload : Payload} → Entry payload → State → Reply payload × State
  /-- What a direct call hands over. -/
  hand : LibraryId → {payload : Payload} → DirectCall payload → State → payload.Raw × State
  /-- What a release does. -/
  release : LibraryId → Release → State → State

/-- One crossing of the boundary. -/
inductive Crossing where
  | asked (library : LibraryId) (payload : Payload) (entry : Entry payload)
      (reply : Reply payload)
  | handed (library : LibraryId) (payload : Payload) (call : DirectCall payload)
      (value : payload.Raw)
  | released (library : LibraryId) (release : Release)

/-! ### What crossings make due -/

/-- The release of a transit struct that an entry point answered with. -/
def transitRelease? {payload : Payload} (reply : Reply payload) : Option Release :=
  reply.map fun transit => .transit payload transit.error

/-- The release that a payload needs, when it is an allocation. -/
def payloadRelease? : (payload : Payload) → payload.Raw → Option Release
  | .object kind, some address => some (.object kind address)
  | .text, some octets => some (.text octets)
  | .outputs, .held elements spare => some (.outputs elements spare)
  | .transactions, .held elements spare => some (.transactions elements spare)
  | _, _ => none

/-- The releases that a crossing makes due, each with its library: the transit struct of an answer,
and the payload of an answer without an error. -/
def Crossing.due : Crossing → List (LibraryId × Release)
  | .asked library _ _ reply =>
    let payload := match reply with
      | some ⟨value, none⟩ => (payloadRelease? _ value).toList
      | _ => []
    ((transitRelease? reply).toList ++ payload).map fun release => (library, release)
  | .handed library payload _ value =>
    (payloadRelease? payload value).toList.map fun release => (library, release)
  | .released _ _ => []

/-- The release that a crossing is. -/
def Crossing.paid : Crossing → Option (LibraryId × Release)
  | .released library release => some (library, release)
  | _ => none

/-- All releases that a journal makes due, in the order of the journal. -/
def Crossing.allDue (journal : List Crossing) : List (LibraryId × Release) :=
  journal.flatMap Crossing.due

/-- All releases of a journal, in its order. -/
def Crossing.allPaid (journal : List Crossing) : List (LibraryId × Release) :=
  journal.filterMap Crossing.paid

end WalletBridge
