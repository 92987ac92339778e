/-
This file holds a native side that answers as it is told. Objects are numbered from one in the
order in which they are made; every object, string, block, transit struct and error is one live
allocation until it is released. A call that is told nothing succeeds with a plain answer.
-/

import WalletBridge.Boundary.Crossing

namespace WalletBridge

/-- What a scripted payload is told to be: an object is null or a new one. -/
abbrev ScriptedValue : Payload → Type
  | .object _ => Bool
  | .text => NativeString
  | .unit => UInt8
  | .flag => Bool
  | .balance => RawBalance
  | .outputs => Block RawOutput
  | .transactions => Block RawTransaction

/-- What a call is told to answer: null, or a payload and an error, either of them left out. -/
inductive Script (payload : Payload) where
  | null
  | reply (value : Option (ScriptedValue payload)) (error : Option RawError)

/-- The state of a scripted native side. -/
structure Scripted where
  /-- What the next call is told. -/
  pending : Option ((payload : Payload) × Script payload)
  /-- How many objects were made. -/
  made : Nat
  /-- How many allocations are live. -/
  live : Int

namespace Scripted

/-- A native side that has not been used. -/
def fresh : Scripted := ⟨none, 0, 0⟩

/-- What the pending script says to a call with a payload. -/
def told (state : Scripted) (payload : Payload) : Option (Script payload) :=
  match state.pending with
  | some ⟨other, script⟩ => if same : other = payload then some (same ▸ script) else none
  | none => none

/-- Makes a new object. -/
def mint (state : Scripted) : Address × Scripted :=
  (state.made + 1, { state with made := state.made + 1, live := state.live + 1 })

/-- The payload that a script asks for. -/
def realise : (payload : Payload) → ScriptedValue payload → Scripted → payload.Raw × Scripted
  | .object _, true, state => (some state.mint.1, state.mint.2)
  | .object _, false, state => (none, state)
  | .text, value, state =>
    (value, { state with live := state.live + Payload.allocations .text value })
  | .unit, value, state => (value, state)
  | .flag, value, state => (value, state)
  | .balance, value, state => (value, state)
  | .outputs, value, state =>
    (value, { state with live := state.live + Payload.allocations .outputs value })
  | .transactions, value, state =>
    (value, { state with live := state.live + Payload.allocations .transactions value })

/-- The plain answer of an entry point. -/
def plain {payload : Payload} (entry : Entry payload) : ScriptedValue payload :=
  match entry with
  | .openDatabase _ => true
  | .newWallet .. => true
  | .peekAddress .. => some (octets "peeked")
  | .revealNextAddress _ => some (octets "revealed")
  | .balance _ => ⟨0, 0, 0, 0⟩
  | .listUnspent _ => .held [] 0
  | .listTransactions _ => .held [] 0
  | .sync .. => 0
  | .sign .. => false
  | .connect _ => true
  | .addRecipient .. => 0
  | .feeRate .. => 0
  | .finish .. => true
  | .parsePsbt _ => true
where
  /-- The octets of an ASCII text. -/
  octets (text : String) : Bytes := text.toList.map fun character => UInt8.ofNat character.toNat

/-- The plain answer of a direct call. -/
def plainDirect {payload : Payload} (call : DirectCall payload) : ScriptedValue payload :=
  match call with
  | .memoryDatabase => true
  | .newBuilder => true
  | .serialize _ => some (plain.octets "serialized")
  | .txid _ => some (plain.octets "txid")

/-- Answers an entry point. -/
def answer {payload : Payload} (entry : Entry payload) (state : Scripted) :
    Reply payload × Scripted :=
  let script := (state.told payload).getD (.reply (some (plain entry)) none)
  let state := { state with pending := none }
  match script with
  | .null => (none, state)
  | .reply value error =>
    let (raw, made) :=
      match value with
      | some value => realise payload value state
      | none => (payload.blank, state)
    (some ⟨raw, error⟩, { made with live := made.live + 1 + errorAllocations error })

/-- Answers a direct call; it has no error slot, so only null and the payload of a text count. -/
def hand {payload : Payload} (call : DirectCall payload) (state : Scripted) :
    payload.Raw × Scripted :=
  let told := state.told payload
  let state := { state with pending := none }
  match told, call with
  | some .null, _ => (payload.blank, state)
  | some (.reply (some value) _), .serialize _ => realise .text value state
  | some (.reply (some value) _), .txid _ => realise .text value state
  | _, call => realise payload (plainDirect call) state

/-- Takes a release. -/
def release (freed : Release) (state : Scripted) : Scripted :=
  { state with live := state.live - freed.allocations }

/-- The scripted native side, the same for every library. -/
def side : NativeSide Scripted where
  answer _ _ entry state := answer entry state
  hand _ _ call state := hand call state
  release _ freed state := release freed state

end Scripted

end WalletBridge
