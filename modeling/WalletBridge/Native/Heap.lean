/-
This file holds the native side's memory: the objects behind addresses, and the count of everything
that was handed out and not given back. A body is what an entry point does: it may change the
memory also where it fails, and whatever it had counted before it failed stays counted. The answer
of an entry point carries the payload of its body, or the error that the body ended with.
-/

import WalletBridge.Bitcoin.Address
import WalletBridge.Native.Engine

namespace WalletBridge

/-! ### Objects -/

/-- What a builder has been told. -/
structure BuilderParams where
  /-- Addresses and amounts, in order. -/
  recipients : List (BitcoinAddress × UInt64)
  /-- The rate in satoshi for a thousand units of weight. -/
  rate : Option UInt64
  deriving Repr, DecidableEq

/-- A wallet, the store that it is kept in, and its chain. -/
structure OpenWallet (engine : WalletEngine) where
  wallet : engine.Wallet
  store : engine.Store
  chain : Chain

/-- A connection and how a wallet is searched for through it. -/
structure ChainSource (engine : WalletEngine) where
  client : engine.Client
  stopGap : UInt64
  batchSize : UInt64

/-- A native object. -/
inductive NativeObject (engine : WalletEngine) where
  | database (place : DatabasePlace)
  | wallet (state : OpenWallet engine)
  | blockchain (source : ChainSource engine)
  | builder (params : BuilderParams)
  | psbt (signed : PartialTransaction)

/-- The kind of an object. -/
def NativeObject.kind {engine : WalletEngine} : NativeObject engine → ResourceKind
  | .database _ => .databaseConfig
  | .wallet _ => .wallet
  | .blockchain _ => .blockchain
  | .builder _ => .txBuilder
  | .psbt _ => .psbt

/-- The native side's memory. -/
structure NativeHeap (engine : WalletEngine) where
  world : engine.World
  objects : List (Address × NativeObject engine)
  /-- How many objects were made. -/
  made : Nat
  /-- How many allocations were handed out and not given back. -/
  live : Int

namespace NativeHeap

variable {engine : WalletEngine}

/-- The memory before the first call. -/
def fresh (world : engine.World) : NativeHeap engine := ⟨world, [], 0, 0⟩

/-- The object at an address. -/
def object? (heap : NativeHeap engine) (address : Address) : Option (NativeObject engine) :=
  heap.objects.lookup address

/-- Puts another object at the place of one. -/
def replace (heap : NativeHeap engine) (address : Address) (object : NativeObject engine) :
    NativeHeap engine :=
  { heap with
    objects := heap.objects.map fun entry =>
      if entry.1 = address then (address, object) else entry }

/-- Takes a release. -/
def release (heap : NativeHeap engine) (freed : Release) : NativeHeap engine :=
  let left := { heap with live := heap.live - freed.allocations }
  match freed with
  | .object _ address => { left with objects := left.objects.filter (·.1 != address) }
  | _ => left

/-- Takes a call that gives an allocation back. -/
def free (heap : NativeHeap engine) : ReleaseCall → NativeHeap engine
  | .null _ => heap
  | .of freed => heap.release freed

/-- Whichever functions are called with null, and however often, nothing is given back. -/
theorem foldl_free_null (heap : NativeHeap engine) (symbols : List String) :
    (symbols.map ReleaseCall.null).foldl free heap = heap := by
  induction symbols with
  | nil => rfl
  | cons symbol rest inductionHypothesis => exact inductionHypothesis

/-- How many allocations the library reports: a word, never below zero. -/
def reportedLive (heap : NativeHeap engine) : UInt64 := UInt64.ofNat heap.live.toNat

end NativeHeap

/-! ### Bodies -/

/-- What an entry point does. -/
def Body (engine : WalletEngine) (Content : Type) :=
  NativeHeap engine → Attempt NativeFault Content × NativeHeap engine

namespace Body

variable {engine : WalletEngine} {Content Result Cause : Type}

/-- Ends with a value. -/
def pure (content : Content) : Body engine Content := fun heap => (.value content, heap)

/-- Goes on with what a body ended with, if that is a value. -/
def bind (first : Body engine Content) (next : Content → Body engine Result) :
    Body engine Result :=
  fun heap =>
    match first heap with
    | (.value content, after) => next content after
    | (.refused fault, after) => (.refused fault, after)
    | (.panicked text, after) => (.panicked text, after)

instance : Monad (Body engine) where
  pure := Body.pure
  bind := Body.bind

theorem pure_apply (content : Content) (heap : NativeHeap engine) :
    (Pure.pure content : Body engine Content) heap = (.value content, heap) := rfl

theorem bind_apply (first : Body engine Content) (next : Content → Body engine Result)
    (heap : NativeHeap engine) :
    (first >>= next) heap =
      match first heap with
      | (.value content, after) => next content after
      | (.refused fault, after) => (.refused fault, after)
      | (.panicked text, after) => (.panicked text, after) := rfl

/-- Ends with an error. -/
def fail (fault : NativeFault) : Body engine Content := fun heap => (.refused fault, heap)

/-- Ends as an attempt did. -/
def settle (fault : Cause → NativeFault) (attempt : Attempt Cause Content) :
    Body engine Content :=
  fun heap => (attempt.mapCause fault, heap)

/-- Ends as an attempt did that cannot fail for a cause. -/
def certain (attempt : Attempt Empty Content) : Body engine Content := settle Empty.elim attempt

/-- Does something with the engine's world. -/
def withWorld (fault : Cause → NativeFault)
    (action : engine.World → Attempt Cause Content × engine.World) : Body engine Content :=
  fun heap =>
    let (attempt, world) := action heap.world
    (attempt.mapCause fault, { heap with world := world })

/-- Changes the memory. -/
def modify (change : NativeHeap engine → NativeHeap engine) : Body engine Unit :=
  fun heap => (.value (), change heap)

/-! ### Arguments -/

/-- The text of an argument. -/
def text (name : String) (raw : NativeString) : Body engine String :=
  match raw with
  | none => fail (.nullArgument name)
  | some octets =>
    match Utf8.decode octets.untilZero with
    | .ok text => pure text
    | .error fault => fail (.malformedArgument name fault)

/-- The text of an argument that may be absent. -/
def optionalText (name : String) (raw : NativeString) : Body engine (Option String) :=
  match raw with
  | none => pure none
  | some octets => bind (text name (some octets)) fun text => pure (some text)

/-- The object at an address, if it is of the kind that the view shows. An address that holds no
such object counts as null. -/
def object (name : String) (view : NativeObject engine → Option Content)
    (raw : Option Address) : Body engine (Address × Content) :=
  fun heap =>
    match raw.bind fun address => (heap.object? address).bind fun object =>
      (view object).map fun content => (address, content) with
    | some found => (.value found, heap)
    | none => (.refused (.nullArgument name), heap)

/-- The place that a database object names. -/
def database : Option Address → Body engine (Address × DatabasePlace) :=
  object "database" fun held => match held with
    | .database place => some place
    | _ => none

/-- The wallet at an address. -/
def wallet : Option Address → Body engine (Address × OpenWallet engine) :=
  object "wallet" fun held => match held with
    | .wallet state => some state
    | _ => none

/-- The connection at an address. -/
def blockchain : Option Address → Body engine (Address × ChainSource engine) :=
  object "blockchain" fun held => match held with
    | .blockchain source => some source
    | _ => none

/-- What the builder at an address has been told. -/
def builder : Option Address → Body engine (Address × BuilderParams) :=
  object "builder" fun held => match held with
    | .builder params => some params
    | _ => none

/-- The partially signed transaction at an address. -/
def psbt : Option Address → Body engine (Address × PartialTransaction) :=
  object "psbt" fun held => match held with
    | .psbt signed => some signed
    | _ => none

/-- Puts another object at the place of one. -/
def replace (address : Address) (object : NativeObject engine) : Body engine Unit :=
  modify (·.replace address object)

/-! ### Allocations -/

/-- Hands an object out. -/
def newObject (object : NativeObject engine) : Body engine (Option Address) := fun heap =>
  let address := heap.made + 1
  (.value (some address),
    { heap with objects := (address, object) :: heap.objects, made := address, live := heap.live + 1 })

/-- A string as it is handed out: zero octets would end it, and are replaced. -/
def ownedOctets (text : String) : Bytes :=
  (Utf8.encode text).flatMap fun octet => if octet = 0 then [0xEF, 0xBF, 0xBD] else [octet]

/-- Hands a string out. -/
def newText (text : String) : Body engine NativeString := fun heap =>
  (.value (some (ownedOctets text)), { heap with live := heap.live + 1 })

/-- Hands a block out, with room for as many elements as it has. -/
def newBlock {Element : Type} (elements : List Element) : Body engine (Block Element) := fun heap =>
  (.value (.held elements 0), { heap with live := heap.live + 1 })

/-- Does a body for every item of a list that comes without a panic, in order. -/
def each {Item : Type} (body : Item → Body engine Content) :
    List (Attempt Empty Item) → Body engine (List Content)
  | [] => pure []
  | item :: rest =>
    bind (certain item) fun item => bind (body item) fun content =>
      bind (each body rest) fun contents => pure (content :: contents)

/-! ### Answers -/

/-- The error that an answer carries. -/
def rawError (fault : NativeFault) : RawError :=
  ⟨some (ownedOctets fault.code), some (ownedOctets fault.message)⟩

/-- The answer with an error: the transit struct, the error and its two strings. -/
def refuse {payload : Payload} (fault : NativeFault) (heap : NativeHeap engine) :
    Reply payload × NativeHeap engine :=
  (some ⟨payload.blank, some (rawError fault)⟩, { heap with live := heap.live + 4 })

/-- The answer of an entry point. -/
def respond {payload : Payload} (body : Body engine payload.Raw) (heap : NativeHeap engine) :
    Reply payload × NativeHeap engine :=
  match body heap with
  | (.value value, after) => (some ⟨value, none⟩, { after with live := after.live + 1 })
  | (.refused fault, after) => refuse fault after
  | (.panicked text, after) => refuse (.panicked text) after

end Body

end WalletBridge
