/-
This file holds one wallet file and everybody who uses it over the life of the file, as a machine.
A wallet is opened in two steps, a look for a stored wallet and, if there is none, its creation;
others may take turns in between, unless they open theirs through the same database object, which
serves one at a time. Every open wallet remembers for itself which index it handed out last. What it
hands out it writes to the file first; the write may fail, and the process may stop at any point.
-/

import WalletBridge.Engine.DescriptorWallet

namespace WalletBridge

/-! ### Users -/

/-- Where somebody stands who uses a wallet file. -/
inductive FileStage where
  /-- Looks for a stored wallet next. -/
  | arrived
  /-- Found no stored wallet, and creates one next. -/
  | missed
  | opened (wallet : DescriptorWallet)
  /-- The look for a stored wallet failed; nothing is known of the cause after a panic. -/
  | notLoaded (failure : Option LoadFailure)
  | notCreated (failure : Option CreateFailure)
  /-- Is done with the wallet. -/
  | closed

/-- Somebody who uses a wallet file. -/
structure FileUser where
  /-- The database object through which the wallet is opened. -/
  database : Nat
  request : WalletRequest
  stage : FileStage

/-- What becomes of a write. -/
inductive WriteFate where
  | written
  /-- The file takes nothing, and the wallet keeps what it wanted to write. -/
  | refused
  /-- The process stops before the file has changed. -/
  | stoppedBefore
  /-- The process stops when the file has changed already. -/
  | stoppedAfter
  deriving Repr, DecidableEq

/-- What users see, and the index behind it. -/
inductive FileEvent where
  | loaded (user : Nat)
  | created (user : Nat)
  | refused (user : Nat)
  | peeked (user : Nat) (index : UInt32) (address : String)
  /-- An address was handed out: the one with an index. -/
  | revealed (user index : Nat) (address : String)
  /-- An address was to be handed out, but was not. -/
  | withheld (user : Nat)
  deriving Repr, DecidableEq

/-- A wallet file and its users. -/
structure SharedFile where
  key : StoreKey
  disk : Disk
  /-- The users, in the order in which they arrived. -/
  users : List FileUser
  /-- What happened, the last first. -/
  journal : List FileEvent

/-- One step of somebody. -/
inductive FileStep where
  /-- Somebody arrives who wants a wallet through a database object. -/
  | arrive (database : Nat) (request : WalletRequest)
  /-- A user looks for a stored wallet. -/
  | load (user : Nat)
  /-- A user creates the wallet. -/
  | create (user : Nat)
  /-- A user asks for the address with an index. -/
  | peek (user : Nat) (index : UInt32)
  /-- A user asks for the balance, the outputs or the transactions, which changes nothing. -/
  | inspect (user : Nat)
  /-- A user asks for the next address. -/
  | reveal (user : Nat) (fate : WriteFate)
  /-- A user closes its wallet. -/
  | close (user : Nat)
  /-- The process stops. -/
  | stop

namespace SharedFile

/-- A file that nobody has used. -/
def new (key : StoreKey) (disk : Disk) : SharedFile := ⟨key, disk, [], []⟩

/-- Puts a user into another stage. -/
def setStage (file : SharedFile) (user : Nat) (stage : FileStage) : SharedFile :=
  { file with users := file.users.modify user fun former => { former with stage := stage } }

/-- Writes an event into the journal. -/
def record (file : SharedFile) (event : FileEvent) : SharedFile :=
  { file with journal := event :: file.journal }

/-- Whether somebody is between the two steps of opening a wallet through a database object. -/
def isBusy (file : SharedFile) (database : Nat) : Bool :=
  file.users.any fun user =>
    match user.stage with
    | .missed => user.database == database
    | _ => false

/-- Ends every use of the file. -/
def stop (file : SharedFile) : SharedFile :=
  { file with users := file.users.map fun user => { user with stage := .closed } }

/-- The index that the file holds as the last one that was handed out. -/
def storedIndex? (file : SharedFile) : Option Nat :=
  (file.disk.read file.key).bind (·.revealed.external)

/-- Looks for a stored wallet. -/
def load (file : SharedFile) (id : Nat) (user : FileUser) : SharedFile :=
  let (attempt, disk) := DescriptorWallet.load user.request file.key file.disk
  let after := { file with disk := disk }
  match attempt with
  | .value (some wallet) => (after.setStage id (.opened wallet)).record (.loaded id)
  | .value none => after.setStage id .missed
  | .refused failure => (after.setStage id (.notLoaded (some failure))).record (.refused id)
  | .panicked _ => (after.setStage id (.notLoaded none)).record (.refused id)

/-- Creates the wallet. -/
def create (file : SharedFile) (id : Nat) (user : FileUser) : SharedFile :=
  let (attempt, disk) := DescriptorWallet.create user.request file.key file.disk
  let after := { file with disk := disk }
  match attempt with
  | .value wallet => (after.setStage id (.opened wallet)).record (.created id)
  | .refused failure => (after.setStage id (.notCreated (some failure))).record (.refused id)
  | .panicked _ => (after.setStage id (.notCreated none)).record (.refused id)

/-- Hands the next address of a wallet out, as far as the write comes. -/
def reveal (file : SharedFile) (id : Nat) (wallet : DescriptorWallet) (fate : WriteFate) :
    SharedFile :=
  let (index, _) := DescriptorWallet.nextIndex wallet.external wallet.revealed.external
  let (attempt, revealed) := wallet.reveal
  let unwritten := (file.setStage id (.opened revealed)).record (.withheld id)
  match attempt with
  | .value address =>
    let (_, settled, disk) := revealed.persist file.key file.disk
    match fate with
    | .written =>
      ({ file with disk := disk }.setStage id (.opened settled)).record (.revealed id index address)
    | .refused => unwritten
    | .stoppedBefore => file.stop
    | .stoppedAfter => { file with disk := disk }.stop
  | _ => unwritten

/-- What a user does in its stage, when that is the step it takes. -/
def stepUser (file : SharedFile) (id : Nat) (user : FileUser) : FileStep → Option SharedFile
  | .load _ =>
    match user.stage with
    | .arrived => if file.isBusy user.database then none else some (file.load id user)
    | _ => none
  | .create _ =>
    match user.stage with
    | .missed => some (file.create id user)
    | _ => none
  | .peek _ index =>
    match user.stage with
    | .opened wallet =>
      if DescriptorWallet.indexLimit < index.toNat then some file
      else
        match wallet.peek index with
        | .value address => some (file.record (.peeked id index address))
        | _ => some file
    | _ => none
  | .inspect _ =>
    match user.stage with
    | .opened _ => some file
    | _ => none
  | .reveal _ fate =>
    match user.stage with
    | .opened wallet => some (file.reveal id wallet fate)
    | _ => none
  | .close _ =>
    match user.stage with
    | .opened _ => some (file.setStage id .closed)
    | _ => none
  | .arrive _ _ | .stop => none

/-- Takes a step, when it is possible. -/
def step? (file : SharedFile) (step : FileStep) : Option SharedFile :=
  match step with
  | .arrive database request =>
    some { file with users := file.users ++ [⟨database, request, .arrived⟩] }
  | .stop => some file.stop
  | .load id | .create id | .peek id _ | .inspect id | .reveal id _ | .close id =>
    match file.users[id]? with
    | some user => file.stepUser id user step
    | none => none

/-- Takes steps one after another, when all are possible. -/
def run? (file : SharedFile) : List FileStep → Option SharedFile
  | [] => some file
  | step :: rest => (file.step? step).bind fun after => after.run? rest

/-- The states that the steps lead to from a file that nobody has used. -/
inductive Reachable (key : StoreKey) (disk : Disk) : SharedFile → Prop where
  | new : Reachable key disk (SharedFile.new key disk)
  | step {before after : SharedFile} {step : FileStep}
      (reached : Reachable key disk before) (taken : before.step? step = some after) :
      Reachable key disk after

/-- The addresses that were handed out, the last first. -/
def handedOut (file : SharedFile) : List String :=
  file.journal.filterMap fun event =>
    match event with
    | .revealed _ _ address => some address
    | _ => none

/-- The indexes of the addresses that were handed out, the last first. -/
def handedOutIndexes (file : SharedFile) : List Nat :=
  file.journal.filterMap fun event =>
    match event with
    | .revealed _ index _ => some index
    | _ => none

/-- How many wallets are open. -/
def openCount (file : SharedFile) : Nat :=
  file.users.countP fun user =>
    match user.stage with
    | .opened _ => true
    | _ => false

end SharedFile

end WalletBridge
