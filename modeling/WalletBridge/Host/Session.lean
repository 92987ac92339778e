/-
This file holds sessions: a host process together with a table of named objects. Operations name
the objects they use and the name under which a constructor keeps its result; an object that
already has that name goes away after the new one is there. The table is kept in the order of its
names, which is the order in which the objects that are left go away at the end.
-/

import WalletBridge.Host.Facade

namespace WalletBridge

/-! ### Objects -/

/-- An object that a caller holds. -/
inductive Object where
  | database (database : DatabaseConfig)
  | wallet (wallet : Wallet)
  | blockchain (blockchain : Blockchain)
  | builder (builder : TxBuilder)
  | psbt (psbt : Psbt)
  /-- A handle without a facade around it. -/
  | bare (kind : ResourceKind) (handle : Handle kind)

namespace Object

/-- The kind of the native object behind an object. -/
def kind : Object → ResourceKind
  | .database _ => .databaseConfig
  | .wallet _ => .wallet
  | .blockchain _ => .blockchain
  | .builder _ => .txBuilder
  | .psbt _ => .psbt
  | .bare own _ => own

/-- The handle of an object. -/
def handle : (object : Object) → Handle object.kind
  | .database facade => facade.handle
  | .wallet facade => facade.handle
  | .blockchain facade => facade.handle
  | .builder facade => facade.handle
  | .psbt facade => facade.handle
  | .bare _ own => own

/-- The object with another handle. -/
def withHandle : (object : Object) → Handle object.kind → Object
  | .database _, other => .database ⟨other⟩
  | .wallet facade, other => .wallet { facade with handle := other }
  | .blockchain _, other => .blockchain ⟨other⟩
  | .builder _, other => .builder ⟨other⟩
  | .psbt _, other => .psbt ⟨other⟩
  | .bare own _, other => .bare own other

/-- Whether the native object is still there. -/
def isLive (object : Object) : Bool := object.handle.isLive

/-- An object in one line. -/
def text (object : Object) : String :=
  match object with
  | .bare _ own => own.text
  | .wallet facade =>
    "Wallet \x7b handle: " ++ facade.handle.text ++ ", network: " ++ facade.network.label ++ " \x7d"
  | _ => object.kind.name ++ " \x7b handle: " ++ object.handle.text ++ " \x7d"

end Object

/-! ### Sessions -/

/-- A host process and the objects that its caller holds, in the order of their names. -/
structure Session (State : Type) where
  process : Host State
  objects : List (String × Object)

namespace Session

variable {State Content : Type}

/-- The object with a name. -/
def object? (session : Session State) (label : String) : Option Object :=
  (session.objects.find? (·.1 == label)).map (·.2)

/-- A table with an object under a name, in place of a former one. -/
def insert (label : String) (object : Object) :
    List (String × Object) → List (String × Object)
  | [] => [(label, object)]
  | entry :: rest =>
    if label == entry.1 then (label, object) :: rest
    else if label < entry.1 then (label, object) :: entry :: rest
    else entry :: insert label object rest

/-- Does an action of the process. -/
def perform (action : Action State Content) : Run (Session State) Content := fun session =>
  let (outcome, process) := action session.process
  (outcome, { session with process := process })

/-- Replaces the object under a name. -/
def put (label : String) (object : Object) (session : Session State) : Session State :=
  { session with objects := insert label object session.objects }

/-- Takes a name out of the table. -/
def remove (label : String) (session : Session State) : Session State :=
  { session with objects := session.objects.filter (·.1 != label) }

/-- Releases an object's native object. -/
def releaseObject (around : Surroundings State) (cause : ReleaseCause) (object : Object)
    (process : Host State) : (Bool × Object) × Host State :=
  let ((released, handle), after) := around.releaseHandle cause object.handle process
  ((released, object.withHandle handle), after)

/-- Lets an object go away. -/
def dropObject (around : Surroundings State) (object : Object) (session : Session State) :
    Session State :=
  { session with process := (releaseObject around .drop object session.process).2 }

/-- Keeps an object under a name; a former object of that name goes away afterwards. -/
def keep (around : Surroundings State) (label : String) (object : Object)
    (session : Session State) : Session State :=
  match session.object? label with
  | none => session.put label object
  | some former => dropObject around former (session.put label object)

/-- Lets everything go away that is left, in the order of the names. -/
def close (around : Surroundings State) (session : Session State) : Session State :=
  session.objects.foldl (fun left entry => dropObject around entry.2 (left.remove entry.1)) session

end Session

/-! ### Operations -/

/-- What a caller asks of a session. -/
inductive Operation where
  | openMemory (label : String)
  | openFile (label : String) (path : Bytes)
  | openWallet (label database descriptor : String) (change : Option String) (network : Network)
  | networkName (wallet : String)
  | peekAddress (wallet : String) (index : UInt32)
  | revealNextAddress (wallet : String)
  /-- The addresses with the first indices. -/
  | peekFirst (wallet : String) (count : Nat)
  | balance (wallet : String)
  | listUnspent (wallet : String)
  | listTransactions (wallet : String)
  | connect (label : String) (config : ElectrumConfig)
  | sync (wallet chain : String)
  | sign (wallet psbt : String)
  | parsePsbt (label base64 : String)
  | serialize (psbt : String)
  | txid (psbt : String)
  | newBuilder (label : String)
  | addRecipient (builder recipient : String) (amount : UInt64)
  | feeRate (builder : String) (satPerVb : UInt64)
  | finish (label builder wallet : String)
  | adopt (label : String) (kind : ResourceKind) (address : Option Address)
  | dispose (target : String)
  | isLive (target : String)
  | drop (target : String)
  | describe (target : String)

/-- What an operation gives its caller. -/
inductive Answer where
  | label (name : String)
  | text (content : String)
  | texts (contents : List String)
  | flag (value : Bool)
  | done
  | balance (balance : Balance)
  | outputs (outputs : List LocalUtxo)
  | transactions (transactions : List TransactionDetails)
  deriving Repr, DecidableEq

/-- How an operation ended for its caller. -/
inductive Response where
  | answer (answer : Answer)
  | refused (error : BridgeError)
  | halted (halt : Halt)
  /-- The named role of the operation has no object, or one of another kind. -/
  | missing (role : String)
  deriving Repr, DecidableEq

namespace Session

variable {State Content : Type}

/-- The response that an outcome makes. -/
def respond (outcome : Outcome Content) (answer : Content → Answer) : Response :=
  match outcome with
  | .value content => .answer (answer content)
  | .failure error => .refused error
  | .halted halt => .halted halt

/-- Does an action and answers with what it gives. -/
def query (action : Action State Content) (answer : Content → Answer) (session : Session State) :
    Response × Session State :=
  let (outcome, after) := perform action session
  (respond outcome answer, after)

/-- Does a constructor and keeps what it makes. -/
def construct (around : Surroundings State) (label : String) (action : Action State Content)
    (object : Content → Object) (session : Session State) : Response × Session State :=
  match perform action session with
  | (.value content, after) => (.answer (.label label), keep around label (object content) after)
  | (.failure error, after) => (.refused error, after)
  | (.halted halt, after) => (.halted halt, after)

/-- Goes on with the wallet of a name. -/
def withWallet (label : String) (session : Session State)
    (next : Wallet → Response × Session State) : Response × Session State :=
  match session.object? label with
  | some (.wallet wallet) => next wallet
  | _ => (.missing "wallet", session)

/-- Goes on with the transaction of a name. -/
def withPsbt (label : String) (session : Session State)
    (next : Psbt → Response × Session State) : Response × Session State :=
  match session.object? label with
  | some (.psbt psbt) => next psbt
  | _ => (.missing "psbt", session)

/-- Goes on with the builder of a name. -/
def withBuilder (label : String) (session : Session State)
    (next : TxBuilder → Response × Session State) : Response × Session State :=
  match session.object? label with
  | some (.builder builder) => next builder
  | _ => (.missing "builder", session)

/-- Goes on with the object of a name, of whatever kind. -/
def withTarget (label : String) (session : Session State)
    (next : Object → Response × Session State) : Response × Session State :=
  match session.object? label with
  | some object => next object
  | none => (.missing "target", session)

/-- Releases the object of a name because its owner asks for it. -/
def dispose (around : Surroundings State) (label : String) (object : Object)
    (session : Session State) : Bool × Session State :=
  let ((released, after), process) := releaseObject around .explicit object session.process
  (released, ({ session with process := process }).put label after)

/-- Does an operation. -/
def operate (around : Surroundings State) (operation : Operation) (session : Session State) :
    Response × Session State :=
  match operation with
  | .openMemory label => session.construct around label around.memoryDatabase .database
  | .openFile label path => session.construct around label (around.fileDatabase path) .database
  | .openWallet label database descriptor change network =>
    match session.object? database with
    | some (.database database) =>
      session.construct around label (around.newWallet descriptor change network database) .wallet
    | _ => (.missing "db", session)
  | .networkName wallet => session.withWallet wallet fun wallet =>
    (.answer (.text wallet.network.name), session)
  | .peekAddress wallet index => session.withWallet wallet fun wallet =>
    session.query (around.peekAddress wallet index) .text
  | .revealNextAddress wallet => session.withWallet wallet fun wallet =>
    session.query (around.revealNextAddress wallet) .text
  | .peekFirst wallet count => session.withWallet wallet fun wallet =>
    session.query
      (Run.each (fun index => around.peekAddress wallet (UInt32.ofNat index)) (List.range count))
      .texts
  | .balance wallet => session.withWallet wallet fun wallet =>
    session.query (around.walletBalance wallet) .balance
  | .listUnspent wallet => session.withWallet wallet fun wallet =>
    session.query (around.listUnspent wallet) .outputs
  | .listTransactions wallet => session.withWallet wallet fun wallet =>
    session.query (around.listTransactions wallet) .transactions
  | .connect label config => session.construct around label (around.connect config) .blockchain
  | .sync wallet chain => session.withWallet wallet fun wallet =>
    match session.object? chain with
    | some (.blockchain blockchain) =>
      session.query (around.sync wallet blockchain) fun _ => .done
    | _ => (.missing "chain", session)
  | .sign wallet psbt => session.withWallet wallet fun wallet =>
    session.withPsbt psbt fun psbt => session.query (around.sign wallet psbt) .flag
  | .parsePsbt label base64 => session.construct around label (around.parsePsbt base64) .psbt
  | .serialize psbt => session.withPsbt psbt fun psbt =>
    session.query (around.serialize psbt) .text
  | .txid psbt => session.withPsbt psbt fun psbt => session.query (around.txid psbt) .text
  | .newBuilder label => session.construct around label around.newBuilder .builder
  | .addRecipient builder recipient amount => session.withBuilder builder fun builder =>
    session.query (around.addRecipient builder recipient amount) fun _ => .done
  | .feeRate builder satPerVb => session.withBuilder builder fun builder =>
    session.query (around.feeRate builder satPerVb) fun _ => .done
  | .finish label builder wallet => session.withBuilder builder fun builder =>
    session.withWallet wallet fun wallet =>
      session.construct around label (around.finish builder wallet) .psbt
  | .adopt label kind address =>
    session.construct around label
      (do
        let library ← around.library
        Handle.wrap kind library address)
      (.bare kind)
  | .dispose target => session.withTarget target fun object =>
    let (released, after) := session.dispose around target object
    (.answer (.flag released), after)
  | .isLive target => session.withTarget target fun object =>
    (.answer (.flag object.isLive), session)
  | .drop target => session.withTarget target fun object =>
    (.answer .done, dropObject around object (session.remove target))
  | .describe target => session.withTarget target fun object =>
    (.answer (.text object.text), session)

end Session

end WalletBridge
