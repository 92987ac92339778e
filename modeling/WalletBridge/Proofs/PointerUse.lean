/-
This file says which opaque pointers the operations of the facades pass to the native libraries. A
call gets a pointer as its receiver, as its second argument, or to free it. Every pointer of an
operation comes out of a handle that the operation was given: the receiver together with the library
that is called, the second argument without its own. An operation itself frees no object. Each proof
follows its operation step by step, whatever is released already and whatever the native side
answers.
-/

import WalletBridge.Proofs.Ledger

namespace WalletBridge

/-! ### Pointers that cross the boundary -/

/-- An opaque pointer: the kind of object that it is taken for, and its address. -/
abbrev Pointer := ResourceKind × Address

/-- The object that an entry point works on. -/
def Entry.receiver? {payload : Payload} : Entry payload → Option Pointer
  | .openDatabase _ => none
  | .newWallet _ _ _ database => database.map (.databaseConfig, ·)
  | .peekAddress wallet _ => wallet.map (.wallet, ·)
  | .revealNextAddress wallet => wallet.map (.wallet, ·)
  | .balance wallet => wallet.map (.wallet, ·)
  | .listUnspent wallet => wallet.map (.wallet, ·)
  | .listTransactions wallet => wallet.map (.wallet, ·)
  | .sync wallet _ => wallet.map (.wallet, ·)
  | .sign wallet _ => wallet.map (.wallet, ·)
  | .connect _ => none
  | .addRecipient builder _ _ => builder.map (.txBuilder, ·)
  | .feeRate builder _ => builder.map (.txBuilder, ·)
  | .finish builder _ => builder.map (.txBuilder, ·)
  | .parsePsbt _ => none

/-- The second object that an entry point gets. -/
def Entry.argument? {payload : Payload} : Entry payload → Option Pointer
  | .sync _ blockchain => blockchain.map (.blockchain, ·)
  | .sign _ psbt => psbt.map (.psbt, ·)
  | .finish _ wallet => wallet.map (.wallet, ·)
  | _ => none

/-- The object that a direct call works on. -/
def DirectCall.receiver? {payload : Payload} : DirectCall payload → Option Pointer
  | .memoryDatabase => none
  | .newBuilder => none
  | .serialize psbt => psbt.map (.psbt, ·)
  | .txid psbt => psbt.map (.psbt, ·)

/-- The object that a release gives back. -/
def Release.pointer? : Release → Option Pointer
  | .object kind address => some (kind, address)
  | _ => none

namespace Crossing

/-- The library that a crossing calls. -/
def library : Crossing → LibraryId
  | .asked library .. => library
  | .handed library .. => library
  | .released library _ => library

/-- The pointer that a call gets as its receiver, or to free it. -/
def receiver? : Crossing → Option Pointer
  | .asked _ _ entry _ => entry.receiver?
  | .handed _ _ call _ => call.receiver?
  | .released _ release => release.pointer?

/-- The pointer that a call gets as its second argument. -/
def argument? : Crossing → Option Pointer
  | .asked _ _ entry _ => entry.argument?
  | _ => none

/-- The object that a crossing gives back. -/
def freed? : Crossing → Option Pointer
  | .released _ release => release.pointer?
  | _ => none

/-- A crossing that draws its pointers from some holdings: it works on an object that a handle of
the called library owns, its second argument is an object that a handle owns, of the called library
if the objects are paired, and it frees no object. -/
structure Draws (holdings : List Holding) (paired : Prop) (crossing : Crossing) : Prop where
  keeps : crossing.freed? = none
  receiver : ∀ pointer ∈ crossing.receiver?,
    .handle crossing.library pointer.1 pointer.2 ∈ holdings
  argument : ∀ pointer ∈ crossing.argument?, ∃ owner,
    .handle owner pointer.1 pointer.2 ∈ holdings ∧ (paired → owner = crossing.library)

end Crossing

/-! ### Actions that draw their pointers from some holdings -/

variable {State Content Other : Type} {around : Surroundings State}

/-- Everything that an action writes into the journal draws its pointers from some holdings. -/
def Writes (holdings : List Holding) (paired : Prop) (action : Action State Content) : Prop :=
  ∀ process, ∃ added, (action process).2.journal = added ++ process.journal ∧
    ∀ crossing ∈ added, crossing.Draws holdings paired

namespace Writes

variable {holdings : List Holding} {paired : Prop}

theorem nothing {action : Action State Content}
    (same : ∀ process, (action process).2.journal = process.journal) :
    Writes holdings paired action :=
  fun process => ⟨[], same process, nofun⟩

theorem pure (content : Content) :
    Writes holdings paired (Run.pure content : Action State Content) :=
  nothing fun _ => rfl

theorem fail (error : BridgeError) :
    Writes holdings paired (Run.fail error : Action State Content) :=
  nothing fun _ => rfl

theorem lift (result : Except BridgeError Content) :
    Writes holdings paired (Run.lift result : Action State Content) :=
  nothing fun _ => rfl

theorem bind {first : Action State Content} {next : Content → Action State Other}
    (writesFirst : Writes holdings paired first)
    (writesNext : ∀ content, Writes holdings paired (next content)) :
    Writes holdings paired (first >>= next) := by
  intro process
  obtain ⟨added, journal, draws⟩ := writesFirst process
  rw [Run.bind_apply]
  generalize first process = ended at journal ⊢
  obtain ⟨outcome, between⟩ := ended
  cases outcome with
  | value content =>
    obtain ⟨more, after, drawsMore⟩ := writesNext content between
    refine ⟨more ++ added, ?_, ?_⟩
    · rw [List.append_assoc, ← journal]
      exact after
    · exact List.forall_mem_append.mpr ⟨drawsMore, draws⟩
  | failure error => exact ⟨added, journal, draws⟩
  | halted halt => exact ⟨added, journal, draws⟩

/-- A cleanup may give back anything but an object. -/
theorem guarded {body : Action State Content} (library : LibraryId) {freed : Release}
    (noObject : freed.pointer? = none) (writes : Writes holdings paired body) :
    Writes holdings paired (body.guarded (around.release library freed)) := by
  intro process
  obtain ⟨added, journal, draws⟩ := writes process
  refine ⟨.released library freed :: added, ?_, ?_⟩
  · show Crossing.released library freed :: (body process).2.journal = _
    rw [journal, List.cons_append]
  · refine List.forall_mem_cons.mpr ⟨⟨noObject, fun pointer isFreed => ?_, nofun⟩, draws⟩
    rw [Crossing.receiver?, noObject] at isFreed
    cases isFreed

theorem each {Item : Type} {run : Item → Action State Content}
    (writes : ∀ item, Writes holdings paired (run item)) (items : List Item) :
    Writes holdings paired (Run.each run items) := by
  induction items with
  | nil => exact pure []
  | cons item items inductionHypothesis =>
    refine bind (writes item) fun content => ?_
    refine bind inductionHypothesis fun contents => ?_
    exact pure (content :: contents)

/-! ### Crossing the boundary -/

theorem library : Writes holdings paired around.library := by
  refine nothing fun process => ?_
  simp only [Surroundings.library]
  generalize process.binding.bind _ around.loader = found
  obtain ⟨bound, binding⟩ := found
  cases bound <;> rfl

theorem wrap (kind : ResourceKind) (library : NativeLibrary) (raw : Option Address) :
    Writes holdings paired (Handle.wrap kind library raw : Action State (Handle kind)) := by
  cases raw <;> exact nothing fun _ => rfl

theorem takeText (library : LibraryId) (raw : NativeString) (operation : String) :
    Writes holdings paired (around.takeText library raw operation) := by
  cases raw with
  | none => exact fail _
  | some octets => exact guarded library rfl (lift (readOwned octets))

theorem sequence {Raw : Type} (library : LibraryId) (freed : List Raw → Nat → Release)
    (noObject : ∀ elements spare, (freed elements spare).pointer? = none)
    (release : Block Raw → Host State → Host State)
    (release_held : ∀ elements spare,
      release (.held elements spare) = around.release library (freed elements spare))
    (element : Raw → Except BridgeError Content) (block : Block Raw) :
    Writes holdings paired (toSequence block (release block) fun raw => Run.lift (element raw)) := by
  cases block with
  | null claimed =>
    simp only [toSequence]
    split
    · exact pure []
    · exact fail _
  | held elements spare =>
    rw [release_held]
    exact guarded library (noObject elements spare) (each (fun raw => lift (element raw)) elements)

/-- A direct call that works on an object which a handle of its library owns, or on none. -/
theorem call {payload : Payload} (library : LibraryId) (direct : DirectCall payload)
    (receiver : ∀ pointer ∈ direct.receiver?, .handle library pointer.1 pointer.2 ∈ holdings) :
    Writes holdings paired (around.call library direct) :=
  fun process =>
    ⟨[.handed library payload direct (around.side.hand library direct process.native).1], rfl,
      List.forall_mem_singleton.mpr ⟨rfl, receiver, nofun⟩⟩

/-- A question to an entry point whose pointers are drawn from the holdings. -/
theorem query {payload : Payload} (library : LibraryId) (entry : Entry payload)
    {convert : payload.Raw → Action State Content}
    (receiver : ∀ pointer ∈ entry.receiver?, .handle library pointer.1 pointer.2 ∈ holdings)
    (argument : ∀ pointer ∈ entry.argument?, ∃ owner,
      .handle owner pointer.1 pointer.2 ∈ holdings ∧ (paired → owner = library))
    (converts : ∀ value, Writes holdings paired (convert value)) :
    Writes holdings paired (around.query library entry convert) := by
  refine bind (fun process => ?_) fun reply => ?_
  · exact ⟨[.asked library payload entry (around.side.answer library entry process.native).1], rfl,
      List.forall_mem_singleton.mpr ⟨rfl, receiver, argument⟩⟩
  · match reply with
    | none => exact fail _
    | some ⟨value, some error⟩ => exact guarded library rfl (fail (readError error))
    | some ⟨value, none⟩ => exact guarded library rfl (converts value)

/-! ### Facades -/

/-- What follows the look at a handle gets an address that the handle owns. -/
theorem owned {kind : ResourceKind} {handle : Handle kind} (held : handle.holdings ⊆ holdings)
    {next : Address → Action State Content}
    (writes : ∀ address, .handle handle.library.id kind address ∈ holdings →
      Writes holdings paired (next address)) :
    Writes holdings paired (Run.lift handle.address >>= next) := by
  rw [Handle.address]
  cases slot : handle.slot with
  | none => exact nothing fun _ => rfl
  | some address =>
    refine writes address (held ?_)
    rw [Handle.holdings, slot]
    exact List.mem_cons_self

/-- The only receiver is drawn from the holdings. -/
theorem drawn {library : LibraryId} {kind : ResourceKind} {address : Address}
    (member : .handle library kind address ∈ holdings) :
    ∀ pointer ∈ (some address).map ((kind, ·) : Address → Pointer),
      .handle library pointer.1 pointer.2 ∈ holdings := by
  rintro pointer ⟨⟩
  exact member

/-- So is the only argument, which is of the called library if the objects are paired. -/
theorem drawnArgument {library owner : LibraryId} {kind : ResourceKind} {address : Address}
    (member : .handle owner kind address ∈ holdings) (same : paired → owner = library) :
    ∀ pointer ∈ (some address).map ((kind, ·) : Address → Pointer), ∃ owner,
      .handle owner pointer.1 pointer.2 ∈ holdings ∧ (paired → owner = library) := by
  rintro pointer ⟨⟩
  exact ⟨owner, member, same⟩

theorem memoryDatabase : Writes holdings paired around.memoryDatabase := by
  refine bind library fun library => ?_
  refine bind (call library.id .memoryDatabase nofun) fun raw => ?_
  exact bind (wrap .databaseConfig library raw) fun handle => pure _

theorem fileDatabase (path : Bytes) : Writes holdings paired (around.fileDatabase path) := by
  refine bind (lift _) fun text => ?_
  refine bind library fun library => ?_
  refine bind (lift _) fun octets => ?_
  refine query library.id (.openDatabase (some octets)) nofun nofun fun raw => ?_
  exact bind (wrap .databaseConfig library raw) fun handle => pure _

theorem newWallet (descriptor : String) (change : Option String) (network : Network)
    {database : DatabaseConfig} (held : database.handle.holdings ⊆ holdings) :
    Writes holdings paired (around.newWallet descriptor change network database) := by
  refine bind (lift _) fun descriptorOctets => ?_
  refine bind (lift _) fun changeOctets => ?_
  refine bind (lift _) fun networkOctets => ?_
  refine owned held fun address member => ?_
  refine query _ (.newWallet (some descriptorOctets) changeOctets (some networkOctets)
    (some address)) (drawn member) nofun fun raw => ?_
  exact bind (wrap .wallet _ raw) fun handle => pure _

section

variable {wallet : Wallet} (held : wallet.handle.holdings ⊆ holdings)

include held

theorem peekAddress (index : UInt32) : Writes holdings paired (around.peekAddress wallet index) :=
  owned held fun address member =>
    query _ (.peekAddress (some address) index) (drawn member) nofun fun raw => takeText _ raw _

theorem revealNextAddress : Writes holdings paired (around.revealNextAddress wallet) :=
  owned held fun address member =>
    query _ (.revealNextAddress (some address)) (drawn member) nofun fun raw => takeText _ raw _

theorem walletBalance : Writes holdings paired (around.walletBalance wallet) :=
  owned held fun address member =>
    query _ (.balance (some address)) (drawn member) nofun fun raw => pure (Balance.ofRaw raw)

theorem listUnspent : Writes holdings paired (around.listUnspent wallet) :=
  owned held fun address member =>
    query _ (.listUnspent (some address)) (drawn member) nofun fun block =>
      sequence _ .outputs (fun _ _ => rfl) (around.releaseOutputs _) (fun _ _ => rfl)
        LocalUtxo.ofRaw block

theorem listTransactions : Writes holdings paired (around.listTransactions wallet) :=
  owned held fun address member =>
    query _ (.listTransactions (some address)) (drawn member) nofun fun block =>
      sequence _ .transactions (fun _ _ => rfl) (around.releaseTransactions _) (fun _ _ => rfl)
        TransactionDetails.ofRaw block

theorem sync {blockchain : Blockchain} (heldChain : blockchain.handle.holdings ⊆ holdings)
    (same : paired → blockchain.handle.library.id = wallet.handle.library.id) :
    Writes holdings paired (around.sync wallet blockchain) :=
  owned held fun walletAddress member => owned heldChain fun chainAddress memberChain =>
    query _ (.sync (some walletAddress) (some chainAddress)) (drawn member)
      (drawnArgument memberChain same) fun _ => pure ()

theorem sign {psbt : Psbt} (heldPsbt : psbt.handle.holdings ⊆ holdings)
    (same : paired → psbt.handle.library.id = wallet.handle.library.id) :
    Writes holdings paired (around.sign wallet psbt) :=
  owned held fun walletAddress member => owned heldPsbt fun psbtAddress memberPsbt =>
    query _ (.sign (some walletAddress) (some psbtAddress)) (drawn member)
      (drawnArgument memberPsbt same) pure

theorem finish {builder : TxBuilder} (heldBuilder : builder.handle.holdings ⊆ holdings)
    (same : paired → wallet.handle.library.id = builder.handle.library.id) :
    Writes holdings paired (around.finish builder wallet) :=
  owned heldBuilder fun builderAddress memberBuilder => owned held fun walletAddress member =>
    query _ (.finish (some builderAddress) (some walletAddress)) (drawn memberBuilder)
      (drawnArgument member same) fun raw => bind (wrap .psbt _ raw) fun _ => pure _

end

theorem connect (config : ElectrumConfig) : Writes holdings paired (around.connect config) := by
  refine bind library fun library => ?_
  refine bind (lift _) fun url => ?_
  refine bind (lift _) fun socks5 => ?_
  refine query library.id (.connect (some (config.toRaw url socks5))) nofun nofun fun raw => ?_
  exact bind (wrap .blockchain library raw) fun handle => pure _

theorem newBuilder : Writes holdings paired around.newBuilder := by
  refine bind library fun library => ?_
  refine bind (call library.id .newBuilder nofun) fun raw => ?_
  exact bind (wrap .txBuilder library raw) fun handle => pure _

section

variable {builder : TxBuilder} (held : builder.handle.holdings ⊆ holdings)

include held

theorem addRecipient (recipient : String) (amount : UInt64) :
    Writes holdings paired (around.addRecipient builder recipient amount) := by
  refine bind (lift _) fun octets => ?_
  refine owned held fun address member => ?_
  exact query _ (.addRecipient (some address) (some octets) amount) (drawn member) nofun
    fun _ => pure ()

theorem feeRate (satPerVb : UInt64) : Writes holdings paired (around.feeRate builder satPerVb) :=
  owned held fun address member =>
    query _ (.feeRate (some address) satPerVb) (drawn member) nofun fun _ => pure ()

end

theorem parsePsbt (base64 : String) : Writes holdings paired (around.parsePsbt base64) := by
  refine bind library fun library => ?_
  refine bind (lift _) fun octets => ?_
  refine query library.id (.parsePsbt (some octets)) nofun nofun fun raw => ?_
  exact bind (wrap .psbt library raw) fun handle => pure _

section

variable {psbt : Psbt} (held : psbt.handle.holdings ⊆ holdings)

include held

theorem serialize : Writes holdings paired (around.serialize psbt) :=
  owned held fun address member =>
    bind (call _ (.serialize (some address)) (drawn member)) fun raw => takeText _ raw _

theorem txid : Writes holdings paired (around.txid psbt) :=
  owned held fun address member =>
    bind (call _ (.txid (some address)) (drawn member)) fun raw => takeText _ raw _

end

end Writes

end WalletBridge
