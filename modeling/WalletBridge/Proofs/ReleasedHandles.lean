/-
This file says what an operation does that is given a released object. The native side is never
called and nothing changes; what the caller is told names the kind of the first released object,
the receiver before the argument, with one exception: the two operations that take both a text and
an object turn the text into octets first. A zero character in such a text is reported in place of
the released object, although the one is a mistake that can be corrected and the other is fatal.
-/

import WalletBridge.Host.History
import WalletBridge.Proofs.Utf8RoundTrip
import WalletBridge.Scripted

namespace WalletBridge

/-! ### Facades of one kind -/

/-- The objects of a kind. -/
def Facade : ResourceKind → Type
  | .databaseConfig => DatabaseConfig
  | .wallet => Wallet
  | .blockchain => Blockchain
  | .txBuilder => TxBuilder
  | .psbt => Psbt

/-- An object of a kind, among all objects. -/
def Object.ofFacade : {kind : ResourceKind} → Facade kind → Object
  | .databaseConfig, facade => .database facade
  | .wallet, facade => .wallet facade
  | .blockchain, facade => .blockchain facade
  | .txBuilder, facade => .builder facade
  | .psbt, facade => .psbt facade

/-- An object as one of a kind, if it is one. A handle without a facade is of no kind here. -/
def Object.facade? : (kind : ResourceKind) → Object → Option (Facade kind)
  | .databaseConfig, .database facade => some facade
  | .wallet, .wallet facade => some facade
  | .blockchain, .blockchain facade => some facade
  | .txBuilder, .builder facade => some facade
  | .psbt, .psbt facade => some facade
  | _, _ => none

theorem Object.eq_ofFacade {kind : ResourceKind} {object : Object} {facade : Facade kind}
    (same : object.facade? kind = some facade) : object = .ofFacade facade := by
  cases kind <;> cases object <;> cases same <;> rfl

/-! ### What an operation uses -/

namespace Operation

/-- The objects that an operation uses, with the kinds they must be of: the receiver first. -/
def targets : Operation → List (String × ResourceKind)
  | .openWallet _ database _ _ _ => [(database, .databaseConfig)]
  | .peekAddress wallet _ => [(wallet, .wallet)]
  | .revealNextAddress wallet => [(wallet, .wallet)]
  | .peekFirst wallet count => if count = 0 then [] else [(wallet, .wallet)]
  | .balance wallet => [(wallet, .wallet)]
  | .listUnspent wallet => [(wallet, .wallet)]
  | .listTransactions wallet => [(wallet, .wallet)]
  | .sync wallet chain => [(wallet, .wallet), (chain, .blockchain)]
  | .sign wallet psbt => [(wallet, .wallet), (psbt, .psbt)]
  | .serialize psbt => [(psbt, .psbt)]
  | .txid psbt => [(psbt, .psbt)]
  | .addRecipient builder _ _ => [(builder, .txBuilder)]
  | .feeRate builder _ => [(builder, .txBuilder)]
  | .finish _ builder wallet => [(builder, .txBuilder), (wallet, .wallet)]
  | _ => []

/-- The texts that an operation takes beside its objects, with the names they are reported by. -/
def texts : Operation → List (String × String)
  | .openWallet _ _ descriptor change _ =>
    (descriptor, "descriptor") :: (change.map (·, "change_descriptor")).toList
  | .addRecipient _ recipient _ => [(recipient, "address")]
  | _ => []

end Operation

/-! ### Texts that go out -/

/-- What is wrong with a text that goes out under a name. -/
def textFault? (text : String × String) : Option BridgeError :=
  match argumentOctets text.1 text.2 with
  | .error fault => some fault
  | .ok _ => none

/-- The first fault of some texts; without one, the given error. -/
def firstFault (texts : List (String × String)) (error : BridgeError) : BridgeError :=
  (texts.findSome? textFault?).getD error

theorem firstFault_cons (text : String × String) (rest : List (String × String))
    (error : BridgeError) :
    firstFault (text :: rest) error = (textFault? text).getD (firstFault rest error) := by
  rw [firstFault, List.findSome?_cons]
  cases textFault? text <;> rfl

/-- A text is at fault exactly if it has a zero character. -/
theorem textFault?_eq_none (text : String × String) :
    textFault? text = none ↔ '\x00' ∉ text.1.toList := by
  have octets : (Utf8.encode text.1).findIdx? (· == 0) = none ↔ '\x00' ∉ text.1.toList := by
    rw [List.findIdx?_eq_none_iff]
    constructor
    · intro nonzero member
      have zero : (0 : UInt8) ∈ Utf8.encode text.1 :=
        List.mem_flatMap.mpr ⟨'\x00', member, by decide⟩
      exact absurd (nonzero 0 zero) (by decide)
    · intro absent octet member
      obtain ⟨character, present, within⟩ := List.mem_flatMap.mp member
      have nonzero : character ≠ '\x00' := fun same => absent (same ▸ present)
      exact beq_eq_false_iff_ne.mpr (Utf8.ne_zero_of_mem_encodeChar nonzero within)
  rw [← octets, textFault?, argumentOctets]
  cases (Utf8.encode text.1).findIdx? (· == 0) <;> simp

/-- A fault of a text is an ordinary one. -/
theorem textFault?_isInvalidInput {text : String × String} {fault : BridgeError}
    (bad : textFault? text = some fault) : fault.kind = .invalidInput := by
  rw [textFault?, argumentOctets] at bad
  cases position : (Utf8.encode text.1).findIdx? (· == 0) with
  | none => rw [position] at bad; cases bad
  | some index => rw [position] at bad; cases bad; rfl

/-- The released object is what is reported exactly if no text has a zero character. -/
theorem firstFault_eq_useAfterFree (texts : List (String × String)) (kind : ResourceKind) :
    firstFault texts (.useAfterFree kind) = .useAfterFree kind ↔
      ∀ text ∈ texts, '\x00' ∉ text.1.toList := by
  induction texts with
  | nil => exact ⟨fun _ => nofun, fun _ => rfl⟩
  | cons text rest inductionHypothesis =>
    rw [firstFault_cons, List.forall_mem_cons, ← inductionHypothesis, ← textFault?_eq_none]
    cases bad : textFault? text with
    | none => exact ⟨fun same => ⟨rfl, same⟩, fun both => both.2⟩
    | some fault =>
      refine ⟨fun same => ?_, fun both => nomatch both.1⟩
      have ordinary := textFault?_isInvalidInput bad
      rw [show fault = .useAfterFree kind from same] at ordinary
      cases ordinary

/-! ### Runs that end before they do anything -/

/-- A run that ends with an error and leaves the state as it is. -/
def Run.Refuses {State Content : Type} (run : Run State Content) (error : BridgeError) : Prop :=
  ∀ state, run state = (.failure error, state)

namespace Run.Refuses

variable {State Content Result : Type} {kind : ResourceKind} {error : BridgeError}

theorem lift {result : Except BridgeError Content} (failed : result = .error error)
    (next : Content → Run State Result) : Refuses (Run.lift result >>= next) error := by
  subst failed
  exact fun _ => rfl

/-- The object that is asked for first is gone. -/
theorem released {handle : Handle kind} (gone : handle.isLive = false)
    (next : Address → Run State Result) :
    Refuses (Run.lift handle.address >>= next) (.useAfterFree kind) := by
  refine lift ?_ next
  cases slot : handle.slot with
  | none => rw [Handle.address, slot]
  | some address => rw [Handle.isLive, slot] at gone; cases gone

/-- The object that is asked for first is there. -/
theorem live {handle : Handle kind} (there : handle.isLive = true)
    {next : Address → Run State Result} (refuses : ∀ address, Refuses (next address) error) :
    Refuses (Run.lift handle.address >>= next) error := by
  obtain ⟨address, slot⟩ := Option.isSome_iff_exists.mp there
  rw [Handle.address, slot]
  exact refuses address

/-- A text is turned into octets first. -/
theorem text (text name : String) {next : Bytes → Run State Result}
    (refuses : ∀ octets, Refuses (next octets) error) :
    Refuses (Run.lift (argumentOctets text name) >>= next)
      ((textFault? (text, name)).getD error) := by
  rw [textFault?]
  cases checked : argumentOctets text name with
  | error fault => exact lift rfl next
  | ok octets => exact refuses octets

/-- So is a text that may be absent. -/
theorem optionalText (text : Option String) (name : String) {next : NativeString → Run State Result}
    (refuses : ∀ octets, Refuses (next octets) error) :
    Refuses (Run.lift (optionalOctets text name) >>= next)
      (firstFault (text.map (·, name)).toList error) := by
  cases text with
  | none => exact refuses none
  | some text =>
    have head := firstFault_cons (text, name) [] error
    rw [show ((some text).map (·, name)).toList = [(text, name)] from rfl, head, optionalOctets,
      textFault?]
    cases checked : argumentOctets text name with
    | error fault => exact lift rfl next
    | ok octets => exact refuses (some octets)

/-- The name of a network has no zero character. -/
theorem network (network : Network) {next : Bytes → Run State Result}
    (refuses : ∀ octets, Refuses (next octets) error) :
    Refuses (Run.lift (argumentOctets network.name "network") >>= next) error := by
  have clean : textFault? (network.name, "network") = none := by cases network <;> decide
  have checked := text network.name "network" refuses
  rw [clean] at checked
  exact checked

/-- The first of several runs ends before it does anything. -/
theorem each {Item : Type} {run : Item → Run State Content} {item : Item}
    (refuses : Refuses (run item) error) (rest : List Item) :
    Refuses (Run.each run (item :: rest)) error := by
  intro state
  rw [Run.each, Run.bind, refuses state]

end Run.Refuses

/-! ### Sessions -/

namespace Session

variable {State Content : Type} (around : Surroundings State)

/-- The object of a target, if there is one of its kind. -/
def facade? (session : Session State) (target : String × ResourceKind) : Option (Facade target.2) :=
  (session.object? target.1).bind (Object.facade? target.2)

/-- Whether the object under a name has lost its native object. -/
def isReleased (session : Session State) (target : String × ResourceKind) : Bool :=
  (session.object? target.1).any fun object => !object.isLive

/-- The objects that an operation uses are there, each of the kind that it must be of. -/
def Serves (session : Session State) (operation : Operation) : Prop :=
  ∀ target ∈ operation.targets, (session.facade? target).isSome = true

/-- The kind of the first released object among those that an operation uses. -/
def firstReleased? (session : Session State) (operation : Operation) : Option ResourceKind :=
  (operation.targets.find? session.isReleased).map (·.2)

/-- The object of a target. -/
theorem found_of_isSome {session : Session State} {label : String} {kind : ResourceKind}
    (there : (session.facade? (label, kind)).isSome = true) :
    ∃ facade : Facade kind, session.object? label = some (.ofFacade facade) ∧
      session.isReleased (label, kind) = !(Object.ofFacade facade).isLive := by
  obtain ⟨facade, same⟩ := Option.isSome_iff_exists.mp there
  obtain ⟨object, found, isFacade⟩ := Option.bind_eq_some_iff.mp same
  obtain rfl := Object.eq_ofFacade isFacade
  exact ⟨facade, found, by rw [isReleased, found, Option.any_some]⟩

/-- The only object that an operation uses, which is the released one. -/
theorem found_one {session : Session State} {label : String} {kind first : ResourceKind}
    (there : ∀ target ∈ [(label, kind)], (session.facade? target).isSome = true)
    (released : ([(label, kind)].find? session.isReleased).map (·.2) = some first) :
    ∃ facade : Facade kind, session.object? label = some (.ofFacade facade) ∧
      (Object.ofFacade facade).isLive = false ∧ first = kind := by
  obtain ⟨facade, found, liveness⟩ := found_of_isSome (there (label, kind) List.mem_cons_self)
  refine ⟨facade, found, ?_⟩
  rw [List.find?_cons, liveness] at released
  cases live : (Object.ofFacade facade).isLive with
  | false =>
    rw [live] at released
    exact ⟨rfl, (Option.some.inj released).symm⟩
  | true =>
    rw [live] at released
    cases released

/-- The two objects that an operation uses: the receiver is released, or the argument is and the
receiver is there. -/
theorem found_two {session : Session State} {label other : String}
    {kind otherKind first : ResourceKind}
    (there : ∀ target ∈ [(label, kind), (other, otherKind)],
      (session.facade? target).isSome = true)
    (released :
      ([(label, kind), (other, otherKind)].find? session.isReleased).map (·.2) = some first) :
    ∃ (receiver : Facade kind) (argument : Facade otherKind),
      session.object? label = some (.ofFacade receiver) ∧
        session.object? other = some (.ofFacade argument) ∧
        ((Object.ofFacade receiver).isLive = false ∧ first = kind ∨
          (Object.ofFacade receiver).isLive = true ∧
            (Object.ofFacade argument).isLive = false ∧ first = otherKind) := by
  obtain ⟨receiver, found, liveness⟩ := found_of_isSome (there (label, kind) List.mem_cons_self)
  have rest := fun target member => there target (List.mem_cons_of_mem _ member)
  have second := rest (other, otherKind) List.mem_cons_self
  rw [List.find?_cons, liveness] at released
  cases live : (Object.ofFacade receiver).isLive with
  | false =>
    obtain ⟨argument, foundArgument, _⟩ := found_of_isSome second
    rw [live] at released
    exact ⟨receiver, argument, found, foundArgument, .inl ⟨live, (Option.some.inj released).symm⟩⟩
  | true =>
    rw [live] at released
    obtain ⟨argument, foundArgument, goneArgument⟩ := found_one rest released
    exact ⟨receiver, argument, found, foundArgument, .inr ⟨live, goneArgument⟩⟩

theorem withWallet_found {session : Session State} {label : String} {wallet : Wallet}
    (found : session.object? label = some (.wallet wallet))
    (next : Wallet → Response × Session State) : session.withWallet label next = next wallet := by
  rw [withWallet, found]

theorem withPsbt_found {session : Session State} {label : String} {psbt : Psbt}
    (found : session.object? label = some (.psbt psbt))
    (next : Psbt → Response × Session State) : session.withPsbt label next = next psbt := by
  rw [withPsbt, found]

theorem withBuilder_found {session : Session State} {label : String} {builder : TxBuilder}
    (found : session.object? label = some (.builder builder))
    (next : TxBuilder → Response × Session State) :
    session.withBuilder label next = next builder := by
  rw [withBuilder, found]

theorem query_refused {action : Action State Content} {error : BridgeError}
    (refuses : action.Refuses error) (answer : Content → Answer) (session : Session State) :
    session.query action answer = (.refused error, session) := by
  rw [query, perform, refuses session.process]
  rfl

theorem construct_refused {action : Action State Content} {error : BridgeError}
    (refuses : action.Refuses error) (label : String) (object : Content → Object)
    (session : Session State) :
    session.construct around label action object = (.refused error, session) := by
  rw [construct, perform, refuses session.process]

/-- A question to a released wallet. -/
theorem query_wallet_released {session : Session State} {label : String} {first : ResourceKind}
    (there : ∀ target ∈ [(label, ResourceKind.wallet)], (session.facade? target).isSome = true)
    (released : ([(label, ResourceKind.wallet)].find? session.isReleased).map (·.2) = some first)
    {action : Wallet → Action State Content}
    (refuses : ∀ wallet : Wallet, wallet.handle.isLive = false →
      (action wallet).Refuses (.useAfterFree .wallet))
    (answer : Content → Answer) :
    (session.withWallet label fun wallet => session.query (action wallet) answer) =
      (.refused (.useAfterFree first), session) := by
  obtain ⟨wallet, found, gone, rfl⟩ := found_one there released
  rw [withWallet_found found]
  exact query_refused (refuses wallet gone) answer session

/-- What an operation does that is given a released object. -/
theorem operate_of_released {session : Session State} {operation : Operation}
    {first : ResourceKind} (serves : session.Serves operation)
    (released : session.firstReleased? operation = some first) :
    session.operate around operation =
      (.refused (firstFault operation.texts (.useAfterFree first)), session) := by
  cases operation with
  | openWallet label database descriptor change network =>
    obtain ⟨facade, found, gone, rfl⟩ := found_one serves released
    rw [operate, found]
    -- The database is looked at only after the texts have been turned into octets.
    refine construct_refused around ?_ label _ session
    rw [Operation.texts, firstFault_cons]
    refine .text descriptor "descriptor" fun _ => ?_
    refine .optionalText change "change_descriptor" fun _ => ?_
    refine .network network fun _ => ?_
    exact .released gone _
  | peekAddress wallet index =>
    exact query_wallet_released serves released (fun _ gone => .released gone _) _
  | revealNextAddress wallet =>
    exact query_wallet_released serves released (fun _ gone => .released gone _) _
  | peekFirst wallet count =>
    cases count with
    | zero => cases released
    | succ count =>
      refine query_wallet_released serves released (fun facade gone => ?_) _
      rw [List.range_succ_eq_map]
      refine .each ?_ _
      exact .released gone _
  | balance wallet =>
    exact query_wallet_released serves released (fun _ gone => .released gone _) _
  | listUnspent wallet =>
    exact query_wallet_released serves released (fun _ gone => .released gone _) _
  | listTransactions wallet =>
    exact query_wallet_released serves released (fun _ gone => .released gone _) _
  | sync wallet chain =>
    obtain ⟨receiver, argument, found, foundArgument, which⟩ := found_two serves released
    simp only [operate, withWallet_found found, foundArgument, Object.ofFacade]
    refine query_refused ?_ _ session
    obtain ⟨gone, rfl⟩ | ⟨live, gone, rfl⟩ := which
    · exact .released gone _
    · exact .live live fun _ => .released gone _
  | sign wallet psbt =>
    obtain ⟨receiver, argument, found, foundArgument, which⟩ := found_two serves released
    rw [operate, withWallet_found found, withPsbt_found foundArgument]
    refine query_refused ?_ _ session
    obtain ⟨gone, rfl⟩ | ⟨live, gone, rfl⟩ := which
    · exact .released gone _
    · exact .live live fun _ => .released gone _
  | serialize psbt =>
    obtain ⟨facade, found, gone, rfl⟩ := found_one serves released
    rw [operate, withPsbt_found found]
    exact query_refused (.released gone _) _ session
  | txid psbt =>
    obtain ⟨facade, found, gone, rfl⟩ := found_one serves released
    rw [operate, withPsbt_found found]
    exact query_refused (.released gone _) _ session
  | addRecipient builder recipient amount =>
    obtain ⟨facade, found, gone, rfl⟩ := found_one serves released
    rw [operate, withBuilder_found found, Operation.texts, firstFault_cons]
    exact query_refused (.text recipient "address" fun _ => .released gone _) _ session
  | feeRate builder satPerVb =>
    obtain ⟨facade, found, gone, rfl⟩ := found_one serves released
    rw [operate, withBuilder_found found]
    exact query_refused (.released gone _) _ session
  | finish label builder wallet =>
    obtain ⟨receiver, argument, found, foundArgument, which⟩ := found_two serves released
    rw [operate, withBuilder_found found, withWallet_found foundArgument]
    refine construct_refused around ?_ label _ session
    obtain ⟨gone, rfl⟩ | ⟨live, gone, rfl⟩ := which
    · exact .released gone _
    · exact .live live fun _ => .released gone _
  | _ => cases released

/-- An operation that is given a released object changes nothing in the session and calls nothing:
memory, counters, binding, journal and objects are what they were. It is refused with the first
fault of its texts, and without one for the first released object, the receiver before the argument;
so the released object is what the caller is told of exactly if no text has a zero character. -/
theorem released_object_is_refused (session : Session State) (operation : Operation)
    (first : ResourceKind) (serves : session.Serves operation)
    (released : session.firstReleased? operation = some first) :
    session.operate around operation =
        (.refused (firstFault operation.texts (.useAfterFree first)), session) ∧
      ((session.operate around operation).1 = .refused (.useAfterFree first) ↔
        ∀ text ∈ operation.texts, '\x00' ∉ text.1.toList) := by
  have refused := operate_of_released around serves released
  refine ⟨refused, ?_⟩
  rw [refused, ← firstFault_eq_useAfterFree operation.texts first]
  exact ⟨fun same => Response.refused.inj same, fun same => congrArg Response.refused same⟩

/-- A session in which a builder was made and released, beside a live database. -/
def releasedBuilderHistory : List Occurrence :=
  [.install (.complete "linked"), .operation (.openMemory "ledger"),
   .operation (.newBuilder "draft"), .operation (.dispose "draft")]

/-- The surroundings of a process whose native side answers as it is told. -/
def scriptedSurroundings : Surroundings Scripted := ⟨Scripted.side, fun _ => .error "absent"⟩

/-- The session after such a history. -/
def releasedBuilderSession : Session Scripted :=
  ((fresh none Scripted.fresh).occurAll scriptedSurroundings releasedBuilderHistory).2

/-- The builder is there, and it is released. -/
theorem releasedBuilderSession_draft :
    (releasedBuilderSession.facade? ("draft", .txBuilder)).isSome = true ∧
      releasedBuilderSession.isReleased ("draft", .txBuilder) = true := by decide +kernel

theorem serves_draft (recipient : String) (amount : UInt64) :
    releasedBuilderSession.Serves (.addRecipient "draft" recipient amount) :=
  List.forall_mem_singleton.mpr releasedBuilderSession_draft.1

theorem firstReleased?_draft (recipient : String) (amount : UInt64) :
    releasedBuilderSession.firstReleased? (.addRecipient "draft" recipient amount) =
      some .txBuilder := by
  rw [firstReleased?, Operation.targets, List.find?_cons_of_pos releasedBuilderSession_draft.2]
  rfl

theorem released_object_is_refused_builder :
    let payment : Operation := .addRecipient "draft" "address" 1
    releasedBuilderSession.operate scriptedSurroundings payment =
        (.refused (firstFault payment.texts (.useAfterFree .txBuilder)),
          releasedBuilderSession) ∧
      ((releasedBuilderSession.operate scriptedSurroundings payment).1 =
          .refused (.useAfterFree .txBuilder) ↔
        ∀ text ∈ payment.texts, '\x00' ∉ text.1.toList) :=
  released_object_is_refused scriptedSurroundings releasedBuilderSession
    (.addRecipient "draft" "address" 1) .txBuilder (serves_draft "address" 1)
    (firstReleased?_draft "address" 1)

/-- A bad text is reported in place of a released object. -/
theorem released_object_need_not_be_reported :
    ¬∀ (session : Session Scripted) (operation : Operation) (first : ResourceKind),
      session.Serves operation → session.firstReleased? operation = some first →
        session.operate scriptedSurroundings operation =
          (.refused (.useAfterFree first), session) := by
  intro alwaysReported
  have serves := serves_draft "\x00" 1
  have released := firstReleased?_draft "\x00" 1
  have reported := alwaysReported releasedBuilderSession _ _ serves released
  rw [operate_of_released scriptedSurroundings serves released] at reported
  have unmasked := Response.refused.inj (congrArg Prod.fst reported)
  have clean := (firstFault_eq_useAfterFree _ _).mp unmasked
  exact absurd (clean ("\x00", "address") List.mem_cons_self) (by decide)

end Session

end WalletBridge
