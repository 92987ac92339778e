/-
This file proves that the texts of a caller reach the native side as they are or not at all. A text
goes out as its octets, and the native side reads the octets up to the first zero, so a text with a
zero character would arrive cut short. Such a text is found before anything is called: the caller is
told of the first one, in the order in which the operation takes its texts, and where its first zero
stands, and nothing has changed then. All other texts are read as they were sent, and a text that is
absent is read as absent, not as an empty one.

Five operations take texts, two of them optional ones. Each looks for a library or at an object of
its own besides, so the statement is about a process with a library and about live objects.
-/

import WalletBridge.Proofs.BuilderLog
import WalletBridge.Proofs.ConfinedCalls
import WalletBridge.Proofs.ReleasedHandles

namespace WalletBridge

variable {State Content : Type}

/-! ### Zero characters -/

/-- The octets of a text have their first zero at a position: so many octets come before its first
zero character. -/
def FirstZeroAt (text : String) (position : Nat) : Prop :=
  ∃ front back, text.toList = front ++ '\x00' :: back ∧ '\x00' ∉ front ∧
    position = (Utf8.encodeChars front).length

/-- What a caller is told of a text with a zero character. -/
def zeroFault (name : String) (position : Nat) : BridgeError :=
  .invalidInput (name ++ " contains a NUL byte at " ++ toString position)

theorem findIdx?_encodeChars_eq_none {characters : List Char} (zeroFree : '\x00' ∉ characters) :
    (Utf8.encodeChars characters).findIdx? (· == 0) = none := by
  refine List.findIdx?_eq_none_iff.mpr fun octet member => ?_
  obtain ⟨character, present, within⟩ := List.mem_flatMap.mp member
  have nonzero : character ≠ '\x00' := fun same => zeroFree (same ▸ present)
  exact beq_eq_false_iff_ne.mpr (Utf8.ne_zero_of_mem_encodeChar nonzero within)

theorem textFault?_of_firstZeroAt {text : String} {position : Nat}
    (first : FirstZeroAt text position) (name : String) :
    textFault? (text, name) = some (zeroFault name position) := by
  obtain ⟨front, back, split, zeroFree, rfl⟩ := first
  have octets : Utf8.encode text =
      Utf8.encodeChars front ++ 0 :: Utf8.encodeChars back := by
    rw [Utf8.encode, split, Utf8.encodeChars, List.flatMap_append, List.flatMap_cons]
    rfl
  have found : (Utf8.encode text).findIdx? (· == 0) = some (Utf8.encodeChars front).length := by
    rw [octets, List.findIdx?_append, findIdx?_encodeChars_eq_none zeroFree, List.findIdx?_cons]
    simp
  rw [textFault?, argumentOctets]
  simp only [found]
  rfl

/-! ### Texts in the order in which they go out -/

/-- A text that goes out under a name, or is absent. -/
structure SentText where
  name : String
  text : Option String

namespace SentText

/-- A text that is absent or has no zero character. -/
def IsZeroFree (sent : SentText) : Prop := ∀ text ∈ sent.text, '\x00' ∉ text.toList

/-- What is wrong with a text that goes out. -/
def fault? (sent : SentText) : Option BridgeError :=
  sent.text.bind fun text => textFault? (text, sent.name)

theorem IsZeroFree.fault?_eq_none {sent : SentText} (zeroFree : sent.IsZeroFree) :
    sent.fault? = none := by
  obtain ⟨name, text⟩ := sent
  cases text with
  | none => rfl
  | some text => exact (textFault?_eq_none (text, name)).mpr (zeroFree text rfl)

/-- The first text with a zero character is what is reported. -/
theorem findSome?_fault? {texts before behind : List SentText} {name text : String}
    {position : Nat} (split : texts = before ++ ⟨name, some text⟩ :: behind)
    (zeroFree : ∀ earlier ∈ before, earlier.IsZeroFree) (first : FirstZeroAt text position) :
    texts.findSome? fault? = some (zeroFault name position) := by
  have none : before.findSome? fault? = none :=
    List.findSome?_eq_none_iff.mpr fun earlier member => (zeroFree earlier member).fault?_eq_none
  have own : fault? ⟨name, some text⟩ = some (zeroFault name position) :=
    textFault?_of_firstZeroAt first name
  rw [split, List.findSome?_append, none, Option.none_or, List.findSome?_cons, own]

end SentText

/-! ### Reading on the native side -/

/-- In every memory the native side reads an argument as a text. -/
def NativeString.ReadsAs (raw : NativeString) (text : String) : Prop :=
  ∀ (engine : WalletEngine) (name : String) (heap : NativeHeap engine),
    Body.text name raw heap = (.value text, heap)

/-- In every memory the native side reads an argument that may be absent as a text, or as absent. -/
def NativeString.ReadsAsOptional (raw : NativeString) (text : Option String) : Prop :=
  ∀ (engine : WalletEngine) (name : String) (heap : NativeHeap engine),
    Body.optionalText name raw heap = (.value text, heap)

/-- A text that has gone out is read as it was. -/
theorem NativeString.readsAs_of_argumentOctets {text name : String} {octets : Bytes}
    (out : argumentOctets text name = .ok octets) : ReadsAs (some octets) text := by
  intro engine argument heap
  have isText := Body.text?_of_argumentOctets out
  rcases Body.text_apply argument (some octets) heap with ⟨read, found, ended⟩ | ⟨_, noText, _⟩
  · rw [isText] at found
    rw [ended, Option.some.inj found]
  · rw [isText] at noText
    cases noText

theorem NativeString.ReadsAs.optional {octets : Bytes} {text : String}
    (reads : ReadsAs (some octets) text) : ReadsAsOptional (some octets) (some text) := by
  intro engine name heap
  show (Body.text name (some octets) >>= fun read => pure (some read)) heap = _
  rw [Body.bind_apply, reads engine name heap]
  rfl

/-! ### Actions that check their texts first -/

section Checks

variable (around : Surroundings State) (library : LibraryId)
  (question : (payload : Payload) → Entry payload → Prop)

/-- An action that asks an entry point of a library one question and calls nothing else, apart from
giving back what it was answered. -/
def Asks (action : Action State Content) : Prop :=
  ∀ process, ∃ (payload : Payload) (entry : Entry payload), question payload entry ∧
    ∃ freed : List Release, (action process).2.journal =
      freed.map (.released library) ++
        .asked library payload entry (around.side.answer library entry process.native).1 ::
          process.journal

/-- An action that sends some texts: it ends with the fault of the first that has one, and nothing
has happened then; if none has one, it asks its question. -/
def ChecksTexts (texts : List SentText) (action : Action State Content) : Prop :=
  match texts.findSome? SentText.fault? with
  | some fault => action.Refuses fault
  | none => Asks around library question action

variable {around library question} {texts : List SentText}

/-- An answer that is read without a call of its own. -/
theorem Asks.query {payload : Payload} {entry : Entry payload} (asked : question payload entry)
    {convert : payload.Raw → Action State Content}
    (quiet : ∀ raw process, (convert raw process).2.journal = process.journal) :
    Asks around library question (around.query library entry convert) := by
  intro process
  refine ⟨payload, entry, asked, ?_⟩
  -- What is answered is given back at once, with its error if it has one.
  rw [Surroundings.query, Run.bind_apply, Surroundings.ask]
  rcases around.side.answer library entry process.native with ⟨_ | ⟨value, _ | error⟩, native⟩
  · exact ⟨[], rfl⟩
  · exact ⟨[.transit payload none], congrArg (_ :: ·) (quiet value _)⟩
  · exact ⟨[.transit payload (some error)], rfl⟩

theorem ChecksTexts.query {payload : Payload} {entry : Entry payload}
    (asked : question payload entry) {convert : payload.Raw → Action State Content}
    (quiet : ∀ raw process, (convert raw process).2.journal = process.journal) :
    ChecksTexts around library question [] (around.query library entry convert) :=
  Asks.query asked quiet

theorem ChecksTexts.text {name text : String} {next : Bytes → Action State Content}
    (behind : ∀ octets, NativeString.ReadsAs (some octets) text →
      ChecksTexts around library question texts (next octets)) :
    ChecksTexts around library question (⟨name, some text⟩ :: texts)
      (Run.lift (argumentOctets text name) >>= next) := by
  have own : SentText.fault? ⟨name, some text⟩ = textFault? (text, name) := rfl
  rw [ChecksTexts, List.findSome?_cons, own, textFault?]
  cases out : argumentOctets text name with
  | error fault => exact Run.Refuses.lift rfl next
  | ok octets => exact behind octets (NativeString.readsAs_of_argumentOctets out)

theorem ChecksTexts.optionalText {name : String} {text : Option String}
    {next : NativeString → Action State Content}
    (behind : ∀ raw : NativeString, raw.ReadsAsOptional text →
      ChecksTexts around library question texts (next raw)) :
    ChecksTexts around library question (⟨name, text⟩ :: texts)
      (Run.lift (optionalOctets text name) >>= next) := by
  cases text with
  | none => exact behind none fun _ _ _ => rfl
  | some text =>
    have own : SentText.fault? ⟨name, some text⟩ = textFault? (text, name) := rfl
    rw [ChecksTexts, List.findSome?_cons, own, textFault?, optionalOctets]
    cases out : argumentOctets text name with
    | error fault => exact Run.Refuses.lift rfl next
    | ok octets =>
      exact behind (some octets) (NativeString.readsAs_of_argumentOctets out).optional

/-- The address of a live object is no text. -/
theorem ChecksTexts.address {kind : ResourceKind} {handle : Handle kind} {place : Address}
    (live : handle.slot = some place) {next : Address → Action State Content}
    (behind : ChecksTexts around library question texts (next place)) :
    ChecksTexts around library question texts (Run.lift handle.address >>= next) := by
  rw [Handle.address, live]
  exact behind

end Checks

/-- Wrapping an object calls nothing. -/
theorem Handle.wrap_journal (kind : ResourceKind) (library : NativeLibrary) {Facade : Type}
    (facade : Handle kind → Facade) (raw : Option Address) (process : Host State) :
    ((do
      let handle ← Handle.wrap kind library raw
      pure (facade handle) : Action State Facade) process).2.journal = process.journal := by
  cases raw <;> rfl

/-! ### Operations that take texts -/

/-- An operation that takes texts. -/
inductive TextOperation where
  | openFile (path : String)
  | openWallet (descriptor : String) (change : Option String) (network : Network)
      (database : DatabaseConfig)
  | connect (config : ElectrumConfig)
  | addRecipient (builder : TxBuilder) (recipient : String) (amount : UInt64)
  | parsePsbt (base64 : String)

namespace TextOperation

/-- What an operation gives. -/
def Result : TextOperation → Type
  | .openFile _ => DatabaseConfig
  | .openWallet .. => Wallet
  | .connect _ => Blockchain
  | .addRecipient .. => Unit
  | .parsePsbt _ => Psbt

/-- Does an operation. -/
def perform (around : Surroundings State) :
    (operation : TextOperation) → Action State operation.Result
  | .openFile path => around.fileDatabase (Utf8.encode path)
  | .openWallet descriptor change network database =>
    around.newWallet descriptor change network database
  | .connect config => around.connect config
  | .addRecipient builder recipient amount => around.addRecipient builder recipient amount
  | .parsePsbt base64 => around.parsePsbt base64

/-- The texts of an operation, in the order in which it takes them. -/
def texts : TextOperation → List SentText
  | .openFile path => [⟨"path", some path⟩]
  | .openWallet descriptor change network _ =>
    [⟨"descriptor", some descriptor⟩, ⟨"change_descriptor", change⟩, ⟨"network", some network.name⟩]
  | .connect config => [⟨"url", some config.url⟩, ⟨"socks5", config.socks5⟩]
  | .addRecipient _ recipient _ => [⟨"address", some recipient⟩]
  | .parsePsbt base64 => [⟨"psbt", some base64⟩]

/-- Everything but its texts is in order: an operation on an object calls the library of that
object, which is live, and one that opens something calls the library that is bound. -/
def Ready (around : Surroundings State) (process : Host State) (library : NativeLibrary) :
    TextOperation → Prop
  | .openFile _ | .connect _ | .parsePsbt _ => around.boundLibrary process = .ok library
  | .openWallet _ _ _ database =>
    database.handle.isLive = true ∧ database.handle.library = library
  | .addRecipient builder _ _ => builder.handle.isLive = true ∧ builder.handle.library = library

/-- A question whose texts the native side reads as those of the operation. -/
inductive Sends : TextOperation → (payload : Payload) → Entry payload → Prop where
  | openFile {path : String} {raw : NativeString} (read : raw.ReadsAs path) :
      Sends (.openFile path) _ (.openDatabase raw)
  | openWallet {descriptor : String} {change : Option String} {network : Network}
      {database : DatabaseConfig} {rawDescriptor rawChange rawNetwork : NativeString}
      {place : Address} (readDescriptor : rawDescriptor.ReadsAs descriptor)
      (readChange : rawChange.ReadsAsOptional change)
      (readNetwork : rawNetwork.ReadsAs network.name)
      (live : database.handle.slot = some place) :
      Sends (.openWallet descriptor change network database) _
        (.newWallet rawDescriptor rawChange rawNetwork (some place))
  | connect {config : ElectrumConfig} {raw : RawConnection} (readUrl : raw.url.ReadsAs config.url)
      (readSocks5 : raw.socks5.ReadsAsOptional config.socks5) :
      Sends (.connect config) _ (.connect (some raw))
  | addRecipient {builder : TxBuilder} {recipient : String} {amount : UInt64} {raw : NativeString}
      {place : Address} (live : builder.handle.slot = some place) (read : raw.ReadsAs recipient) :
      Sends (.addRecipient builder recipient amount) _ (.addRecipient (some place) raw amount)
  | parsePsbt {base64 : String} {raw : NativeString} (read : raw.ReadsAs base64) :
      Sends (.parsePsbt base64) _ (.parsePsbt raw)

variable {around : Surroundings State} {process : Host State} {library : NativeLibrary}

/-- A process in which a library is bound, or can be, gets it, and only the binding changes. -/
theorem library_of_bound (bound : around.boundLibrary process = .ok library) :
    ∃ binding, ∀ {Content : Type} (next : NativeLibrary → Action State Content),
      (around.library >>= next) process = next library (process.withBinding binding) := by
  obtain ⟨binding, found, -⟩ := around.library_apply process
  refine ⟨binding, fun next => ?_⟩
  rw [Run.bind_apply, found, bound]
  rfl

/-- A path that is a text is one. -/
theorem fileDatabase_encode (path : String) :
    around.fileDatabase (Utf8.encode path) = (do
      let library ← around.library
      let octets ← Run.lift (argumentOctets path "path")
      around.query library.id (.openDatabase (some octets)) fun raw => do
        let handle ← Handle.wrap .databaseConfig library raw
        pure ⟨handle⟩) := by
  rw [Surroundings.fileDatabase, Utf8.decode_encode]
  rfl

/-- Behind the look for its library, an operation checks its texts first. -/
theorem perform_checksTexts {operation : TextOperation}
    (ready : operation.Ready around process library) :
    ∃ (binding : Binding) (action : Action State operation.Result),
      operation.perform around process = action (process.withBinding binding) ∧
        ChecksTexts around library.id operation.Sends operation.texts action := by
  -- Opening something may bind a library on the way, and work on an object never does.
  cases operation with
  | openFile path =>
    obtain ⟨binding, opened⟩ := library_of_bound ready
    refine ⟨binding, _, (congrFun (fileDatabase_encode path) process).trans (opened _), ?_⟩
    refine .text fun _ read => .query (.openFile read) ?_
    exact Handle.wrap_journal _ _ _
  | openWallet descriptor change network database =>
    obtain ⟨live, rfl⟩ := ready
    obtain ⟨place, slot⟩ := Option.isSome_iff_exists.mp live
    refine ⟨process.binding, _, rfl, ?_⟩
    refine .text fun _ readDescriptor => .optionalText fun _ readChange =>
      .text fun _ readNetwork => .address slot ?_
    refine .query (.openWallet readDescriptor readChange readNetwork slot) ?_
    exact Handle.wrap_journal _ _ _
  | connect config =>
    obtain ⟨binding, opened⟩ := library_of_bound ready
    refine ⟨binding, _, opened _, ?_⟩
    refine .text fun _ readUrl => .optionalText fun _ readSocks5 => ?_
    refine .query (.connect readUrl readSocks5) ?_
    exact Handle.wrap_journal _ _ _
  | addRecipient builder recipient amount =>
    obtain ⟨live, rfl⟩ := ready
    obtain ⟨place, slot⟩ := Option.isSome_iff_exists.mp live
    refine ⟨process.binding, _, rfl, ?_⟩
    exact .text fun _ read => .address slot (.query (.addRecipient slot read) fun _ _ => rfl)
  | parsePsbt base64 =>
    obtain ⟨binding, opened⟩ := library_of_bound ready
    refine ⟨binding, _, opened _, ?_⟩
    refine .text fun _ read => .query (.parsePsbt read) ?_
    exact Handle.wrap_journal _ _ _

/-- The first text with a zero character is reported, and nothing but the binding has changed. -/
theorem perform_of_firstZeroAt {operation : TextOperation}
    (ready : operation.Ready around process library) {before behind : List SentText}
    {name text : String} {position : Nat}
    (split : operation.texts = before ++ ⟨name, some text⟩ :: behind)
    (zeroFree : ∀ earlier ∈ before, earlier.IsZeroFree) (first : FirstZeroAt text position) :
    ∃ binding, operation.perform around process =
      (.failure (zeroFault name position), process.withBinding binding) := by
  obtain ⟨binding, action, performed, checks⟩ := perform_checksTexts ready
  rw [ChecksTexts, SentText.findSome?_fault? split zeroFree first] at checks
  exact ⟨binding, performed.trans (checks (process.withBinding binding))⟩

/-- The texts of an operation cross as they are or not at all. The first text with a zero character
is what the caller is told of, with the position of its first zero octet; then nothing was called,
and nothing but the binding has changed. If no text has one, the library is asked a single question,
and reads every text of it as it was given and an absent one as absent. -/
theorem texts_cross_unchanged_or_not_at_all {operation : TextOperation}
    (ready : operation.Ready around process library) :
    (∀ before name text behind position,
        operation.texts = before ++ ⟨name, some text⟩ :: behind →
        (∀ earlier ∈ before, earlier.IsZeroFree) → FirstZeroAt text position →
          ∃ binding, operation.perform around process =
            (.failure (zeroFault name position), process.withBinding binding)) ∧
      ((∀ sent ∈ operation.texts, sent.IsZeroFree) →
        ∃ (payload : Payload) (entry : Entry payload), operation.Sends payload entry ∧
          ∃ freed : List Release, (operation.perform around process).2.journal =
            freed.map (.released library.id) ++
              .asked library.id payload entry
                (around.side.answer library.id entry process.native).1 :: process.journal) := by
  refine ⟨fun before name text behind position split zeroFree first =>
    perform_of_firstZeroAt ready split zeroFree first, fun zeroFree => ?_⟩
  obtain ⟨binding, action, performed, checks⟩ := perform_checksTexts ready
  have noFault : operation.texts.findSome? SentText.fault? = none :=
    List.findSome?_eq_none_iff.mpr fun sent member => (zeroFree sent member).fault?_eq_none
  rw [ChecksTexts, noFault] at checks
  rw [performed]
  exact checks (process.withBinding binding)

/-- A library that is linked in. -/
def linkedLibrary : NativeLibrary := ⟨0, "linked", abiVersion⟩

/-- A process that has bound it. -/
def linkedProcess : Host Scripted :=
  { Host.fresh none Scripted.fresh with binding := ⟨some (.ok linkedLibrary), 1⟩ }

theorem boundLibrary_linkedProcess :
    Session.scriptedSurroundings.boundLibrary linkedProcess = .ok linkedLibrary :=
  rfl

/-- The default settings with a proxy, or without one. -/
def proxied (socks5 : Option String) : ElectrumConfig :=
  { ElectrumConfig.default with socks5 := socks5 }

theorem isZeroFree_default : ∀ sent ∈ (connect .default).texts, sent.IsZeroFree := by
  simp only [texts, List.forall_mem_cons, SentText.IsZeroFree]
  exact ⟨by decide, by simp [ElectrumConfig.default], nofun⟩

/-- A proxy that is cut short by a zero behind two octets is refused, after a URL without one; an
absent proxy is read as absent. -/
theorem texts_cross_unchanged_or_not_at_all_proxied :
    Session.scriptedSurroundings.boundLibrary linkedProcess = .ok linkedLibrary ∧
      FirstZeroAt "é\x00x" 2 ∧
      (∃ binding, Session.scriptedSurroundings.connect (proxied (some "é\x00x")) linkedProcess =
        (.failure (zeroFault "socks5" 2), linkedProcess.withBinding binding)) ∧
      ∃ (payload : Payload) (entry : Entry payload), (connect .default).Sends payload entry ∧
        ∃ freed : List Release,
          (Session.scriptedSurroundings.connect .default linkedProcess).2.journal =
            freed.map (.released linkedLibrary.id) ++
              [.asked linkedLibrary.id payload entry
                (Session.scriptedSurroundings.side.answer linkedLibrary.id entry
                  Scripted.fresh).1] := by
  have bound := boundLibrary_linkedProcess
  have first : FirstZeroAt "é\x00x" 2 := ⟨['é'], ['x'], by decide, by decide, by decide⟩
  have urlFree : ∀ earlier ∈ [SentText.mk "url" (some ElectrumConfig.default.url)],
      earlier.IsZeroFree :=
    List.forall_mem_singleton.mpr (isZeroFree_default _ List.mem_cons_self)
  have proxiedReady : (connect (proxied (some "é\x00x"))).Ready Session.scriptedSurroundings
      linkedProcess linkedLibrary := bound
  have defaultReady : (connect .default).Ready Session.scriptedSurroundings linkedProcess
      linkedLibrary := bound
  obtain ⟨refused, -⟩ := texts_cross_unchanged_or_not_at_all proxiedReady
  obtain ⟨-, asked⟩ := texts_cross_unchanged_or_not_at_all defaultReady
  exact ⟨bound, first, refused _ "socks5" "é\x00x" [] 2 rfl urlFree first, asked isZeroFree_default⟩

end TextOperation

end WalletBridge
