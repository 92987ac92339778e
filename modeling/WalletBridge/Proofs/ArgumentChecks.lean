/-
This file proves that an entry point of the native library answers every caller in a form that the
host can read. There is always a transit struct, and it holds either a payload that means something
and no error, or an error with both its texts and the payload that means nothing. That holds
whatever the arguments are and whatever the engine does, panics included.

The arguments of an entry point are written down here once more, in the order in which they are to
be looked at. The first one that is null where it must not be, or that is no text where it has to be
one, is what the error is about; then nothing has happened to any object, to any store or to the
world. If there is no such argument, no error is about one.
-/

import WalletBridge.Engine.Offline
import WalletBridge.Proofs.Utf8Spelling
import WalletBridge.Proofs.WalletChanges

namespace WalletBridge

variable {engine : WalletEngine} {payload : Payload}

/-! ### Arguments in order -/

/-- An argument that an entry point looks at before it does anything, with the name that an error
about it has. -/
inductive Argument where
  /-- The settings of a connection. -/
  | settings (raw : Option RawConnection)
  | text (name : String) (raw : NativeString)
  /-- A text that may be absent. -/
  | optionalText (name : String) (raw : NativeString)
  /-- The address of an object of a kind. -/
  | object (name : String) (kind : ResourceKind) (raw : Option Address)

/-- The arguments of an entry point, in the order in which it looks at them. Numbers are not among
them: every number is an argument in order. -/
def Entry.arguments : Entry payload → List Argument
  | .openDatabase path => [.text "path" path]
  | .newWallet descriptor change network database =>
    [.text "descriptor" descriptor, .optionalText "change_descriptor" change,
      .text "network" network, .object "database" .databaseConfig database]
  | .peekAddress wallet _ => [.object "wallet" .wallet wallet]
  | .revealNextAddress wallet => [.object "wallet" .wallet wallet]
  | .balance wallet => [.object "wallet" .wallet wallet]
  | .listUnspent wallet => [.object "wallet" .wallet wallet]
  | .listTransactions wallet => [.object "wallet" .wallet wallet]
  | .sync wallet blockchain =>
    [.object "wallet" .wallet wallet, .object "blockchain" .blockchain blockchain]
  | .sign wallet psbt => [.object "wallet" .wallet wallet, .object "psbt" .psbt psbt]
  | .connect none => [.settings none]
  | .connect (some settings) =>
    [.settings (some settings), .text "url" settings.url, .optionalText "socks5" settings.socks5]
  | .addRecipient builder address _ =>
    [.object "builder" .txBuilder builder, .text "address" address]
  | .feeRate builder _ => [.object "builder" .txBuilder builder]
  | .finish builder wallet =>
    [.object "builder" .txBuilder builder, .object "wallet" .wallet wallet]
  | .parsePsbt base64 => [.text "base64" base64]

namespace Argument

/-- What is wrong with an argument: it is null and must not be, or its octets spell no text. -/
inductive Offends : Argument → NativeFault → Prop where
  | noSettings : Offends (.settings none) (.nullArgument "config")
  | noText {name : String} : Offends (.text name none) (.nullArgument name)
  | noObject {name : String} {kind : ResourceKind} :
      Offends (.object name kind none) (.nullArgument name)
  | malformedText {name : String} {octets : Bytes} {cause : Utf8.Malformed} :
      (∀ text, octets.untilZero ≠ Utf8.encode text) →
      Utf8.decode octets.untilZero = .error cause →
      Offends (.text name (some octets)) (.malformedArgument name cause)
  | malformedOptionalText {name : String} {octets : Bytes} {cause : Utf8.Malformed} :
      (∀ text, octets.untilZero ≠ Utf8.encode text) →
      Utf8.decode octets.untilZero = .error cause →
      Offends (.optionalText name (some octets)) (.malformedArgument name cause)

/-- An address is null or that of an object of the argument's kind. -/
def PointsIn (heap : NativeHeap engine) : Argument → Prop
  | .object _ kind (some address) =>
    ∃ object, heap.object? address = some object ∧ object.kind = kind
  | _ => True

/-- The fault of octets that have to be a text. -/
def spelling? (name : String) (octets : Bytes) : Option NativeFault :=
  match Utf8.decode octets.untilZero with
  | .ok _ => none
  | .error cause => some (.malformedArgument name cause)

/-- The fault of an argument, if it has one. -/
def offence? : Argument → Option NativeFault
  | .settings none => some (.nullArgument "config")
  | .settings (some _) => none
  | .text name none => some (.nullArgument name)
  | .text name (some octets) => spelling? name octets
  | .optionalText _ none => none
  | .optionalText name (some octets) => spelling? name octets
  | .object name _ none => some (.nullArgument name)
  | .object _ _ (some _) => none

theorem spelling?_eq_some_iff {name : String} {octets : Bytes} {fault : NativeFault} :
    spelling? name octets = some fault ↔
      ∃ cause, (∀ text, octets.untilZero ≠ Utf8.encode text) ∧
        Utf8.decode octets.untilZero = .error cause ∧ fault = .malformedArgument name cause := by
  rw [spelling?]
  cases read : Utf8.decode octets.untilZero with
  | ok text =>
    refine iff_of_false (fun found => by cases found) ?_
    rintro ⟨cause, -, failed, -⟩
    cases failed
  | error cause =>
    constructor
    · intro found
      cases found
      exact ⟨cause, Utf8.exists_decode_eq_error_iff.mp ⟨cause, read⟩, rfl, rfl⟩
    · rintro ⟨cause, -, failed, rfl⟩
      cases failed
      rfl

theorem offence?_eq_some_iff {argument : Argument} {fault : NativeFault} :
    argument.offence? = some fault ↔ argument.Offends fault := by
  constructor
  · intro found
    match argument with
    | .settings none => cases found; exact .noSettings
    | .text name none => cases found; exact .noText
    | .object name kind none => cases found; exact .noObject
    | .text name (some octets) =>
      obtain ⟨cause, none, failed, rfl⟩ := spelling?_eq_some_iff.mp found
      exact .malformedText none failed
    | .optionalText name (some octets) =>
      obtain ⟨cause, none, failed, rfl⟩ := spelling?_eq_some_iff.mp found
      exact .malformedOptionalText none failed
  · intro offends
    cases offends with
    | noSettings | noText | noObject => rfl
    | malformedText none failed | malformedOptionalText none failed =>
      exact spelling?_eq_some_iff.mpr ⟨_, none, failed, rfl⟩

theorem offence?_eq_none_iff {argument : Argument} :
    argument.offence? = none ↔ ∀ fault, ¬ argument.Offends fault := by
  rw [Option.eq_none_iff_forall_ne_some]
  exact forall_congr' fun fault => not_congr offence?_eq_some_iff

/-- The fault of the first argument that has one. -/
def firstOffence? (arguments : List Argument) : Option NativeFault :=
  arguments.findSome? offence?

theorem firstOffence?_of_split {arguments before after : List Argument} {argument : Argument}
    {fault : NativeFault} (split : arguments = before ++ argument :: after)
    (inOrder : ∀ earlier ∈ before, ∀ cause, ¬ earlier.Offends cause)
    (offends : argument.Offends fault) : firstOffence? arguments = some fault := by
  have none : before.findSome? offence? = none :=
    List.findSome?_eq_none_iff.mpr fun earlier member =>
      offence?_eq_none_iff.mpr (inOrder earlier member)
  rw [firstOffence?, split, List.findSome?_append, none, Option.none_or, List.findSome?_cons,
    offence?_eq_some_iff.mpr offends]

theorem firstOffence?_eq_none {arguments : List Argument}
    (inOrder : ∀ argument ∈ arguments, ∀ fault, ¬ argument.Offends fault) :
    firstOffence? arguments = none :=
  List.findSome?_eq_none_iff.mpr fun argument member =>
    offence?_eq_none_iff.mpr (inOrder argument member)

end Argument

/-- Whether an error is about an argument that is null or no text. -/
def NativeFault.isOfArgument : NativeFault → Bool
  | .nullArgument _ | .malformedArgument .. => true
  | _ => false

/-- No other error has a code of those about arguments. -/
theorem NativeFault.code_ne_of_not_isOfArgument {fault : NativeFault}
    (other : fault.isOfArgument = false) : fault.code ≠ "NullArgument" ∧ fault.code ≠ "Utf8" := by
  cases fault with
  | nullArgument name => cases other
  | malformedArgument name cause => cases other
  | load failure => cases failure <;> simp [code, LoadFailure.code]
  | create failure => cases failure <;> simp [code, CreateFailure.code]
  | build failure => cases failure <;> simp [code, BuildFailure.code]
  | _ => simp [code]

/-! ### Answers that can be read -/

/-- A payload that means something: an object of the payload's kind, a text, or a block, whose
elements have their strings. -/
def Payload.IsMeaningful (heap : NativeHeap engine) : (payload : Payload) → payload.Raw → Prop
  | .object kind, raw => ∃ address object,
      raw = some address ∧ heap.object? address = some object ∧ object.kind = kind
  | .text, raw => ∃ text, raw = some (Body.ownedOctets text)
  | .unit, raw => raw = 0
  | .flag, _ | .balance, _ => True
  | .outputs, block => ∃ elements spare, block = .held elements spare ∧
      ∀ element ∈ elements, element.txid.isSome = true ∧ element.script.isSome = true
  | .transactions, block => ∃ elements spare, block = .held elements spare ∧
      ∀ element ∈ elements, element.txid.isSome = true

/-- A transit struct in one of its two forms. -/
def Transit.IsWellFormed (heap : NativeHeap engine) (transit : Transit payload) : Prop :=
  transit.error = none ∧ payload.IsMeaningful heap transit.value ∨
    (∃ code message, transit.error = some ⟨some code, some message⟩) ∧
      transit.value = payload.blank

namespace Body

variable {Content Result Cause Item : Type} {shows : Result → NativeHeap engine → Prop}
  {knows : Content → Prop}

/-! ### Bodies behind their checks -/

/-- What a body ended with shows something, if it is a value, and is no error about an argument. -/
def EndsIn (shows : Content → NativeHeap engine → Prop) :
    Attempt NativeFault Content × NativeHeap engine → Prop
  | (.value content, after) => shows content after
  | (.refused fault, _) => fault.isOfArgument = false
  | (.panicked _, _) => True

/-- A body that ends in this way in every memory. -/
def Delivers (body : Body engine Content) (shows : Content → NativeHeap engine → Prop) : Prop :=
  ∀ heap, EndsIn shows (body heap)

/-- A body that blames no argument. -/
abbrev Blameless (body : Body engine Content) : Prop := Delivers body fun _ _ => True

/-- A value goes on to what follows; with it goes what is known of it in every memory. -/
theorem EndsIn.bind {ended : Attempt NativeFault Content × NativeHeap engine}
    {next : Content → Body engine Result} (first : EndsIn (fun content _ => knows content) ended)
    (behind : ∀ content, knows content → Delivers (next content) shows) :
    EndsIn shows (Body.bind (fun _ => ended) next ended.2) := by
  obtain ⟨attempt, after⟩ := ended
  cases attempt with
  | value content => exact behind content first after
  | refused fault => exact first
  | panicked text => exact first

theorem Delivers.bind {first : Body engine Content} {next : Content → Body engine Result}
    (delivers : Delivers first fun content _ => knows content)
    (behind : ∀ content, knows content → Delivers (next content) shows) :
    Delivers (first >>= next) shows :=
  fun heap => (delivers heap).bind behind

/-- Nothing has to be known of a value that what follows makes nothing of. -/
theorem Blameless.bind {first : Body engine Content} {next : Content → Body engine Result}
    (blameless : Blameless first) (behind : ∀ content, Delivers (next content) shows) :
    Delivers (first >>= next) shows :=
  Delivers.bind blameless fun content _ => behind content

theorem Delivers.pure {shows : Content → NativeHeap engine → Prop} {content : Content}
    (shown : ∀ heap, shows content heap) :
    Delivers (Pure.pure content : Body engine Content) shows :=
  fun heap => shown heap

theorem Delivers.fail {shows : Content → NativeHeap engine → Prop} {fault : NativeFault}
    (other : fault.isOfArgument = false) : Delivers (fail fault) shows :=
  fun _ => other

theorem EndsIn.mapCause {fault : Cause → NativeFault}
    (other : ∀ cause, (fault cause).isOfArgument = false) (attempt : Attempt Cause Content)
    (after : NativeHeap engine) : EndsIn (fun _ _ => True) (attempt.mapCause fault, after) := by
  cases attempt with
  | value content => trivial
  | refused cause => exact other cause
  | panicked text => trivial

theorem Blameless.settle {fault : Cause → NativeFault}
    (other : ∀ cause, (fault cause).isOfArgument = false) (attempt : Attempt Cause Content) :
    Blameless (settle fault attempt : Body engine Content) :=
  fun heap => EndsIn.mapCause other attempt heap

theorem Blameless.certain (attempt : Attempt Empty Content) :
    Blameless (certain attempt : Body engine Content) :=
  .settle (fun cause => cause.elim) attempt

theorem Blameless.withWorld {fault : Cause → NativeFault}
    (other : ∀ cause, (fault cause).isOfArgument = false)
    (action : engine.World → Attempt Cause Content × engine.World) :
    Blameless (withWorld fault action) :=
  fun heap => EndsIn.mapCause other (action heap.world).1 _

theorem Blameless.replace (place : Address) (object : NativeObject engine) :
    Blameless (replace place object) :=
  fun _ => trivial

theorem Blameless.persist (place : Address) (state : OpenWallet engine) :
    Blameless (persist place state) :=
  fun heap =>
    EndsIn.mapCause (fun _ => rfl) (engine.persist state.wallet state.store heap.world).1 _

theorem Blameless.payments (chain : Chain) (recipients : List (BitcoinAddress × UInt64)) :
    Blameless (payments chain recipients : Body engine (List (Bytes × UInt64))) := by
  induction recipients with
  | nil => exact .pure fun _ => trivial
  | cons head rest inductionHypothesis =>
    unfold Body.payments
    split
    · exact Blameless.bind inductionHypothesis fun others => .pure fun _ => trivial
    · exact .fail rfl

/-! ### Payloads -/

theorem Delivers.newObject {kind : ResourceKind} {object : NativeObject engine}
    (own : object.kind = kind) :
    Delivers (newObject object) fun raw heap => Payload.IsMeaningful heap (.object kind) raw := by
  intro heap
  refine ⟨heap.made + 1, object, rfl, ?_, own⟩
  show List.lookup (heap.made + 1) ((heap.made + 1, object) :: heap.objects) = some object
  rw [List.lookup_cons_self]

theorem Delivers.newText (text : String) :
    Delivers (newText text : Body engine NativeString) fun raw heap =>
      Payload.IsMeaningful heap .text raw :=
  fun _ => ⟨text, rfl⟩

theorem Delivers.each {Item : Type} {body : Item → Body engine Content}
    (one : ∀ item, Delivers (body item) fun content _ => knows content)
    (items : List (Attempt Empty Item)) :
    Delivers (each body items) fun contents _ => ∀ content ∈ contents, knows content := by
  induction items with
  | nil => exact .pure fun _ content member => absurd member List.not_mem_nil
  | cons item rest inductionHypothesis =>
    refine Blameless.bind (.certain item) fun item => ?_
    refine Delivers.bind (one item) fun content known => ?_
    refine Delivers.bind inductionHypothesis fun contents others => .pure fun _ => ?_
    exact List.forall_mem_cons.mpr ⟨known, others⟩

theorem Delivers.newOutput (output : WalletOutput) :
    Delivers (newOutput output : Body engine RawOutput) fun element _ =>
      element.txid.isSome = true ∧ element.script.isSome = true :=
  fun _ => ⟨rfl, rfl⟩

theorem Delivers.newTransaction (transaction : WalletTransaction) :
    Delivers (newTransaction transaction : Body engine RawTransaction) fun element _ =>
      element.txid.isSome = true :=
  fun _ => rfl

/-! ### Checks -/

/-- A body that looks at some arguments in order: the first one that is not in order is what it ends
with, and nothing has happened then; otherwise it does what it is there for. -/
def ChecksFirst (arguments : List Argument) (body : Body engine Content)
    (shows : Content → NativeHeap engine → Prop) : Prop :=
  ∀ heap, (∀ argument ∈ arguments, argument.PointsIn heap) →
    match Argument.firstOffence? arguments with
    | some fault => body heap = (.refused fault, heap)
    | none => EndsIn shows (body heap)

theorem Delivers.checksFirst {body : Body engine Content}
    {shows : Content → NativeHeap engine → Prop} (delivers : Delivers body shows) :
    ChecksFirst [] body shows :=
  fun heap _ => delivers heap

/-- What follows a body that checks arguments does not look at them again. -/
theorem ChecksFirst.bind {arguments : List Argument} {first : Body engine Content}
    {next : Content → Body engine Result}
    (checks : ChecksFirst arguments first fun content _ => knows content)
    (behind : ∀ content, knows content → Delivers (next content) shows) :
    ChecksFirst arguments (first >>= next) shows := by
  intro heap points
  have before := checks heap points
  cases offence : Argument.firstOffence? arguments with
  | some fault =>
    rw [offence] at before
    show (first >>= next) heap = _
    rw [bind_apply, before]
  | none =>
    rw [offence] at before
    exact before.bind behind

theorem ChecksFirst.text {name : String} {raw : NativeString} {rest : List Argument}
    {next : String → Body engine Result}
    (behind : ∀ text, ChecksFirst rest (next text) shows) :
    ChecksFirst (.text name raw :: rest) (text name raw >>= next) shows := by
  intro heap points
  have others := fun argument member => points argument (List.mem_cons_of_mem _ member)
  cases raw with
  | none => rfl
  | some octets =>
    rw [Argument.firstOffence?, List.findSome?_cons, Argument.offence?, Argument.spelling?,
      bind_apply, Body.text]
    cases Utf8.decode octets.untilZero with
    | ok text => exact behind text heap others
    | error cause => rfl

theorem ChecksFirst.optionalText {name : String} {raw : NativeString} {rest : List Argument}
    {next : Option String → Body engine Result}
    (behind : ∀ text, ChecksFirst rest (next text) shows) :
    ChecksFirst (.optionalText name raw :: rest) (optionalText name raw >>= next) shows := by
  cases raw with
  | none =>
    intro heap points
    exact behind none heap fun argument member => points argument (List.mem_cons_of_mem _ member)
  | some octets =>
    have given : ChecksFirst (.text name (some octets) :: rest)
        (Body.text name (some octets) >>= fun text => next (some text)) shows :=
      ChecksFirst.text fun text => behind (some text)
    have same : (Body.optionalText name (some octets) >>= next) =
        Body.text name (some octets) >>= fun text => next (some text) := by
      show (Body.text name (some octets) >>= fun text => Pure.pure (some text)) >>= next = _
      rw [bind_assoc]
      rfl
    rw [same]
    intro heap points
    refine given heap fun argument member => ?_
    rcases List.mem_cons.mp member with rfl | other
    · trivial
    · exact points argument (List.mem_cons_of_mem _ other)

/-- An address that is not null leads to an object of the argument's kind, which the view shows. -/
theorem ChecksFirst.object {name : String} {kind : ResourceKind} {raw : Option Address}
    {rest : List Argument} {view : NativeObject engine → Option Content}
    {next : Address × Content → Body engine Result}
    (shown : ∀ held, held.kind = kind → ∃ content, view held = some content)
    (behind : ∀ found, ChecksFirst rest (next found) shows) :
    ChecksFirst (.object name kind raw :: rest) (object name view raw >>= next) shows := by
  intro heap points
  cases raw with
  | none => rfl
  | some address =>
    obtain ⟨held, present, own⟩ := points _ List.mem_cons_self
    obtain ⟨content, seen⟩ := shown held own
    rw [Argument.firstOffence?, List.findSome?_cons, Argument.offence?, bind_apply,
      object_apply present seen]
    exact behind (address, content) heap
      fun argument member => points argument (List.mem_cons_of_mem _ member)

theorem ChecksFirst.wallet {raw : Option Address} {rest : List Argument}
    {next : Address × OpenWallet engine → Body engine Result}
    (behind : ∀ found, ChecksFirst rest (next found) shows) :
    ChecksFirst (.object "wallet" .wallet raw :: rest) (wallet raw >>= next) shows := by
  refine ChecksFirst.object (fun held own => ?_) behind
  cases held with
  | wallet state => exact ⟨state, rfl⟩
  | _ => cases own

theorem ChecksFirst.builder {raw : Option Address} {rest : List Argument}
    {next : Address × BuilderParams → Body engine Result}
    (behind : ∀ found, ChecksFirst rest (next found) shows) :
    ChecksFirst (.object "builder" .txBuilder raw :: rest) (builder raw >>= next) shows := by
  refine ChecksFirst.object (fun held own => ?_) behind
  cases held with
  | builder params => exact ⟨params, rfl⟩
  | _ => cases own

theorem ChecksFirst.database {raw : Option Address} {rest : List Argument}
    {next : Address × DatabasePlace → Body engine Result}
    (behind : ∀ found, ChecksFirst rest (next found) shows) :
    ChecksFirst (.object "database" .databaseConfig raw :: rest) (database raw >>= next) shows := by
  refine ChecksFirst.object (fun held own => ?_) behind
  cases held with
  | database place => exact ⟨place, rfl⟩
  | _ => cases own

theorem ChecksFirst.blockchain {raw : Option Address} {rest : List Argument}
    {next : Address × ChainSource engine → Body engine Result}
    (behind : ∀ found, ChecksFirst rest (next found) shows) :
    ChecksFirst (.object "blockchain" .blockchain raw :: rest) (blockchain raw >>= next) shows := by
  refine ChecksFirst.object (fun held own => ?_) behind
  cases held with
  | blockchain source => exact ⟨source, rfl⟩
  | _ => cases own

theorem ChecksFirst.psbt {raw : Option Address} {rest : List Argument}
    {next : Address × PartialTransaction → Body engine Result}
    (behind : ∀ found, ChecksFirst rest (next found) shows) :
    ChecksFirst (.object "psbt" .psbt raw :: rest) (psbt raw >>= next) shows := by
  refine ChecksFirst.object (fun held own => ?_) behind
  cases held with
  | psbt signed => exact ⟨signed, rfl⟩
  | _ => cases own

/-! ### Entry points -/

theorem ChecksFirst.openWallet (descriptor change network : NativeString)
    (database : Option Address) :
    ChecksFirst (Entry.newWallet descriptor change network database).arguments
      (openWallet descriptor change network database : Body engine _) fun _ _ => True := by
  refine ChecksFirst.text fun descriptor => ?_
  refine ChecksFirst.optionalText fun change => ?_
  refine ChecksFirst.text fun network => ?_
  refine ChecksFirst.database fun ⟨_, place⟩ => Delivers.checksFirst ?_
  simp only
  split
  · exact .fail rfl
  · refine Blameless.bind (.withWorld (fun _ => rfl) _) fun store => ?_
    refine Blameless.bind (.withWorld (fun _ => rfl) _) fun loaded => ?_
    split
    · exact Blameless.bind (.pure fun _ => trivial) fun wallet => .pure fun _ => trivial
    · exact Blameless.bind (.withWorld (fun _ => rfl) _) fun wallet => .pure fun _ => trivial

theorem ChecksFirst.connect (settings : Option RawConnection) :
    ChecksFirst (Entry.connect settings).arguments (connect settings : Body engine _)
      fun _ _ => True := by
  cases settings with
  | none => exact fun _ _ => rfl
  | some settings =>
    -- Settings that are there are always in order, so the checks begin with what they hold.
    have inside : ChecksFirst
        [.text "url" settings.url, .optionalText "socks5" settings.socks5]
        (Body.connect (some settings) : Body engine _) fun _ _ => True := by
      refine ChecksFirst.text fun url => ?_
      refine ChecksFirst.optionalText fun socks5 => Delivers.checksFirst ?_
      exact Blameless.bind (.withWorld (fun _ => rfl) _) fun client => .pure fun _ => trivial
    exact fun heap points =>
      inside heap fun argument member => points argument (List.mem_cons_of_mem _ member)

theorem ChecksFirst.finish (builder wallet : Option Address) :
    ChecksFirst (Entry.finish builder wallet).arguments (finish builder wallet : Body engine _)
      fun _ _ => True := by
  refine ChecksFirst.builder fun found => ?_
  refine ChecksFirst.wallet fun found => Delivers.checksFirst ?_
  refine Blameless.bind (.payments _ _) fun payments => ?_
  refine Blameless.bind (fun _ => trivial) fun built => ?_
  refine Blameless.bind (.replace _ _) fun _ => ?_
  refine Blameless.bind (.settle (fun _ => rfl) _) fun transaction => ?_
  exact Blameless.bind (.persist _ _) fun _ => .pure fun _ => trivial

/-- Every entry point looks at its arguments first, and then blames none of them. -/
theorem ChecksFirst.ofEntry (entry : Entry payload) :
    ChecksFirst entry.arguments (ofEntry entry : Body engine payload.Raw) fun raw heap =>
      payload.IsMeaningful heap raw := by
  cases entry with
  | openDatabase path =>
    refine ChecksFirst.text fun path => Delivers.checksFirst ?_
    split
    · exact .fail rfl
    · exact .newObject rfl
  | newWallet descriptor change network database =>
    exact ChecksFirst.bind (.openWallet _ _ _ _) fun state _ => .newObject rfl
  | peekAddress wallet index =>
    refine ChecksFirst.wallet fun ⟨_, state⟩ => Delivers.checksFirst ?_
    simp only
    split
    · exact .fail rfl
    · exact Blameless.bind (.certain _) fun address => .newText address
  | revealNextAddress wallet =>
    refine ChecksFirst.wallet fun found => Delivers.checksFirst ?_
    refine Blameless.bind (.replace _ _) fun _ => ?_
    refine Blameless.bind (.certain _) fun address => ?_
    exact Blameless.bind (.persist _ _) fun _ => .newText address
  | balance wallet =>
    exact ChecksFirst.wallet fun found => Delivers.checksFirst (Blameless.certain _)
  | listUnspent wallet =>
    refine ChecksFirst.wallet fun found => Delivers.checksFirst ?_
    exact Delivers.bind (.each .newOutput _) fun elements owned _ => ⟨elements, 0, rfl, owned⟩
  | listTransactions wallet =>
    refine ChecksFirst.wallet fun found => Delivers.checksFirst ?_
    exact Delivers.bind (.each .newTransaction _) fun elements owned _ =>
      ⟨elements, 0, rfl, owned⟩
  | sync wallet blockchain =>
    refine ChecksFirst.wallet fun found => ?_
    refine ChecksFirst.blockchain fun source => Delivers.checksFirst ?_
    refine Blameless.bind (.withWorld (fun _ => rfl) _) fun news => ?_
    refine Blameless.bind (.replace _ _) fun _ => ?_
    refine Blameless.bind (.settle (fun _ => rfl) _) fun _ => ?_
    exact Blameless.bind (.persist _ _) fun _ => .pure fun _ => rfl
  | sign wallet psbt =>
    refine ChecksFirst.wallet fun found => ?_
    refine ChecksFirst.psbt fun signed => Delivers.checksFirst ?_
    exact Blameless.bind (.replace _ _) fun _ => Blameless.settle (fun _ => rfl) _
  | connect settings =>
    exact ChecksFirst.bind (.connect settings) fun source _ => .newObject rfl
  | addRecipient builder address amount =>
    refine ChecksFirst.builder fun found => ?_
    refine ChecksFirst.text fun address => Delivers.checksFirst ?_
    split
    · exact .fail rfl
    · exact Blameless.bind (.replace _ _) fun _ => .pure fun _ => rfl
  | feeRate builder satPerVb =>
    refine ChecksFirst.builder fun found => Delivers.checksFirst ?_
    simp only
    split
    · exact Blameless.bind (.replace _ _) fun _ => .pure fun _ => rfl
    · exact .fail rfl
  | finish builder wallet =>
    exact ChecksFirst.bind (.finish _ _) fun built _ => .newObject rfl
  | parsePsbt base64 =>
    have parses : ChecksFirst [.text "base64" base64] (Body.parsePsbt base64 : Body engine _)
        fun _ _ => True := by
      refine ChecksFirst.text fun base64 => Delivers.checksFirst ?_
      split
      · exact .pure fun _ => trivial
      · exact .fail rfl
    exact ChecksFirst.bind parses fun signed _ => .newObject rfl

end Body

/-! ### Answers -/

variable {heap after : NativeHeap engine} {entry : Entry payload}

/-- What means something goes on doing so when only allocations are counted. -/
theorem Payload.IsMeaningful.counted {raw : payload.Raw} (shown : payload.IsMeaningful heap raw)
    (change : Int) : payload.IsMeaningful (heap.counted change) raw := by
  cases payload <;> exact shown

theorem NativeHeap.answer_of_value {raw : payload.Raw}
    (ended : Body.ofEntry entry heap = (.value raw, after)) :
    heap.answer entry = (some ⟨raw, none⟩, after.counted 1) := by
  rw [answer, Body.respond, ended]
  rfl

theorem NativeHeap.answer_of_refused {fault : NativeFault}
    (ended : Body.ofEntry entry heap = (.refused fault, after)) :
    heap.answer entry = (some ⟨payload.blank, some (Body.rawError fault)⟩, after.counted 4) := by
  rw [answer, Body.respond, ended]
  rfl

theorem NativeHeap.answer_of_panicked {text : Option String}
    (ended : Body.ofEntry entry heap = (.panicked text, after)) :
    heap.answer entry =
      (some ⟨payload.blank, some (Body.rawError (.panicked text))⟩, after.counted 4) := by
  rw [answer, Body.respond, ended]
  rfl

/-- The answer to arguments that are not all in order. -/
theorem NativeHeap.answer_of_offence {fault : NativeFault}
    (points : ∀ argument ∈ entry.arguments, argument.PointsIn heap)
    (offence : Argument.firstOffence? entry.arguments = some fault) :
    heap.answer entry =
      (some ⟨payload.blank, some (Body.rawError fault)⟩, heap.counted 4) := by
  have checks := Body.ChecksFirst.ofEntry entry heap points
  rw [offence] at checks
  exact answer_of_refused checks

/-- The answer to arguments that are all in order blames none of them. -/
theorem NativeHeap.answer_of_no_offence
    (points : ∀ argument ∈ entry.arguments, argument.PointsIn heap)
    (inOrder : Argument.firstOffence? entry.arguments = none) :
    (∃ transit, (heap.answer entry).1 = some transit ∧
        transit.IsWellFormed (heap.answer entry).2) ∧
      (heap.answer entry).1.errorCode? ≠ some "NullArgument" ∧
      (heap.answer entry).1.errorCode? ≠ some "Utf8" := by
  have checks := Body.ChecksFirst.ofEntry entry heap points
  rw [inOrder] at checks
  rw [errorCode?_answer]
  rcases ended : Body.ofEntry entry heap with ⟨attempt, after⟩
  rw [ended] at checks
  cases attempt with
  | value raw =>
    have shown : payload.IsMeaningful after raw := checks
    rw [answer_of_value ended]
    exact ⟨⟨_, rfl, .inl ⟨rfl, shown.counted 1⟩⟩, by simp [Attempt.faultCode?],
      by simp [Attempt.faultCode?]⟩
  | refused fault =>
    obtain ⟨notNull, notUtf8⟩ := fault.code_ne_of_not_isOfArgument checks
    rw [answer_of_refused ended]
    exact ⟨⟨_, rfl, .inr ⟨⟨_, _, rfl⟩, rfl⟩⟩, fun same => notNull (Option.some.inj same),
      fun same => notUtf8 (Option.some.inj same)⟩
  | panicked text =>
    rw [answer_of_panicked ended]
    exact ⟨⟨_, rfl, .inr ⟨⟨_, _, rfl⟩, rfl⟩⟩, by simp [Attempt.faultCode?],
      by simp [Attempt.faultCode?]⟩

/-- Whatever an entry point is given and whatever the engine does, it answers with a transit struct
in one of its two forms. The first argument that is null or no text, if there is one, is what the
error is about, and nothing has changed then but the count, by the answer itself; without such an
argument the error, if there is one, is about none. -/
theorem answer_well_formed (entry : Entry payload) (heap : NativeHeap engine)
    (points : ∀ argument ∈ entry.arguments, argument.PointsIn heap) :
    ∃ transit, (heap.answer entry).1 = some transit ∧
      transit.IsWellFormed (heap.answer entry).2 ∧
      (∀ before argument behind fault, entry.arguments = before ++ argument :: behind →
        (∀ earlier ∈ before, ∀ cause, ¬ earlier.Offends cause) → argument.Offends fault →
          transit = ⟨payload.blank, some (Body.rawError fault)⟩ ∧
            (heap.answer entry).2 = heap.counted 4) ∧
      ((∀ argument ∈ entry.arguments, ∀ fault, ¬ argument.Offends fault) →
        (heap.answer entry).1.errorCode? ≠ some "NullArgument" ∧
          (heap.answer entry).1.errorCode? ≠ some "Utf8") := by
  cases offence : Argument.firstOffence? entry.arguments with
  | some first =>
    rw [NativeHeap.answer_of_offence points offence]
    refine ⟨_, rfl, .inr ⟨⟨_, _, rfl⟩, rfl⟩, ?_, fun inOrder => ?_⟩
    · intro before argument behind fault split others own
      obtain rfl : first = fault :=
        Option.some.inj (offence.symm.trans (Argument.firstOffence?_of_split split others own))
      exact ⟨rfl, rfl⟩
    · rw [Argument.firstOffence?_eq_none inOrder] at offence
      cases offence
  | none =>
    obtain ⟨⟨transit, answered, formed⟩, blameless⟩ :=
      NativeHeap.answer_of_no_offence points offence
    refine ⟨transit, answered, formed, ?_, fun _ => blameless⟩
    intro before argument behind fault split others own
    rw [Argument.firstOffence?_of_split split others own] at offence
    cases offence

/-- A memory with one database. -/
def oneDatabase : NativeHeap offlineEngine :=
  ((NativeHeap.fresh (.empty ["/tmp"]) : NativeHeap offlineEngine).hand .memoryDatabase).2

/-- A call for a wallet with a descriptor for change that is no text, and without a network. -/
def misspelledChange : Entry (.object .wallet) :=
  .newWallet (some (Utf8.encode "wpkh()")) (some [0x77, 0xC3, 0x28]) none (some 1)

theorem answer_well_formed_misspelled :
    (∀ argument ∈ misspelledChange.arguments, argument.PointsIn oneDatabase) ∧
      oneDatabase.answer misspelledChange =
        (some ⟨none, some (Body.rawError (.malformedArgument "change_descriptor" ⟨1, some 1⟩))⟩,
          oneDatabase.counted 4) := by
  have points : ∀ argument ∈ misspelledChange.arguments, argument.PointsIn oneDatabase := by
    simp only [misspelledChange, Entry.arguments, List.forall_mem_cons]
    exact ⟨trivial, trivial, trivial, ⟨.database .memory, rfl, rfl⟩, by simp⟩
  have spelled : ∀ cause, ¬ (Argument.text "descriptor" (some (Utf8.encode "wpkh()"))).Offends
      cause := Argument.offence?_eq_none_iff.mp (by decide)
  have misspelled : (Argument.optionalText "change_descriptor" (some [0x77, 0xC3, 0x28])).Offends
      (.malformedArgument "change_descriptor" ⟨1, some 1⟩) :=
    Argument.offence?_eq_some_iff.mp (by decide)
  obtain ⟨transit, answered, -, blamed, -⟩ := answer_well_formed misspelledChange oneDatabase points
  obtain ⟨same, unchanged⟩ := blamed [.text "descriptor" (some (Utf8.encode "wpkh()"))] _ _ _ rfl
    (by simpa using spelled) misspelled
  exact ⟨points, Prod.ext (by rw [answered, same]; rfl) unchanged⟩

end WalletBridge
