/-
This file says once what the calls of the native library do to the objects in its memory. A body
puts an object in the place of one that it has found there, or makes one, whose address lies beyond
all addresses so far; the count of allocations and the world outside it changes as it likes. So a
property of memories that survives these is kept by every entry point, however it ends, by the other
calls and by whatever happens outside.

A place is found before it is filled again, and other things happen in between. What has to be known
of a place is therefore taken from the moment in which it was found.
-/

import WalletBridge.Proofs.HeldObjects

namespace WalletBridge

variable {engine : WalletEngine} {payload : Payload} {Content Cause Result : Type}

/-- A call that tells this builder something. -/
def Entry.Tells (builder : Address) : Entry payload → Prop
  | .addRecipient place _ _ => place = some builder
  | .feeRate place _ => place = some builder
  | _ => False

/-- A property of memories that survives what calls do to objects, if places are filled again only
where that may be done. -/
structure NativeHeap.ObjectInvariant (holds : NativeHeap engine → Prop) (may : Address → Prop) :
    Prop where
  same : ∀ {heap after : NativeHeap engine}, holds heap → after.objects = heap.objects →
    after.made = heap.made → holds after
  handed : ∀ {heap : NativeHeap engine} (object : NativeObject engine),
    holds heap → holds (heap.handObject object).2
  replaced : ∀ {heap : NativeHeap engine} {place : Address} (object : NativeObject engine),
    holds heap → may place → holds (heap.replace place object)
  /-- Where anything but a builder is found, it may be done. -/
  found : ∀ {heap : NativeHeap engine} {place : Address} {held : NativeObject engine},
    holds heap → heap.object? place = some held → (∀ params, held ≠ .builder params) → may place

/-! ### Bodies -/

namespace Body

variable {holds : NativeHeap engine → Prop} {may : Address → Prop}

/-- A body that keeps a property of memories, however it ends. -/
def Preserves (holds : NativeHeap engine → Prop) (body : Body engine Content) : Prop :=
  ∀ heap, holds heap → holds (body heap).2

/-- A body that leaves the memory as it is. -/
theorem Preserves.still {body : Body engine Content} (same : ∀ heap, (body heap).2 = heap) :
    Preserves holds body := by
  intro heap kept
  rw [same heap]
  exact kept

theorem Preserves.bind {first : Body engine Content} {next : Content → Body engine Result}
    (before : Preserves holds first) (behind : ∀ content, Preserves holds (next content)) :
    Preserves holds (first >>= next) := by
  intro heap kept
  have between := before heap kept
  rw [bind_apply]
  generalize first heap = ended at between ⊢
  obtain ⟨attempt, after⟩ := ended
  cases attempt with
  | value content => exact behind content after between
  | refused fault => exact between
  | panicked text => exact between

theorem Preserves.pure (content : Content) :
    Preserves holds (Pure.pure content : Body engine Content) :=
  .still fun _ => rfl

theorem Preserves.fail (fault : NativeFault) :
    Preserves holds (fail fault : Body engine Content) :=
  .still fun _ => rfl

theorem Preserves.settle (fault : Cause → NativeFault) (attempt : Attempt Cause Content) :
    Preserves holds (settle fault attempt : Body engine Content) :=
  .still fun _ => rfl

theorem Preserves.each {Item : Type} {body : Item → Body engine Content}
    (one : ∀ item, Preserves holds (body item)) (items : List (Attempt Empty Item)) :
    Preserves holds (each body items) := by
  induction items with
  | nil => exact .pure []
  | cons item rest inductionHypothesis =>
    refine Preserves.bind (.settle _ _) fun item => ?_
    refine Preserves.bind (one item) fun content => ?_
    exact Preserves.bind inductionHypothesis fun contents => .pure (content :: contents)

/-! ### Arguments -/

theorem Preserves.text (name : String) (raw : NativeString) :
    Preserves holds (text name raw : Body engine String) := by
  refine .still fun heap => ?_
  rcases text_apply name raw heap with ⟨read, -, ended⟩ | ⟨fault, -, ended⟩ <;> rw [ended]

theorem Preserves.optionalText (name : String) (raw : NativeString) :
    Preserves holds (optionalText name raw : Body engine (Option String)) := by
  cases raw with
  | none => exact .pure none
  | some octets => exact Preserves.bind (.text name _) fun text => .pure (some text)

theorem Preserves.payments (chain : Chain) (recipients : List (BitcoinAddress × UInt64)) :
    Preserves holds (payments chain recipients : Body engine (List (Bytes × UInt64))) := by
  refine .still fun heap => ?_
  by_cases fit : ∀ recipient ∈ recipients, recipient.1.fits chain = true
  · rw [payments_of_fits fit heap]
  · obtain ⟨reason, ended⟩ := payments_of_not_fits fit heap
    rw [ended]

end Body

namespace NativeHeap.ObjectInvariant

open Body

variable {holds : NativeHeap engine → Prop} {may : Address → Prop}
  (invariant : ObjectInvariant holds may)

include invariant

/-- A body that leaves the objects as they are. -/
theorem quiet {body : Body engine Content}
    (same : ∀ heap, (body heap).2.objects = heap.objects ∧ (body heap).2.made = heap.made) :
    Preserves holds body :=
  fun heap kept => invariant.same kept (same heap).1 (same heap).2

theorem withWorld (fault : Cause → NativeFault)
    (action : engine.World → Attempt Cause Content × engine.World) :
    Preserves holds (withWorld fault action) :=
  invariant.quiet fun _ => ⟨rfl, rfl⟩

theorem newText (text : String) : Preserves holds (newText text : Body engine NativeString) :=
  invariant.quiet fun _ => ⟨rfl, rfl⟩

theorem newBlock {Element : Type} (elements : List Element) :
    Preserves holds (newBlock elements : Body engine (Block Element)) :=
  invariant.quiet fun _ => ⟨rfl, rfl⟩

theorem newObject (object : NativeObject engine) : Preserves holds (newObject object) :=
  fun _ kept => invariant.handed object kept

theorem replace {place : Address} (allowed : may place) (object : NativeObject engine) :
    Preserves holds (Body.replace place object) :=
  fun _ kept => invariant.replaced object kept allowed

theorem persist {place : Address} (allowed : may place) (state : OpenWallet engine) :
    Preserves holds (persist place state) := by
  intro heap kept
  let written := engine.persist state.wallet state.store heap.world
  have replaced := invariant.replaced (.wallet { state with wallet := written.2.1 }) kept allowed
  exact invariant.same replaced rfl rfl

/-! ### Places that were found -/

/-- An argument that is an object: what follows may fill its place, unless it is a builder. -/
theorem object {view : NativeObject engine → Option Content} {name : String}
    {raw : Option Address} {next : Address × Content → Body engine Result}
    (behind : ∀ place content, raw = some place →
      ((∀ held, view held = some content → ∀ params, held ≠ .builder params) → may place) →
      Preserves holds (next (place, content))) :
    Preserves holds (object name view raw >>= next) := by
  intro heap kept
  rw [bind_apply, Body.object]
  cases raw with
  | none => exact kept
  | some place =>
    cases present : heap.object? place with
    | none =>
      rw [Option.bind_some, present]
      exact kept
    | some held =>
      cases seen : view held with
      | none =>
        rw [Option.bind_some, present, Option.bind_some, seen]
        exact kept
      | some content =>
        rw [Option.bind_some, present, Option.bind_some, seen]
        -- That the place may be filled again is settled here, before what follows changes anything.
        exact behind place content rfl
          (fun other => invariant.found kept present (other held seen)) heap kept

theorem wallet {raw : Option Address} {next : Address × OpenWallet engine → Body engine Result}
    (behind : ∀ place state, may place → Preserves holds (next (place, state))) :
    Preserves holds (wallet raw >>= next) := by
  refine invariant.object fun place state _ allowed => behind place state (allowed ?_)
  rintro held seen told rfl
  cases seen

theorem psbt {raw : Option Address}
    {next : Address × PartialTransaction → Body engine Result}
    (behind : ∀ place signed, may place → Preserves holds (next (place, signed))) :
    Preserves holds (psbt raw >>= next) := by
  refine invariant.object fun place signed _ allowed => behind place signed (allowed ?_)
  rintro held seen told rfl
  cases seen

/-! ### Entry points -/

theorem openWallet (descriptor change network : NativeString) (database : Option Address) :
    Preserves holds
      (openWallet descriptor change network database : Body engine (OpenWallet engine)) := by
  refine Preserves.bind (.text _ _) fun descriptor => ?_
  refine Preserves.bind (.optionalText _ _) fun change => ?_
  refine Preserves.bind (.text _ _) fun network => ?_
  refine invariant.object fun _ place _ _ => ?_
  simp only
  split
  · exact .fail _
  · refine Preserves.bind (invariant.withWorld _ _) fun store => ?_
    refine Preserves.bind (invariant.withWorld _ _) fun loaded => ?_
    split
    · exact Preserves.bind (.pure _) fun wallet => .pure _
    · exact Preserves.bind (invariant.withWorld _ _) fun wallet => .pure _

theorem connect (settings : Option RawConnection) :
    Preserves holds (connect settings : Body engine (ChainSource engine)) := by
  cases settings with
  | none => exact .fail _
  | some settings =>
    refine Preserves.bind (.text _ _) fun url => ?_
    refine Preserves.bind (.optionalText _ _) fun socks5 => ?_
    exact Preserves.bind (invariant.withWorld _ _) fun client => .pure _

theorem finish (builder wallet : Option Address) :
    Preserves holds (finish builder wallet : Body engine PartialTransaction) := by
  refine invariant.object fun _ _ _ _ => ?_
  refine invariant.wallet fun place state allowed => ?_
  refine Preserves.bind (.payments _ _) fun payments => ?_
  refine Preserves.bind (invariant.quiet fun _ => ⟨rfl, rfl⟩) fun built => ?_
  refine Preserves.bind (invariant.replace allowed _) fun _ => ?_
  refine Preserves.bind (.settle _ _) fun transaction => ?_
  exact Preserves.bind (invariant.persist allowed _) fun _ => .pure transaction

/-- Every entry point keeps the property, if those that tell a builder something may fill its place
again. -/
theorem ofEntry {entry : Entry payload} (told : ∀ place, entry.Tells place → may place) :
    Preserves holds (ofEntry entry : Body engine payload.Raw) := by
  cases entry with
  | openDatabase path =>
    refine Preserves.bind (.text _ _) fun path => ?_
    split
    · exact .fail _
    · exact invariant.newObject _
  | newWallet descriptor change network database =>
    exact Preserves.bind (invariant.openWallet _ _ _ _) fun state => invariant.newObject _
  | peekAddress wallet index =>
    refine invariant.wallet fun place state _ => ?_
    simp only
    split
    · exact .fail _
    · exact Preserves.bind (.settle _ _) fun address => invariant.newText address
  | revealNextAddress wallet =>
    refine invariant.wallet fun place state allowed => ?_
    refine Preserves.bind (invariant.replace allowed _) fun _ => ?_
    refine Preserves.bind (.settle _ _) fun address => ?_
    exact Preserves.bind (invariant.persist allowed _) fun _ => invariant.newText address
  | balance wallet => exact invariant.wallet fun place state _ => .settle _ _
  | listUnspent wallet =>
    refine invariant.wallet fun place state _ => ?_
    refine Preserves.bind (.each (fun output => ?_) _) fun outputs => invariant.newBlock outputs
    refine Preserves.bind (invariant.newText _) fun txid => ?_
    exact Preserves.bind (invariant.newText _) fun script => .pure _
  | listTransactions wallet =>
    refine invariant.wallet fun place state _ => ?_
    refine Preserves.bind (.each (fun transaction => ?_) _) fun transactions =>
      invariant.newBlock transactions
    exact Preserves.bind (invariant.newText _) fun txid => .pure _
  | sync wallet blockchain =>
    refine invariant.wallet fun place state allowed => ?_
    refine invariant.object fun _ source _ _ => ?_
    refine Preserves.bind (invariant.withWorld _ _) fun news => ?_
    refine Preserves.bind (invariant.replace allowed _) fun _ => ?_
    refine Preserves.bind (.settle _ _) fun _ => ?_
    exact Preserves.bind (invariant.persist allowed _) fun _ => .pure 0
  | sign wallet psbt =>
    refine invariant.wallet fun _ state _ => ?_
    refine invariant.psbt fun place signed allowed => ?_
    exact Preserves.bind (invariant.replace allowed _) fun _ => .settle _ _
  | connect settings =>
    exact Preserves.bind (invariant.connect settings) fun source => invariant.newObject _
  | addRecipient builder address amount =>
    refine invariant.object fun place params found _ => ?_
    refine Preserves.bind (.text _ _) fun address => ?_
    split
    · exact .fail _
    · exact Preserves.bind (invariant.replace (told place found) _) fun _ => .pure 0
  | feeRate builder satPerVb =>
    refine invariant.object fun place params found _ => ?_
    simp only
    split
    · exact Preserves.bind (invariant.replace (told place found) _) fun _ => .pure 0
    · exact .fail _
  | finish builder wallet =>
    exact Preserves.bind (invariant.finish _ _) fun built => invariant.newObject _
  | parsePsbt base64 =>
    refine Preserves.bind (Preserves.bind (.text _ _) fun base64 => ?_) fun signed =>
      invariant.newObject _
    split
    · exact .pure _
    · exact .fail _

/-! ### Calls -/

variable {heap : NativeHeap engine}

theorem answer {entry : Entry payload} (told : ∀ place, entry.Tells place → may place)
    (kept : holds heap) : holds (heap.answer entry).2 := by
  have ended := invariant.ofEntry told heap kept
  rw [NativeHeap.answer, Body.respond]
  generalize Body.ofEntry entry heap = done at ended ⊢
  obtain ⟨attempt, after⟩ := done
  cases attempt <;> exact invariant.same ended rfl rfl

theorem hand (call : DirectCall payload) (kept : holds heap) : holds (heap.hand call).2 := by
  have handText : ∀ view psbt, holds (heap.handText view psbt).2 := by
    intro view psbt
    unfold NativeHeap.handText
    split
    · exact invariant.same kept rfl rfl
    · exact kept
  cases call with
  | memoryDatabase => exact invariant.handed _ kept
  | newBuilder => exact invariant.handed _ kept
  | serialize psbt => exact handText _ psbt
  | txid psbt => exact handText _ psbt

theorem outside (world : engine.World) (kept : holds heap) : holds { heap with world := world } :=
  invariant.same kept rfl rfl

end NativeHeap.ObjectInvariant

end WalletBridge
