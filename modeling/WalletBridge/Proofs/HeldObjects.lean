/-
This file says what the checks of an entry point's arguments come to when the arguments are in
order: an object that is in memory is found at its address, a text that is a text is read, and
payments to addresses of the chain pass. None of this changes the memory.
-/

import WalletBridge.Native.Entries

namespace WalletBridge.Body

variable {engine : WalletEngine} {Content : Type} {heap : NativeHeap engine} {address : Address}

/-! ### Objects -/

theorem object_apply {view : NativeObject engine → Option Content} {held : NativeObject engine}
    {content : Content} (present : heap.object? address = some held)
    (seen : view held = some content) (name : String) :
    object name view (some address) heap = (.value (address, content), heap) := by
  rw [Body.object, Option.bind_some, present, Option.bind_some, seen]
  rfl

theorem wallet_apply {state : OpenWallet engine}
    (held : heap.object? address = some (.wallet state)) :
    wallet (some address) heap = (.value (address, state), heap) := by
  rw [wallet]
  refine object_apply held ?_ "wallet"
  rfl

theorem builder_apply {params : BuilderParams}
    (held : heap.object? address = some (.builder params)) :
    builder (some address) heap = (.value (address, params), heap) := by
  rw [builder]
  refine object_apply held ?_ "builder"
  rfl

theorem blockchain_apply {source : ChainSource engine}
    (held : heap.object? address = some (.blockchain source)) :
    blockchain (some address) heap = (.value (address, source), heap) := by
  rw [blockchain]
  refine object_apply held ?_ "blockchain"
  rfl

/-- An argument is the address of an object of its kind, or the body ends there. -/
theorem object_cases {view : NativeObject engine → Option Content}
    {make : Content → NativeObject engine}
    (shows : ∀ held content, view held = some content ↔ held = make content) (name : String)
    (raw : Option Address) (heap : NativeHeap engine) :
    (∃ address content, raw = some address ∧ heap.object? address = some (make content) ∧
        object name view raw heap = (.value (address, content), heap)) ∨
      object name view raw heap = (.refused (.nullArgument name), heap) := by
  cases raw with
  | none => exact .inr rfl
  | some address =>
    cases present : heap.object? address with
    | none =>
      right
      rw [object, Option.bind_some, present]
      rfl
    | some held =>
      cases seen : view held with
      | none =>
        right
        rw [object, Option.bind_some, present, Option.bind_some, seen]
        rfl
      | some content =>
        left
        obtain rfl := (shows held content).mp seen
        exact ⟨address, content, rfl, present, object_apply present seen name⟩

theorem wallet_cases (raw : Option Address) (heap : NativeHeap engine) :
    (∃ address state, raw = some address ∧ heap.object? address = some (.wallet state) ∧
        wallet raw heap = (.value (address, state), heap)) ∨
      wallet raw heap = (.refused (.nullArgument "wallet"), heap) := by
  rw [wallet]
  refine object_cases (fun held state => ?_) "wallet" raw heap
  cases held <;> simp

theorem builder_cases (raw : Option Address) (heap : NativeHeap engine) :
    (∃ address params, raw = some address ∧ heap.object? address = some (.builder params) ∧
        builder raw heap = (.value (address, params), heap)) ∨
      builder raw heap = (.refused (.nullArgument "builder"), heap) := by
  rw [builder]
  refine object_cases (fun held params => ?_) "builder" raw heap
  cases held <;> simp

theorem blockchain_cases (raw : Option Address) (heap : NativeHeap engine) :
    (∃ address source, raw = some address ∧ heap.object? address = some (.blockchain source) ∧
        blockchain raw heap = (.value (address, source), heap)) ∨
      blockchain raw heap = (.refused (.nullArgument "blockchain"), heap) := by
  rw [blockchain]
  refine object_cases (fun held source => ?_) "blockchain" raw heap
  cases held <;> simp

/-! ### Texts -/

/-- The text of an argument, when it is one. -/
def text? (raw : NativeString) : Option String := do
  let octets ← raw
  (Utf8.decode octets.untilZero).toOption

theorem text_apply (name : String) (raw : NativeString) (heap : NativeHeap engine) :
    (∃ read, text? raw = some read ∧ text name raw heap = (.value read, heap)) ∨
      (∃ fault, text? raw = none ∧ text name raw heap = (.refused fault, heap)) := by
  cases raw with
  | none => exact .inr ⟨_, rfl, rfl⟩
  | some octets =>
    have unfolded : text? (some octets) = (Utf8.decode octets.untilZero).toOption := rfl
    rw [unfolded, text]
    cases Utf8.decode octets.untilZero with
    | ok read => exact .inl ⟨read, rfl, rfl⟩
    | error fault => exact .inr ⟨_, rfl, rfl⟩

/-! ### Payments -/

/-- The payments that recipients stand for. -/
def paymentsTo (recipients : List (BitcoinAddress × UInt64)) : List (Bytes × UInt64) :=
  recipients.map fun (recipient, amount) => (recipient.script, amount)

theorem payments_of_fits {chain : Chain} {recipients : List (BitcoinAddress × UInt64)}
    (fit : ∀ recipient ∈ recipients, recipient.1.fits chain = true) (heap : NativeHeap engine) :
    payments chain recipients heap = (.value (paymentsTo recipients), heap) := by
  induction recipients with
  | nil => rfl
  | cons head rest inductionHypothesis =>
    have others := inductionHypothesis fun recipient member =>
      fit recipient (List.mem_cons_of_mem _ member)
    rw [payments, if_pos (fit head List.mem_cons_self), Body.bind, others]
    rfl

/-- The first address of another chain ends the check, whatever stands behind it. -/
theorem payments_of_not_fits {chain : Chain} {recipients : List (BitcoinAddress × UInt64)}
    (foreign : ¬∀ recipient ∈ recipients, recipient.1.fits chain = true)
    (heap : NativeHeap engine) :
    ∃ reason, payments chain recipients heap = (.refused (.foreignAddress reason), heap) := by
  induction recipients with
  | nil => exact absurd (fun recipient member => absurd member List.not_mem_nil) foreign
  | cons head rest inductionHypothesis =>
    by_cases own : head.1.fits chain = true
    · have rest : ¬∀ recipient ∈ rest, recipient.1.fits chain = true := fun fit =>
        foreign (List.forall_mem_cons.mpr ⟨own, fit⟩)
      obtain ⟨reason, ended⟩ := inductionHypothesis rest
      refine ⟨reason, ?_⟩
      rw [payments, if_pos own, Body.bind, ended]
    · exact ⟨_, by rw [payments, if_neg own]; rfl⟩

end WalletBridge.Body
