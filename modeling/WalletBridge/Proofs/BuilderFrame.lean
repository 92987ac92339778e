/-
This file says which calls leave a builder alone. Apart from the two calls that tell it something,
no entry point puts anything in a builder's place, not even the one that builds from it: what an
entry point replaces it has found at the same address as an object of another kind, and what it
makes gets an address that was never handed out. So whatever happens in between, a builder has been
told what it was told before, until it is itself released.
-/

import WalletBridge.Proofs.FileCalls
import WalletBridge.Proofs.ObjectInvariants

namespace WalletBridge

variable {engine : WalletEngine} {payload : Payload} {builder : Address} {params : BuilderParams}

/-- A builder has been told this, at an address that was handed out. -/
structure NativeHeap.Keeps (heap : NativeHeap engine) (builder : Address)
    (params : BuilderParams) : Prop where
  told : heap.object? builder = some (.builder params)
  within : builder ≤ heap.made

namespace NativeHeap

variable {heap : NativeHeap engine}

theorem Keeps.replace (keeps : heap.Keeps builder params) {place : Address}
    (apart : place ≠ builder) (object : NativeObject engine) :
    (heap.replace place object).Keeps builder params :=
  ⟨(object?_replace_ne apart.symm object).trans keeps.told, keeps.within⟩

theorem Keeps.handObject (keeps : heap.Keeps builder params) (object : NativeObject engine) :
    (heap.handObject object).2.Keeps builder params := by
  have other : (builder == heap.made + 1) = false :=
    beq_false_of_ne (Nat.ne_of_lt (Nat.lt_succ_of_le keeps.within))
  refine ⟨?_, Nat.le_succ_of_le keeps.within⟩
  show List.lookup builder ((heap.made + 1, object) :: heap.objects) = _
  rw [List.lookup_cons, other]
  exact keeps.told

/-- Where another kind of object is, there is no builder. -/
theorem Keeps.ne (keeps : heap.Keeps builder params) {place : Address}
    {object : NativeObject engine} (held : heap.object? place = some object)
    (other : ∀ params, object ≠ .builder params) : place ≠ builder := by
  rintro rfl
  exact other params (Option.some.inj (held.symm.trans keeps.told))

/-- A builder is kept by whatever fills no place again but those of other objects. -/
theorem keeps_invariant (builder : Address) (params : BuilderParams) :
    ObjectInvariant (fun heap : NativeHeap engine => heap.Keeps builder params) (· ≠ builder) where
  same {heap after} keeps objects made :=
    { told := by
        rw [object?, objects]
        exact keeps.told
      within := made ▸ keeps.within }
  handed object keeps := keeps.handObject object
  replaced object keeps apart := keeps.replace apart object
  found keeps held other := keeps.ne held other

/-! ### Calls -/

theorem Keeps.answer (keeps : heap.Keeps builder params) {entry : Entry payload}
    (silent : ¬ entry.Tells builder) : (heap.answer entry).2.Keeps builder params := by
  refine (keeps_invariant builder params).answer ?_ keeps
  rintro place told rfl
  exact silent told

theorem Keeps.hand (keeps : heap.Keeps builder params) (call : DirectCall payload) :
    (heap.hand call).2.Keeps builder params :=
  (keeps_invariant builder params).hand call keeps

theorem Keeps.release (keeps : heap.Keeps builder params) {freed : Release}
    (other : ∀ kind, freed ≠ .object kind builder) : (heap.release freed).Keeps builder params := by
  cases freed with
  | object kind address =>
    have apart : builder ≠ address := fun same => other kind (by rw [same])
    refine ⟨?_, keeps.within⟩
    have told := keeps.told
    rw [object?, List.lookup_eq_some_iff] at told ⊢
    obtain ⟨before, behind, split, absent⟩ := told
    refine ⟨before.filter (·.1 != address), behind.filter (·.1 != address), ?_, fun entry member =>
      absent entry (List.mem_of_mem_filter member)⟩
    show heap.objects.filter (·.1 != address) = _
    rw [split, List.filter_append, List.filter_cons_of_pos (by simpa using apart)]
  | _ => exact ⟨keeps.told, keeps.within⟩

/-- What can happen to the memory beside the calls that tell a builder something and its own
release. -/
inductive Passes (builder : Address) (heap : NativeHeap engine) : NativeHeap engine → Prop where
  | asked {payload : Payload} {entry : Entry payload} :
      ¬ entry.Tells builder → Passes builder heap (heap.answer entry).2
  | handed {payload : Payload} (call : DirectCall payload) :
      Passes builder heap (heap.hand call).2
  | released {freed : Release} :
      (∀ kind, freed ≠ .object kind builder) → Passes builder heap (heap.release freed)
  | outside (world : engine.World) : Passes builder heap { heap with world := world }

theorem Keeps.passes {after : NativeHeap engine} (keeps : heap.Keeps builder params)
    (passes : heap.Passes builder after) : after.Keeps builder params := by
  cases passes with
  | asked silent => exact keeps.answer silent
  | handed call => exact keeps.hand call
  | released other => exact keeps.release other
  | outside world => exact (keeps_invariant builder params).outside world keeps

end NativeHeap

end WalletBridge
