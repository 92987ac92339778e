/-
This file proves that no two objects in the native library's memory have the same address. A body
changes the objects in two ways only: it puts one in the place of another, which keeps the
addresses, or it makes one, whose address lies beyond all addresses so far. So a memory is addressed
at any time, whatever was called, released or done outside.
-/

import Mathlib.Data.List.Nodup
import WalletBridge.Proofs.ObjectInvariants

namespace WalletBridge

variable {engine : WalletEngine} {payload : Payload}

/-! ### Addressed memories -/

namespace NativeHeap

/-- The addresses of the objects. -/
def addresses (heap : NativeHeap engine) : List Address := heap.objects.map Prod.fst

/-- No address occurs twice, and the next address is a new one. -/
structure Addressed (heap : NativeHeap engine) : Prop where
  nodup : heap.addresses.Nodup
  within : ∀ address ∈ heap.addresses, address ≤ heap.made

theorem addresses_replace (heap : NativeHeap engine) (place : Address)
    (object : NativeObject engine) : (heap.replace place object).addresses = heap.addresses := by
  show (List.map _ _).map Prod.fst = heap.objects.map Prod.fst
  rw [List.map_map]
  refine List.map_congr_left fun entry _ => ?_
  show (if entry.1 = place then (place, object) else entry).1 = entry.1
  split
  next own => exact own.symm
  next => rfl

theorem Addressed.replace {heap : NativeHeap engine} (addressed : heap.Addressed)
    (place : Address) (object : NativeObject engine) : (heap.replace place object).Addressed :=
  ⟨by rw [addresses_replace]; exact addressed.nodup,
    by rw [addresses_replace]; exact addressed.within⟩

theorem Addressed.handObject {heap : NativeHeap engine} (addressed : heap.Addressed)
    (object : NativeObject engine) : (heap.handObject object).2.Addressed := by
  have fresh : heap.made + 1 ∉ heap.addresses := fun member =>
    Nat.not_succ_le_self _ (addressed.within _ member)
  refine ⟨List.nodup_cons.mpr ⟨fresh, addressed.nodup⟩, fun address member => ?_⟩
  rcases List.mem_cons.mp member with rfl | known
  · exact Nat.le_refl _
  · exact Nat.le_succ_of_le (addressed.within address known)

theorem Addressed.eq_of_mem {heap : NativeHeap engine} (addressed : heap.Addressed)
    {place : Address} {object : NativeObject engine} (held : heap.object? place = some object)
    {entry : Address × NativeObject engine} (member : entry ∈ heap.objects)
    (own : entry.1 = place) : entry = (place, object) := by
  obtain ⟨before, after, split, -⟩ := List.lookup_eq_some_iff.mp held
  have first : (place, object) ∈ heap.objects := by
    rw [split]
    exact List.mem_append_right _ List.mem_cons_self
  exact List.inj_on_of_nodup_map addressed.nodup member first own

/-- Putting an object where it is already changes nothing. -/
theorem Addressed.replace_self {heap : NativeHeap engine} (addressed : heap.Addressed)
    {place : Address} {object : NativeObject engine} (held : heap.object? place = some object) :
    heap.replace place object = heap := by
  have kept : heap.objects.map (fun entry => if entry.1 = place then (place, object) else entry) =
      heap.objects.map id := by
    refine List.map_congr_left fun entry member => ?_
    split
    next own => exact (addressed.eq_of_mem held member own).symm
    next => rfl
  rw [NativeHeap.replace, kept, List.map_id]

/-- Addresses are kept by everything that calls do to objects. -/
theorem addressed_invariant :
    ObjectInvariant (Addressed : NativeHeap engine → Prop) fun _ => True where
  same {heap after} addressed objects made := by
    have addresses : after.addresses = heap.addresses := congrArg (List.map Prod.fst) objects
    exact ⟨addresses ▸ addressed.nodup, by rw [addresses, made]; exact addressed.within⟩
  handed object addressed := addressed.handObject object
  replaced object addressed _ := addressed.replace _ object
  found _ _ _ := trivial

/-! ### Memories that come about -/

/-- The memories that come about: the first one, what calls and releases make of one, and one whose
world changes outside of the library. -/
inductive Reachable : NativeHeap engine → Prop where
  | fresh (world : engine.World) : Reachable (.fresh world)
  | answer {heap : NativeHeap engine} {payload : Payload} (entry : Entry payload) :
      Reachable heap → Reachable (heap.answer entry).2
  | hand {heap : NativeHeap engine} {payload : Payload} (call : DirectCall payload) :
      Reachable heap → Reachable (heap.hand call).2
  | release {heap : NativeHeap engine} (freed : Release) :
      Reachable heap → Reachable (heap.release freed)
  | outside {heap : NativeHeap engine} (world : engine.World) :
      Reachable heap → Reachable { heap with world := world }

theorem Addressed.answer {heap : NativeHeap engine} (addressed : heap.Addressed)
    (entry : Entry payload) : (heap.answer entry).2.Addressed :=
  addressed_invariant.answer (fun _ _ => trivial) addressed

theorem Addressed.hand {heap : NativeHeap engine} (addressed : heap.Addressed)
    (call : DirectCall payload) : (heap.hand call).2.Addressed :=
  addressed_invariant.hand call addressed

theorem Addressed.release {heap : NativeHeap engine} (addressed : heap.Addressed)
    (freed : Release) : (heap.release freed).Addressed := by
  cases freed with
  | object kind address =>
    have sublist : (heap.release (.object kind address)).addresses.Sublist heap.addresses :=
      List.filter_sublist.map Prod.fst
    exact ⟨addressed.nodup.sublist sublist,
      fun other member => addressed.within other (sublist.subset member)⟩
  | _ => exact ⟨addressed.nodup, addressed.within⟩

theorem Reachable.addressed {heap : NativeHeap engine} (reached : heap.Reachable) :
    heap.Addressed := by
  induction reached with
  | fresh world => exact ⟨List.nodup_nil, fun _ member => absurd member List.not_mem_nil⟩
  | answer entry _ addressed => exact addressed.answer entry
  | hand call _ addressed => exact addressed.hand call
  | release freed _ addressed => exact addressed.release freed
  | outside world _ addressed => exact addressed_invariant.outside world addressed

end NativeHeap

end WalletBridge
