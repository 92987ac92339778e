/-
This file holds the process-wide binding: one slot that is empty, holds an accepted library, or
holds the reason why there is none. The first caller that finds it empty fills it, and every later
caller gets what it holds, failure included, until the slot is cleared. A call looks at the slot
twice, once to read and once, under exclusive access, to fill it; what it finds filled at the
second look it takes as it is.
-/

import WalletBridge.Boundary.Loading

namespace WalletBridge

/-- What one attempt to bind gave. -/
abbrev Bound := Except LinkageError NativeLibrary

/-- The slot, and the number that the next accepted library gets. -/
structure Binding where
  slot : Option Bound
  nextId : LibraryId

namespace Binding

/-- The binding of a process that has not used the library. -/
def empty : Binding := ⟨none, 0⟩

/-- Whether the slot holds anything. -/
def isBound (binding : Binding) : Bool := binding.slot.isSome

/-- The first look: what the slot holds. -/
def look (binding : Binding) : Option Bound := binding.slot

/-- The second look, under exclusive access: an empty slot is filled with what loading gives. -/
def fill (load : LibraryId → Bound) (binding : Binding) : Bound × Binding :=
  match binding.slot with
  | some bound => (bound, binding)
  | none =>
    let bound := load binding.nextId
    (bound, ⟨some bound, binding.nextId + 1⟩)

/-- Both looks, without another caller between them. -/
def getOrBind (load : LibraryId → Bound) (binding : Binding) : Bound × Binding :=
  match binding.look with
  | some bound => (bound, binding)
  | none => binding.fill load

/-- Clears the slot, and tells whether there was anything in it. -/
def teardown (binding : Binding) : Bool × Binding :=
  (binding.slot.isSome, { binding with slot := none })

/-- Binds the library at the configured path. -/
def bind (config : LibraryConfig) (loader : Loader) (binding : Binding) : Bound × Binding :=
  binding.getOrBind fun id => config.open loader id

/-- Binds a library that is linked in, with layouts compared. -/
def install (resolver : Resolver) (binding : Binding) : Bound × Binding :=
  binding.getOrBind fun id => resolver.accept true id

theorem fill_eq_getOrBind (load : LibraryId → Bound) (binding : Binding) :
    binding.fill load = binding.getOrBind load := by
  obtain ⟨slot, nextId⟩ := binding
  cases slot <;> rfl

end Binding

end WalletBridge
