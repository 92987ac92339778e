/-
This file fixes what a byte string is for the whole library: a list of octets, so that every
statement about text, hashes and transactions is a statement about lists. It also holds the
number formats that octets take on the wire: little-endian and big-endian words.
-/

namespace WalletBridge

/-- A byte string. -/
abbrev Bytes := List UInt8

namespace Bytes

/-! ### Words -/

/-- The `count` low octets of a number, the lowest first. -/
def littleEndian : Nat → Nat → Bytes
  | 0, _ => []
  | count + 1, value => UInt8.ofNat (value % 256) :: littleEndian count (value / 256)

/-- The `count` low octets of a number, the highest first. -/
def bigEndian (count value : Nat) : Bytes := (littleEndian count value).reverse

/-- The number that octets spell with the lowest first. -/
def ofLittleEndian : Bytes → Nat
  | [] => 0
  | octet :: rest => octet.toNat + 256 * ofLittleEndian rest

/-- The number that octets spell with the highest first. -/
def ofBigEndian (octets : Bytes) : Nat :=
  octets.foldl (fun value octet => value * 256 + octet.toNat) 0

/-! ### Cutting -/

/-- The first `count` octets and the rest, when there are that many. -/
def take? (count : Nat) (octets : Bytes) : Option (Bytes × Bytes) :=
  if count ≤ octets.length then some (octets.take count, octets.drop count) else none

/-- The octets before the first zero octet: what a reader of a terminated string sees. -/
def untilZero (octets : Bytes) : Bytes := octets.takeWhile (· != 0)

theorem untilZero_of_forall_ne {octets : Bytes} (nonzero : ∀ octet ∈ octets, octet ≠ 0) :
    untilZero octets = octets := by
  induction octets with
  | nil => rfl
  | cons octet rest inductionHypothesis =>
    have head : octet ≠ 0 := nonzero octet List.mem_cons_self
    have tail := inductionHypothesis fun other member =>
      nonzero other (List.mem_cons_of_mem _ member)
    simp only [untilZero] at tail ⊢
    simp [head, tail]

end Bytes

end WalletBridge
