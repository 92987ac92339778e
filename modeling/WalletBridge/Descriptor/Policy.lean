/-
This file says for which descriptors a spender has to choose a way to satisfy them before a
transaction can be built: where some but not all of the conditions of a choice ask for a time, or
where what is asked for together does not fit together.
-/

import WalletBridge.Descriptor.Basic

namespace WalletBridge

/-- The times that a way to spend asks for. -/
structure SpendingTimes where
  /-- The age of what is spent. -/
  age : Option Nat
  /-- The height or the time of the spending. -/
  time : Option Nat
  deriving Repr, DecidableEq

namespace SpendingTimes

/-- No times at all. -/
def zero : SpendingTimes := ⟨none, none⟩

/-- Whether two absolute times are both heights or both times. -/
def sameKind (left right : Nat) : Bool := (left < 500000000) == (right < 500000000)

/-- Whether two ages are both heights or both times. -/
def sameAgeKind (left right : Nat) : Bool := left >>> 22 % 2 == right >>> 22 % 2

/-- The later of two times of one kind. -/
def later? (same : Nat → Nat → Bool) : Option Nat → Option Nat → Option (Option Nat)
  | none, right => some right
  | left, none => some left
  | some left, some right => if same left right then some (some (max left right)) else none

/-- The times of two ways to spend at once, if they fit together. -/
def merge? (left right : SpendingTimes) : Option SpendingTimes := do
  let age ← later? sameAgeKind left.age right.age
  let time ← later? sameKind left.time right.time
  pure ⟨age, time⟩

end SpendingTimes

/-- What has to be satisfied, as far as times are concerned. -/
inductive SpendingPolicy where
  | signature
  | age (due : Nat)
  | time (due : Nat)
  /-- So many of some items. -/
  | some (count : Nat) (items : List SpendingPolicy)

namespace SpendingPolicy

/-- The times of so many of some items. Nothing has to be chosen when no item asks for a time, or
when all items are due. -/
def join? (count : Nat) (items : List (Option SpendingTimes)) : Option SpendingTimes :=
  if items.all (· == Option.some SpendingTimes.zero) then Option.some .zero
  else if count = items.length then
    items.foldlM (fun times item => item.bind times.merge?) .zero
  else none

mutual

/-- The times that a policy asks for, when nothing has to be chosen. -/
def times? : SpendingPolicy → Option SpendingTimes
  | .signature => Option.some .zero
  | .age due => Option.some ⟨Option.some due, none⟩
  | .time due => Option.some ⟨none, Option.some due⟩
  | .some count items => join? count (timesOf items)

/-- The times that some policies ask for. -/
def timesOf : List SpendingPolicy → List (Option SpendingTimes)
  | [] => []
  | item :: rest => item.times? :: timesOf rest

end

/-- So many of two policies, of which either may be missing. -/
def pair (count : Nat) (left right : Option SpendingPolicy) : Option SpendingPolicy :=
  match left, right with
  | Option.some first, Option.some second => Option.some (.some count [first, second])
  | Option.some first, none => Option.some first
  | none, second => second

end SpendingPolicy

namespace Miniscript

variable {Key : Type}

mutual

/-- What has to be satisfied for a condition; nothing for what always or never holds. -/
def policy? : Miniscript Key → Option SpendingPolicy
  | .always | .never => none
  | .key _ | .keyDigest _ | .preimage .. | .multi .. | .multiAdd .. => some .signature
  | .after due => some (.time due)
  | .older due => some (.age due)
  | .wrap _ inner => inner.policy?
  | .andV left right | .andB left right => SpendingPolicy.pair 2 left.policy? right.policy?
  | .andOr condition both otherwise =>
    SpendingPolicy.pair 1 (SpendingPolicy.pair 2 condition.policy? both.policy?)
      otherwise.policy?
  | .orB left right | .orC left right | .orD left right | .orI left right =>
    SpendingPolicy.pair 1 left.policy? right.policy?
  | .threshold count items =>
    let policies := policies items
    if policies.length < count then none else some (.some count policies)

/-- What has to be satisfied for some conditions. -/
def policies : List (Miniscript Key) → List SpendingPolicy
  | [] => []
  | item :: rest =>
    match item.policy? with
    | some policy => policy :: policies rest
    | none => policies rest

end

end Miniscript

namespace Descriptor

/-- What has to be satisfied for a descriptor. -/
def policy? : Descriptor → Option SpendingPolicy
  | .bare condition => condition.policy?
  | .keyHash _ | .witnessKeyHash _ | .nestedKeyHash _ => some .signature
  | .scriptHash inner | .witnessScriptHash inner | .nestedScriptHash inner =>
    inner.toCondition.policy?
  | .taproot _ none => some .signature
  | .taproot _ (some tree) =>
    some (.some 1 (.signature :: tree.leaves.filterMap (·.policy?)))

/-- The times that spending asks for, when nothing has to be chosen. -/
def times? (descriptor : Descriptor) : Option SpendingTimes :=
  match descriptor.policy? with
  | some policy => policy.times?
  | none => some .zero

end Descriptor

end WalletBridge
