/-
This file says which spending conditions make sense. Every condition has a base, which says what
it leaves on the stack, an input, which says what it takes from there, and some properties: whether
it can be left unsatisfied, whether a third party could change a satisfaction, whether a signature
is always needed, and which kinds of time it mixes. A connective asks for some of these of its
parts and gives others in return.
-/

import WalletBridge.Descriptor.Miniscript
import WalletBridge.Word

namespace WalletBridge

/-! ### Properties -/

/-- What a condition leaves on the stack. -/
inductive TypeBase where
  /-- A truth value. -/
  | bool
  /-- Nothing, or it fails. -/
  | verify
  /-- A key that a signature is due for. -/
  | key
  /-- A truth value next to the value that was on top. -/
  | wrapped
  deriving Repr, DecidableEq

/-- What a condition takes from the stack. -/
inductive TypeInput where
  | zero
  | one
  | any
  /-- One value, which is not zero in a satisfaction. -/
  | oneNonZero
  /-- Several values, of which the top one is not zero in a satisfaction. -/
  | anyNonZero
  deriving Repr, DecidableEq

/-- In how many ways a condition can be left unsatisfied without a signature. -/
inductive Dissatisfaction where
  | none
  | unique
  | unknown
  deriving Repr, DecidableEq

/-- The kinds of time that a condition may ask for. -/
structure TimeKinds where
  ageHeight : Bool
  ageTime : Bool
  height : Bool
  time : Bool
  /-- Whether one way to satisfy the condition asks for two kinds that exclude each other. -/
  mixed : Bool
  deriving Repr, DecidableEq

namespace TimeKinds

/-- No kind of time. -/
def zero : TimeKinds := ⟨false, false, false, false, false⟩

/-- The kinds of a condition that joins two others; only when both may be asked for together, they
can exclude each other. -/
def join (together : Bool) (left right : TimeKinds) : TimeKinds :=
  let conflict :=
    left.ageHeight && right.ageTime || left.ageTime && right.ageHeight ||
      left.height && right.time || left.time && right.height
  ⟨left.ageHeight || right.ageHeight, left.ageTime || right.ageTime,
    left.height || right.height, left.time || right.time,
    left.mixed || right.mixed || together && conflict⟩

end TimeKinds

/-- The type of a condition. -/
structure MiniscriptType where
  base : TypeBase
  input : TypeInput
  /-- Whether it can be left unsatisfied. -/
  canFail : Bool
  /-- Whether it leaves exactly one when it is satisfied. -/
  leavesOne : Bool
  dissatisfaction : Dissatisfaction
  /-- Whether every satisfaction has a signature. -/
  safe : Bool
  /-- Whether nobody else can change a satisfaction. -/
  nonMalleable : Bool
  times : TimeKinds
  /-- How many keys of multiple signatures a satisfaction runs through, if there is one. -/
  satisfyCost : Option Nat
  /-- The same for leaving the condition unsatisfied. -/
  failCost : Option Nat
  deriving Repr, DecidableEq

/-- The larger of two costs, where there are any. -/
def largerCost (left right : Option Nat) : Option Nat :=
  match left, right with
  | some first, some second => some (max first second)
  | some first, none => some first
  | none, second => second

/-- The sum of two costs, where there are both. -/
def costSum (left right : Option Nat) : Option Nat := do
  let first ← left
  let second ← right
  pure (first + second)

namespace MiniscriptType

/-! ### Leaves -/

/-- The type of what always holds. -/
def always : MiniscriptType :=
  ⟨.bool, .zero, false, true, .none, false, true, .zero, some 0, none⟩

/-- The type of what never holds. -/
def never : MiniscriptType :=
  ⟨.bool, .zero, true, true, .unique, true, true, .zero, none, some 0⟩

/-- The type of a key. -/
def key : MiniscriptType :=
  ⟨.key, .oneNonZero, true, true, .unique, true, true, .zero, some 0, some 0⟩

/-- The type of the digest of a key. -/
def keyDigest : MiniscriptType := { key with input := .anyNonZero }

/-- The type of a preimage. -/
def preimage : MiniscriptType :=
  ⟨.bool, .oneNonZero, true, true, .unknown, false, true, .zero, some 0, none⟩

/-- The type of a time. -/
def time (kinds : TimeKinds) : MiniscriptType :=
  ⟨.bool, .zero, false, false, .none, false, true, kinds, some 0, none⟩

/-- The type of a multiple signature. -/
def multi (count : Nat) : MiniscriptType :=
  ⟨.bool, .anyNonZero, true, true, .unique, true, true, .zero, some count, some count⟩

/-- The type of signatures that are counted one by one. -/
def multiAdd : MiniscriptType := { multi 0 with input := .any }

/-! ### Wrappers -/

/-- One way to fail becomes certain where there was none, and unknown where there was one. -/
def addFailure (dissatisfaction : Dissatisfaction) : Dissatisfaction :=
  if dissatisfaction = .none then .unique else .unknown

/-- The type of a wrapped condition. -/
def wrap? (wrapper : Wrapper) (inner : MiniscriptType) : Option MiniscriptType :=
  match wrapper with
  | .alt => if inner.base = .bool then some { inner with base := .wrapped, input := .any } else none
  | .swap =>
    if inner.base = .bool ∧ (inner.input = .one ∨ inner.input = .oneNonZero) then
      some { inner with base := .wrapped, input := .any }
    else none
  | .check => if inner.base = .key then some { inner with base := .bool, leavesOne := true } else none
  | .dupIf =>
    if inner.base = .verify ∧ inner.input = .zero then
      some { inner with
        base := .bool
        input := .oneNonZero
        canFail := true
        leavesOne := false
        dissatisfaction := addFailure inner.dissatisfaction
        failCost := some 0 }
    else none
  | .verify =>
    if inner.base = .bool then
      some { inner with
        base := .verify
        canFail := false
        leavesOne := false
        dissatisfaction := .none
        failCost := none }
    else none
  | .nonZero =>
    if inner.base = .bool ∧ (inner.input = .oneNonZero ∨ inner.input = .anyNonZero) then
      some { inner with
        canFail := true
        dissatisfaction := addFailure inner.dissatisfaction
        failCost := some 0 }
    else none
  | .isNotZero => if inner.base = .bool then some { inner with leavesOne := true } else none

/-! ### Connectives -/

/-- What two conditions in a row take from the stack. -/
def inputInRow : TypeInput → TypeInput → TypeInput
  | .zero, other => other
  | .one, .zero => .one
  | .oneNonZero, .zero => .oneNonZero
  | .oneNonZero, _ => .anyNonZero
  | .anyNonZero, _ => .anyNonZero
  | _, _ => .any

/-- The type of a condition before another, where both have to hold. -/
def andV? (left right : MiniscriptType) : Option MiniscriptType :=
  if left.base = .verify ∧ right.base ≠ .wrapped then
    some {
      base := right.base
      input := inputInRow left.input right.input
      canFail := false
      leavesOne := right.leavesOne
      dissatisfaction :=
        if right.dissatisfaction = .none ∨ left.safe then .none else .unknown
      safe := left.safe || right.safe
      nonMalleable := left.nonMalleable && right.nonMalleable
      times := .join true left.times right.times
      satisfyCost := costSum left.satisfyCost right.satisfyCost
      failCost := none }
  else none

/-- The type of two conditions whose results are joined by "and". -/
def andB? (left right : MiniscriptType) : Option MiniscriptType :=
  if left.base = .bool ∧ right.base = .wrapped then
    some {
      base := .bool
      input := inputInRow left.input right.input
      canFail := left.canFail && right.canFail
      leavesOne := true
      dissatisfaction :=
        match left.dissatisfaction, right.dissatisfaction with
        | .none, .none => .none
        | .none, _ => if left.safe then .none else .unknown
        | .unique, .unique => if left.safe && right.safe then .unique else .unknown
        | _, .none => if right.safe then .none else .unknown
        | _, _ => .unknown
      safe := left.safe || right.safe
      nonMalleable := left.nonMalleable && right.nonMalleable
      times := .join true left.times right.times
      satisfyCost := costSum left.satisfyCost right.satisfyCost
      failCost := costSum left.failCost right.failCost }
  else none

/-- What one of two conditions takes from the stack when the second one runs only after the first
one failed. -/
def inputAfterFailure : TypeInput → TypeInput → TypeInput
  | .zero, .zero => .zero
  | .one, .zero => .one
  | .oneNonZero, .zero => .one
  | _, _ => .any

/-- The type of two conditions whose results are joined by "or". -/
def orB? (left right : MiniscriptType) : Option MiniscriptType :=
  if left.base = .bool ∧ right.base = .wrapped ∧ left.canFail ∧ right.canFail then
    some {
      base := .bool
      input :=
        match left.input, right.input with
        | .zero, .zero => .zero
        | .zero, .one | .zero, .oneNonZero | .one, .zero | .oneNonZero, .zero => .one
        | _, _ => .any
      canFail := true
      leavesOne := true
      dissatisfaction := .unique
      safe := left.safe && right.safe
      nonMalleable :=
        left.nonMalleable && left.dissatisfaction == .unique && right.nonMalleable &&
          right.dissatisfaction == .unique && (left.safe || right.safe)
      times := .join false left.times right.times
      satisfyCost := largerCost (costSum left.satisfyCost right.failCost)
        (costSum left.failCost right.satisfyCost)
      failCost := costSum left.failCost right.failCost }
  else none

/-- The type of a second condition that runs only after the first one failed. -/
def afterFailure (left right : MiniscriptType) : MiniscriptType :=
  { base := right.base
    input := inputAfterFailure left.input right.input
    canFail := right.canFail
    leavesOne := right.leavesOne
    dissatisfaction := right.dissatisfaction
    safe := left.safe && right.safe
    nonMalleable :=
      left.nonMalleable && left.dissatisfaction == .unique && right.nonMalleable &&
        (left.safe || right.safe)
    times := .join false left.times right.times
    satisfyCost := largerCost left.satisfyCost (costSum left.failCost right.satisfyCost)
    failCost := costSum left.failCost right.failCost }

/-- The type of a choice that leaves a truth value. -/
def orD? (left right : MiniscriptType) : Option MiniscriptType :=
  if left.base = .bool ∧ right.base = .bool ∧ left.canFail ∧ left.leavesOne then
    some (afterFailure left right)
  else none

/-- The type of a choice that leaves nothing. -/
def orC? (left right : MiniscriptType) : Option MiniscriptType :=
  if left.base = .bool ∧ right.base = .verify ∧ left.canFail ∧ left.leavesOne then
    some { afterFailure left right with
      canFail := false
      leavesOne := false
      dissatisfaction := .none
      failCost := none }
  else none

/-- The type of a choice that the spender makes on the stack. -/
def orI? (left right : MiniscriptType) : Option MiniscriptType :=
  if left.base = right.base ∧ left.base ≠ .wrapped then
    some {
      base := left.base
      input := if left.input = .zero ∧ right.input = .zero then .one else .any
      canFail := left.canFail || right.canFail
      leavesOne := left.leavesOne && right.leavesOne
      dissatisfaction :=
        match left.dissatisfaction, right.dissatisfaction with
        | .none, .none => .none
        | .unique, .none | .none, .unique => .unique
        | _, _ => .unknown
      safe := left.safe && right.safe
      nonMalleable := left.nonMalleable && right.nonMalleable && (left.safe || right.safe)
      times := .join false left.times right.times
      satisfyCost := largerCost left.satisfyCost right.satisfyCost
      failCost := largerCost left.failCost right.failCost }
  else none

/-- The type of a choice between two conditions by a third one. -/
def andOr? (condition both otherwise : MiniscriptType) : Option MiniscriptType :=
  if condition.base = .bool ∧ both.base = otherwise.base ∧ both.base ≠ .wrapped ∧
      condition.canFail ∧ condition.leavesOne then
    let isOne (input : TypeInput) : Bool := input == .one || input == .oneNonZero
    some {
      base := both.base
      input :=
        if condition.input = .zero ∧ both.input = .zero ∧ otherwise.input = .zero then .zero
        else if condition.input = .zero ∧ isOne both.input ∧ isOne otherwise.input then .one
        else if isOne condition.input ∧ both.input = .zero ∧ otherwise.input = .zero then .one
        else .any
      canFail := otherwise.canFail
      leavesOne := both.leavesOne && otherwise.leavesOne
      dissatisfaction :=
        if condition.safe ∨ both.dissatisfaction = .none then otherwise.dissatisfaction
        else .unknown
      safe := (condition.safe || both.safe) && otherwise.safe
      nonMalleable :=
        condition.nonMalleable && otherwise.nonMalleable && condition.dissatisfaction == .unique &&
          both.nonMalleable && (condition.safe || both.safe || otherwise.safe)
      times := .join false (.join true condition.times both.times) otherwise.times
      satisfyCost := largerCost (costSum condition.satisfyCost both.satisfyCost)
        (costSum condition.failCost otherwise.satisfyCost)
      failCost := costSum condition.failCost otherwise.failCost }
  else none

/-- The most that satisfying some of the conditions and failing the others can cost. -/
def thresholdCost (count : Nat) (items : List MiniscriptType) : Option Nat :=
  let forced := items.filter fun item => item.failCost.isNone
  let free : List (Int × Nat) := items.filterMap fun item =>
    match item.satisfyCost, item.failCost with
    | some satisfy, some fail => some ((satisfy : Int) - fail, fail)
    | _, _ => none
  let stuck := items.filterMap fun item =>
    if item.satisfyCost.isNone then item.failCost else none
  if count < forced.length ∨ forced.any (·.satisfyCost.isNone) ∨
      forced.length + free.length < count then none
  else
    let gains := ((free.map (·.1)).mergeSort fun left right => right ≤ left).take
      (count - forced.length)
    let chosen : Int := gains.foldl (· + ·) (total (free.map (·.2)))
    some (total (forced.filterMap (·.satisfyCost)) + total stuck + chosen.toNat)

/-- The type of some of many conditions. -/
def threshold? (count : Nat) (items : List MiniscriptType) : Option MiniscriptType :=
  let fits : Bool := match items with
    | [] => false
    | first :: rest => first.base == .bool && rest.all (·.base == .wrapped)
  if fits && items.all (fun item => item.canFail && item.leavesOne) then
    let arguments (item : MiniscriptType) : Nat := match item.input with
      | .zero => 0
      | .one | .oneNonZero => 1
      | _ => 2
    let pushed := total (items.map arguments)
    let safeCount := items.countP (·.safe)
    let unique := items.all (·.dissatisfaction == .unique)
    some {
      base := .bool
      input := if pushed = 0 then .zero else if pushed = 1 then .one else .any
      canFail := true
      leavesOne := true
      dissatisfaction := if unique ∧ safeCount = items.length then .unique else .unknown
      safe := items.length < safeCount + count
      nonMalleable := items.all (·.nonMalleable) && items.length ≤ safeCount + count && unique
      times := (items.map (·.times)).foldl (.join (1 < count)) .zero
      satisfyCost := thresholdCost count items
      failCost := items.foldl (fun cost item => costSum cost item.failCost) (some 0) }
  else none

end MiniscriptType

/-! ### Checking -/

namespace Miniscript

variable {Key : Type}

/-- The kinds of time of an absolute time: heights are below a bound, times are not. -/
def timeKinds (time : Nat) : TimeKinds :=
  { TimeKinds.zero with height := time < 500000000, time := 500000000 ≤ time }

/-- The kinds of time of an age: one bit tells times from heights. -/
def ageKinds (age : Nat) : TimeKinds :=
  let isTime := age >>> 22 % 2 = 1
  { TimeKinds.zero with ageHeight := !isTime, ageTime := isTime }

mutual

/-- The type of a condition, if it has one. -/
def type? : Miniscript Key → Option MiniscriptType
  | .always => some .always
  | .never => some .never
  | .key _ => some .key
  | .keyDigest _ => some .keyDigest
  | .after time => some (.time (timeKinds time))
  | .older age => some (.time (ageKinds age))
  | .preimage .. => some .preimage
  | .wrap wrapper inner => inner.type?.bind (MiniscriptType.wrap? wrapper)
  | .andV left right => do (← left.type?).andV? (← right.type?)
  | .andB left right => do (← left.type?).andB? (← right.type?)
  | .andOr condition both otherwise => do
    (← condition.type?).andOr? (← both.type?) (← otherwise.type?)
  | .orB left right => do (← left.type?).orB? (← right.type?)
  | .orC left right => do (← left.type?).orC? (← right.type?)
  | .orD left right => do (← left.type?).orD? (← right.type?)
  | .orI left right => do (← left.type?).orI? (← right.type?)
  | .threshold count items => do MiniscriptType.threshold? count (← types? items)
  | .multi _ keys => some (.multi keys.length)
  | .multiAdd .. => some .multiAdd

/-- The types of some conditions. -/
def types? : List (Miniscript Key) → Option (List MiniscriptType)
  | [] => some []
  | item :: rest => do
    let type ← item.type?
    let types ← types? rest
    pure (type :: types)

end

end Miniscript

end WalletBridge
