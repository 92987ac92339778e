/-
This file says how a wallet without funds ends an attempt to pay. The checks come in a fixed order:
the conditions for spending, then the recipients one after another, then the fee for what is written
so far, then the script for change, and last the funds. Sums and products of amounts must fit in a
word; where they do not, the attempt panics.
-/

import WalletBridge.Descriptor.Policy
import WalletBridge.Engine.DescriptorWallet

namespace WalletBridge

namespace Payment

/-- The rate that is taken when none was given, in satoshi for a thousand units of weight. -/
def defaultRate : Nat := 250

/-- An amount that fits in a word. -/
def amount (value : Nat) : Attempt BuildFailure Nat :=
  if value < values64 then .value value else .panicked (some "an amount does not fit")

/-- What so many units of weight cost, rounded up. -/
def cost (rate weight : Nat) : Attempt BuildFailure Nat :=
  match amount (rate * weight + 999) with
  | .value total => .value (total / 1000)
  | other => other

/-- Goes on with the value of an attempt. -/
def andThen {Content Result : Type} (first : Attempt BuildFailure Content)
    (next : Content → Attempt BuildFailure Result) : Attempt BuildFailure Result :=
  match first with
  | .value content => next content
  | .refused failure => .refused failure
  | .panicked text => .panicked text

/-- The sum of what the recipients get; everybody gets as much as their script is worth
spending. -/
def outgoing (place sum : Nat) : List (Bytes × UInt64) → Attempt BuildFailure Nat
  | [] => .value sum
  | (script, value) :: rest =>
    if value.toNat < Script.dustLimit script then .refused (.belowDustLimit place)
    else andThen (amount (sum + value.toNat)) fun sum => outgoing (place + 1) sum rest

/-- The weight of a transaction with these outputs and no inputs: everything counts four times, the
mark of witnesses once. -/
def weight (payments : List (Bytes × UInt64)) : Nat :=
  4 * (4 + 1 + Script.countLength payments.length +
    total (payments.map fun payment => Script.outputLength payment.1) + 4) + 2

/-- The weight of an output for change. -/
def changeWeight : Nat := 4 * 31

/-- Whether there is a script for change: one that was handed out, or one with an address. -/
def hasChangeScript (wallet : DescriptorWallet) : Bool :=
  let (descriptor, last) := match wallet.internal with
    | some internal => (internal, wallet.revealed.internal)
    | none => (wallet.external, wallet.revealed.external)
  last.isSome || (DescriptorWallet.addressText wallet.chain descriptor 0).isValue

/-- Whether it is clear under which conditions the wallet spends. -/
def hasClearPolicy (wallet : DescriptorWallet) : Bool :=
  match wallet.external.times?, wallet.internal.map (·.times?) with
  | none, _ | _, some none => false
  | some _, none => true
  | some external, some (some internal) => (external.merge? internal).isSome

/-- What is missing when a wallet without funds is to pay so much. Nothing is missing for nothing,
but then there is nobody to be paid. -/
def missing (needed : Nat) : BuildFailure :=
  if needed = 0 then .noRecipients else .insufficientFunds needed 0

/-- How an attempt to pay ends. -/
def attempt (plan : PaymentPlan) (wallet : DescriptorWallet) :
    Attempt BuildFailure PartialTransaction :=
  let rate := (plan.rate.map (·.toNat)).getD defaultRate
  if !hasClearPolicy wallet then .refused (.other "a way to spend has to be chosen")
  else
    andThen (outgoing 0 0 plan.payments) fun sum =>
    andThen (cost rate (weight plan.payments)) fun fee =>
    if !hasChangeScript wallet then .panicked (some "a script without an address")
    else
      andThen (amount (sum + fee)) fun needed =>
      andThen (cost rate changeWeight) fun _ => .refused (missing needed)

end Payment

end WalletBridge
