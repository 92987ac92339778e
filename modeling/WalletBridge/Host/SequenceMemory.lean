/-
This file holds the copying of a sequence as single events. A sequence is a pointer to a block, the
number of its elements and the number of elements it has room for. Every visit of an element is
written down with the place of the element, and so is the release of the block with the sequence as
it was handed over.

The elements lie still while they are copied: the copy looks at them through a borrowed slice. What
decodes an element is not known. It can end in any way and change everything else.
-/

import WalletBridge.Host.TransitMemory

namespace WalletBridge

/-- A sequence as it crosses the boundary. -/
structure RawSequence where
  /-- Where its block is, when there is one. -/
  address : Option Address
  length : UInt64
  capacity : UInt64
  deriving Repr, DecidableEq

/-- What happens while a sequence is copied. -/
inductive SequenceEvent (Element : Type) where
  /-- An element is decoded. -/
  | visited (address : Address) (position : Nat) (element : Element)
  /-- The block is given back. -/
  | released (sequence : RawSequence)
  deriving Repr, DecidableEq

namespace RawSequence

variable {Element State Content : Type} (slots : Address → Nat → Element)

/-- The elements of a block that lies at an address. -/
def elements (sequence : RawSequence) (address : Address) : List Element :=
  (List.range sequence.length.toNat).map (slots address)

/-- A sequence without its pointer. -/
def block (sequence : RawSequence) : Block Element :=
  match sequence.address with
  | none => .null sequence.length
  | some address =>
    .held (sequence.elements slots address)
      (sequence.capacity.toNat - sequence.length.toNat)

/-- The visit of the element at a position. -/
def visit (address : Address) (position : Nat) : SequenceEvent Element :=
  .visited address position (slots address position)

/-- Decodes the element at a position. -/
def decodeAt (decode : Element → Run State Content) (address : Address) (position : Nat) :
    Traced (SequenceEvent Element) State Content := fun state =>
  let (ending, after) := decode (slots address position) state
  (ending, after, [visit slots address position])

/-- Decodes the elements at some positions, up to the first that does not give a value. -/
def decodeEach (decode : Element → Run State Content) (address : Address) :
    List Nat → Traced (SequenceEvent Element) State (List Content)
  | [] => .pure []
  | position :: rest => do
    let content ← decodeAt slots decode address position
    let contents ← decodeEach decode address rest
    return content :: contents

/-- Copies a sequence: a null is empty or wrong, and a block is given back on every way out. -/
def copy (release : RawSequence → State → State) (decode : Element → Run State Content)
    (sequence : RawSequence) : Traced (SequenceEvent Element) State (List Content) :=
  match sequence.address with
  | none =>
    if sequence.length = 0 then .pure []
    else .fail (.invalidInput
      ("null sequence claiming " ++ toString sequence.length ++ " elements"))
  | some address =>
    (decodeEach slots decode address (List.range sequence.length.toNat)).guarded fun state =>
      (release sequence state, [.released sequence])

end RawSequence

end WalletBridge
