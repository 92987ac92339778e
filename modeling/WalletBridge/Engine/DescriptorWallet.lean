/-
This file holds wallets that derive their addresses from descriptors. A wallet knows which index it
handed out last and writes it to its store when it is told to; what is written takes the place of
what was there. A wallet is created for descriptors that are sane, and loaded only as the wallet
that was asked for.
-/

import WalletBridge.Engine.Store

namespace WalletBridge

/-- A wallet. -/
structure DescriptorWallet where
  chain : Chain
  external : Descriptor
  internal : Option Descriptor
  /-- The last index that was handed out. -/
  revealed : LastRevealed
  /-- What is not written to the store yet. -/
  staged : LastRevealed

namespace DescriptorWallet

/-! ### Addresses -/

/-- The greatest index. -/
def indexLimit : Nat := NativeFault.indexLimit

/-- The index that counts for a descriptor: without a wildcard there is only one script. -/
def effectiveIndex (descriptor : Descriptor) (index : Nat) : Nat :=
  if descriptor.hasWildcard then index else 0

/-- The address of a descriptor with an index. A script without a standard form has none, which
nobody checked before, so asking for it panics. -/
def addressText (chain : Chain) (descriptor : Descriptor) (index : Nat) : Attempt Empty String :=
  match descriptor.addressAt? chain (effectiveIndex descriptor index) with
  | some address => .value address.text
  | none => .panicked (some "a script without an address")

/-- The address with an index. -/
def peek (wallet : DescriptorWallet) (index : UInt32) : Attempt Empty String :=
  addressText wallet.chain wallet.external index.toNat

/-- The index behind the last one, and whether it is new. -/
def nextIndex (descriptor : Descriptor) : Option Nat → Nat × Bool
  | none => (0, true)
  | some last =>
    if !descriptor.hasWildcard then (0, false)
    else if last = indexLimit then (last, false)
    else (last + 1, true)

/-- Hands the next address out. The index is taken even if there is no address for it. -/
def reveal (wallet : DescriptorWallet) : Attempt Empty String × DescriptorWallet :=
  let (index, isNew) := nextIndex wallet.external wallet.revealed.external
  let change : LastRevealed := ⟨if isNew then some index else none, none⟩
  (addressText wallet.chain wallet.external index,
    { wallet with
      revealed := wallet.revealed.updated change
      staged := wallet.staged.updated change })

/-! ### Stores -/

/-- Writes what is staged. -/
def persist (wallet : DescriptorWallet) (key : StoreKey) (disk : Disk) :
    Attempt String Unit × DescriptorWallet × Disk :=
  let written := match disk.read key with
    | some stored => disk.write key { stored with revealed := stored.revealed.updated wallet.staged }
    | none => disk
  (.value (), { wallet with staged := .nothing }, if wallet.staged = .nothing then disk else written)

/-- What is kept of a new wallet. -/
def toStored (wallet : DescriptorWallet) : StoredWallet :=
  ⟨wallet.chain, wallet.external, wallet.internal, wallet.revealed⟩

/-- The wallet that a store holds. -/
def ofStored (stored : StoredWallet) : DescriptorWallet :=
  ⟨stored.chain, stored.external, stored.internal, stored.revealed, .nothing⟩

/-- Whether a stored descriptor is the one that was asked for; secret keys stand for their public
ones. Descriptors that nothing can be derived from cannot be compared. -/
def matching (chain : Chain) (stored : Descriptor) (expected : String) :
    Attempt LoadFailure Unit :=
  match Descriptor.parse? chain expected with
  | none => .refused (.descriptor "not a descriptor for this network")
  | some descriptor =>
    match descriptor.identity? with
    | none => .panicked (some "a descriptor without a first script")
    | some identity =>
      if some identity = stored.identity? then .value ()
      else .refused (.mismatch "another descriptor is stored")

/-- Whether the stored descriptor for change is the one that was asked for. -/
def matchingChange (chain : Chain) (stored : Option Descriptor) (expected : Option String) :
    Attempt LoadFailure Unit :=
  match stored, expected with
  | none, none => .value ()
  | none, some text =>
    match Descriptor.parse? chain text with
    | none => .refused (.descriptor "not a descriptor for this network")
    | some _ => .refused (.mismatch "no descriptor for change is stored")
  | some _, none => .refused (.mismatch "a descriptor for change is stored")
  | some own, some text => matching chain own text

/-- Loads the wallet of a store, if it holds one. -/
def load (request : WalletRequest) (key : StoreKey) (disk : Disk) :
    Attempt LoadFailure (Option DescriptorWallet) × Disk :=
  let attempt := match disk.read key with
    | none => .value none
    | some stored =>
      if stored.chain ≠ request.chain then .refused (.mismatch "another network is stored")
      else
        match matching stored.chain stored.external request.descriptor with
        | .refused failure => .refused failure
        | .panicked text => .panicked text
        | .value () =>
          (matchingChange stored.chain stored.internal request.change).map fun _ =>
            some (ofStored stored)
  (attempt, disk)

/-- The descriptor of a text for a new wallet. -/
def admitted? (chain : Chain) (text : String) : Option Descriptor :=
  (Descriptor.parse? chain text).filter fun descriptor => descriptor.isUsable && descriptor.isSane

/-- The wallet that was asked for, before anything was handed out. Its two descriptors have to be
different. -/
def new? (request : WalletRequest) : Option DescriptorWallet := do
  let external ← admitted? request.chain request.descriptor
  match request.change with
  | none => pure ⟨request.chain, external, none, .nothing, .nothing⟩
  | some text =>
    let internal ← admitted? request.chain text
    if external.identity? = internal.identity? then none
    else pure ⟨request.chain, external, some internal, .nothing, .nothing⟩

/-- Creates a wallet in a store that holds none. -/
def create (request : WalletRequest) (key : StoreKey) (disk : Disk) :
    Attempt CreateFailure DescriptorWallet × Disk :=
  if (disk.read key).isSome then (.refused (.store "the store holds a wallet"), disk)
  else
    match new? request with
    | some wallet => (.value wallet, disk.write key wallet.toStored)
    | none => (.refused (.descriptor "no descriptor for a wallet"), disk)

end DescriptorWallet

end WalletBridge
