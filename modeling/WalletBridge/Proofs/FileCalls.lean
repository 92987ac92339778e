/-
This file ties the machine of a wallet file to the entry points of the native library. A wallet that
is open in the library's memory hands out an address, shows one, or is opened, and the memory and
the stores afterwards are those of the steps that the machine takes for it. What the machine has
besides are the steps that a machine without faults never takes: writes that fail, and stops.
-/

import WalletBridge.Engine.Offline
import WalletBridge.Native.Entries
import WalletBridge.Proofs.WalletFile

namespace WalletBridge

/-! ### Objects in memory -/

namespace NativeHeap

variable {engine : WalletEngine} {heap : NativeHeap engine} {address : Address}

theorem object?_replace_self {former : NativeObject engine}
    (held : heap.object? address = some former) (object : NativeObject engine) :
    (heap.replace address object).object? address = some object := by
  simp only [object?, replace] at held ⊢
  generalize heap.objects = objects at held ⊢
  induction objects with
  | nil => cases held
  | cons entry rest ih =>
    obtain ⟨place, content⟩ := entry
    by_cases own : place = address
    · simp [own]
    · have other : (address == place) = false := by simpa using Ne.symm own
      rw [List.lookup_cons, other] at held
      rw [List.map_cons, if_neg own, List.lookup_cons, other]
      exact ih held

theorem object?_replace_ne {other : Address} (apart : other ≠ address)
    (object : NativeObject engine) :
    (heap.replace address object).object? other = heap.object? other := by
  simp only [object?, replace]
  induction heap.objects with
  | nil => rfl
  | cons entry rest ih =>
    obtain ⟨place, content⟩ := entry
    by_cases own : place = address
    · have skipped : (other == address) = false := by simpa using apart
      rw [List.map_cons, if_pos own, List.lookup_cons, List.lookup_cons, own, skipped]
      exact ih
    · rw [List.map_cons, if_neg own, List.lookup_cons, List.lookup_cons]
      cases other == place
      · exact ih
      · rfl

end NativeHeap

namespace SharedFile

variable {file : SharedFile} {heap : NativeHeap offlineEngine} {id : Nat} {address : Address}
variable {wallet : DescriptorWallet} {chain : Chain}

/-- The memory has the wallet that a user has open, and the stores are those of the file. -/
structure Carries (heap : NativeHeap offlineEngine) (file : SharedFile) (id : Nat)
    (address : Address) (chain : Chain) (wallet : DescriptorWallet) : Prop where
  disk : heap.world = file.disk
  opened : file.wallet? id = some wallet
  object : heap.object? address = some (.wallet ⟨wallet, file.key, chain⟩)

theorem Carries.wallet_apply (carries : Carries heap file id address chain wallet) :
    Body.wallet (some address) heap =
      (.value (address, ⟨wallet, file.key, chain⟩), heap) := by
  simp [Body.wallet, Body.object, carries.object]

theorem revealNextAddress_of_value (carries : Carries heap file id address chain wallet)
    {shown : String} (revealed : wallet.reveal.1 = .value shown) :
    Body.revealNextAddress (some address) heap =
      (.value (some (Body.ownedOctets shown)),
        { (heap.replace address (.wallet ⟨wallet.reveal.2, file.key, chain⟩)).replace address
            (.wallet ⟨{ wallet.reveal.2 with staged := .nothing }, file.key, chain⟩) with
          world := (wallet.reveal.2.persist file.key heap.world).2.2
          live := heap.live + 1 }) := by
  have attempt : offlineEngine.reveal wallet = (.value shown, wallet.reveal.2) :=
    Prod.ext revealed rfl
  rw [Body.revealNextAddress, Body.bind_apply, carries.wallet_apply]
  simp only [attempt]
  rfl

theorem revealNextAddress_of_panicked (carries : Carries heap file id address chain wallet)
    {text : Option String} (revealed : wallet.reveal.1 = .panicked text) :
    Body.revealNextAddress (some address) heap =
      (.panicked text, heap.replace address (.wallet ⟨wallet.reveal.2, file.key, chain⟩)) := by
  have attempt : offlineEngine.reveal wallet = (.panicked text, wallet.reveal.2) :=
    Prod.ext revealed rfl
  rw [Body.revealNextAddress, Body.bind_apply, carries.wallet_apply]
  simp only [attempt]
  rfl

/-- A call for the next address does what the machine does, and touches no other object. -/
theorem revealNextAddress_step (carries : Carries heap file id address chain wallet) :
    ∃ after later, file.step? (.reveal id .written) = some after ∧
      Carries (Body.revealNextAddress (some address) heap).2 after id address chain later ∧
      (∀ other, other ≠ address →
        (Body.revealNextAddress (some address) heap).2.object? other = heap.object? other) ∧
      match (Body.revealNextAddress (some address) heap).1 with
      | .value text => ∃ shown, text = some (Body.ownedOctets shown) ∧
          after.handedOut = shown :: file.handedOut
      | _ => after.handedOut = file.handedOut := by
  obtain ⟨user, found, stage⟩ := exists_opened carries.opened
  have stepped : file.step? (.reveal id .written) = some (file.reveal id wallet .written) := by
    simp [step?, found, stepUser, stage]
  cases revealed : wallet.reveal.1 with
  | value shown =>
    have after : file.reveal id wallet .written =
        ({ file with disk := (wallet.reveal.2.persist file.key file.disk).2.2 }.setStage id
          (.opened { wallet.reveal.2 with staged := .nothing })).record
          (.revealed id (DescriptorWallet.nextIndex wallet.external wallet.revealed.external).1
            shown) := by
      simp only [reveal, revealed]
      rfl
    rw [after] at stepped
    rw [revealNextAddress_of_value carries revealed, carries.disk]
    refine ⟨_, { wallet.reveal.2 with staged := .nothing }, stepped, ⟨rfl, ?_, ?_⟩, ?_, ?_⟩
    · exact wallet?_setStage_self found _
    · exact NativeHeap.object?_replace_self (NativeHeap.object?_replace_self carries.object _) _
    · intro other apart
      exact (NativeHeap.object?_replace_ne apart _).trans (NativeHeap.object?_replace_ne apart _)
    · exact ⟨shown, rfl, rfl⟩
  | refused cause => exact cause.elim
  | panicked text =>
    have after : file.reveal id wallet .written =
        (file.setStage id (.opened wallet.reveal.2)).record (.withheld id) := by
      simp only [reveal, revealed]
    rw [after] at stepped
    rw [revealNextAddress_of_panicked carries revealed]
    refine ⟨_, wallet.reveal.2, stepped, ⟨carries.disk, ?_, ?_⟩, ?_, rfl⟩
    · exact wallet?_setStage_self found _
    · exact NativeHeap.object?_replace_self carries.object _
    · exact fun other apart => NativeHeap.object?_replace_ne apart _

/-- A call for the address with an index does what the machine does, and changes nothing. -/
theorem peekAddress_step (carries : Carries heap file id address chain wallet) (index : UInt32) :
    ∃ after, file.step? (.peek id index) = some after ∧
      Carries (Body.peekAddress (some address) index heap).2 after id address chain wallet ∧
      (Body.peekAddress (some address) index heap).2.objects = heap.objects ∧
      match (Body.peekAddress (some address) index heap).1 with
      | .value text => ∃ shown, text = some (Body.ownedOctets shown) ∧
          after = file.record (.peeked id index shown)
      | _ => after = file := by
  obtain ⟨user, found, stage⟩ := exists_opened carries.opened
  rw [Body.peekAddress, Body.bind_apply, carries.wallet_apply]
  simp only
  by_cases beyond : NativeFault.indexLimit < index.toNat
  · have stepped : file.step? (.peek id index) = some file := by
      simp [step?, found, stepUser, stage, DescriptorWallet.indexLimit, beyond]
    rw [if_pos beyond]
    exact ⟨file, stepped, carries, rfl, rfl⟩
  · rw [if_neg beyond]
    cases shown : wallet.peek index with
    | value text =>
      have attempt : offlineEngine.peek wallet index = .value text := shown
      have stepped : file.step? (.peek id index) = some (file.record (.peeked id index text)) := by
        simp [step?, found, stepUser, stage, DescriptorWallet.indexLimit, beyond, shown]
      rw [attempt]
      exact ⟨_, stepped, ⟨carries.disk, carries.opened, carries.object⟩, rfl, text, rfl, rfl⟩
    | refused cause => exact cause.elim
    | panicked text =>
      have attempt : offlineEngine.peek wallet index = .panicked text := shown
      have stepped : file.step? (.peek id index) = some file := by
        simp [step?, found, stepUser, stage, DescriptorWallet.indexLimit, beyond, shown]
      rw [attempt]
      exact ⟨file, stepped, carries, rfl, rfl⟩

/-- What a call that opens a wallet is told, and where its database opens. -/
structure AsksFor (heap : NativeHeap offlineEngine) (descriptor change network : NativeString)
    (database : Option Address) (request : WalletRequest) (key : StoreKey) : Prop where
  descriptor : Body.text "descriptor" descriptor heap = (.value request.descriptor, heap)
  change : Body.optionalText "change_descriptor" change heap = (.value request.change, heap)
  network : ∃ name, Body.text "network" network heap = (.value name, heap) ∧
    Chain.ofName? name = some request.chain
  database : ∃ place, Body.database database heap = (.value place, heap) ∧
    heap.world.openStore place.2 = (.value key, heap.world)

/-- The wallet that is stored is loaded, and one that is not there is created. -/
theorem openWallet_eq {descriptor change network : NativeString} {database : Option Address}
    {request : WalletRequest} {key : StoreKey}
    (asks : AsksFor heap descriptor change network database request key) :
    Body.openWallet descriptor change network database heap =
      match (DescriptorWallet.load request key heap.world).1 with
      | .value (some wallet) => (.value ⟨wallet, key, request.chain⟩, heap)
      | .value none =>
        match DescriptorWallet.create request key heap.world with
        | (.value wallet, disk) =>
          (.value ⟨wallet, key, request.chain⟩, { heap with world := disk })
        | (.refused failure, disk) => (.refused (.create failure), { heap with world := disk })
        | (.panicked text, disk) => (.panicked text, { heap with world := disk })
      | .refused failure => (.refused (.load failure), heap)
      | .panicked text => (.panicked text, heap) := by
  obtain ⟨name, named, chain⟩ := asks.network
  obtain ⟨⟨place, path⟩, placed, opens⟩ := asks.database
  have store : offlineEngine.openStore path heap.world = (.value key, heap.world) := opens
  rw [Body.openWallet, Body.bind_apply, asks.descriptor]
  simp only
  rw [Body.bind_apply, asks.change]
  simp only
  rw [Body.bind_apply, named]
  simp only
  rw [Body.bind_apply, placed]
  simp only [chain]
  rw [Body.bind_apply, Body.withWorld]
  simp only [store, Attempt.mapCause]
  rw [Body.bind_apply, Body.withWorld]
  have loads : offlineEngine.load ⟨request.descriptor, request.change, request.chain⟩ key
      heap.world = ((DescriptorWallet.load request key heap.world).1, heap.world) := rfl
  simp only [loads]
  cases (DescriptorWallet.load request key heap.world).1 with
  | value found =>
    cases found with
    | some wallet => rfl
    | none =>
      have creates : offlineEngine.create ⟨request.descriptor, request.change, request.chain⟩ key
          heap.world = DescriptorWallet.create request key heap.world := rfl
      simp only [Attempt.mapCause, Body.bind_apply, Body.withWorld, creates]
      cases DescriptorWallet.create request key heap.world with
      | mk attempt disk => cases attempt <;> rfl
  | refused failure => rfl
  | panicked text => rfl

/-- A call that opens a wallet does what the machine does in one step, or in two when the file
holds no wallet yet. -/
theorem openWallet_steps {descriptor change network : NativeString} {database : Option Address}
    {request : WalletRequest} {own : Nat}
    (asks : AsksFor heap descriptor change network database request file.key)
    (disk : heap.world = file.disk) (found : file.users[id]? = some ⟨own, request, .arrived⟩)
    (free : file.isBusy own = false) :
    ∃ steps after, (steps = [.load id] ∨ steps = [.load id, .create id]) ∧
      file.run? steps = some after ∧
      (Body.openWallet descriptor change network database heap).2.world = after.disk ∧
      (Body.openWallet descriptor change network database heap).2.objects = heap.objects ∧
      match (Body.openWallet descriptor change network database heap).1 with
      | .value opened => opened.store = file.key ∧ opened.chain = request.chain ∧
          after.wallet? id = some opened.wallet
      | _ => after.wallet? id = none := by
  have stepped : file.step? (.load id) = some (file.load id ⟨own, request, .arrived⟩) := by
    simp [step?, found, stepUser, free]
  have single : file.run? [.load id] = some (file.load id ⟨own, request, .arrived⟩) := by
    rw [run?, stepped]
    rfl
  have unchanged : DescriptorWallet.load request file.key file.disk =
      ((DescriptorWallet.load request file.key file.disk).1, file.disk) := rfl
  rw [openWallet_eq asks, disk]
  cases loaded : (DescriptorWallet.load request file.key file.disk).1 with
  | value held =>
    rw [loaded] at unchanged
    cases held with
    | some wallet =>
      have after : file.load id ⟨own, request, .arrived⟩ =
          (file.setStage id (.opened wallet)).record (.loaded id) := by
        simp only [SharedFile.load, unchanged]
      rw [after] at single
      exact ⟨_, _, .inl rfl, single, disk, rfl, rfl, rfl, wallet?_setStage_self found _⟩
    | none =>
      have missed : file.load id ⟨own, request, .arrived⟩ = file.setStage id .missed := by
        simp only [SharedFile.load, unchanged]
      have waiting : (file.setStage id .missed).users[id]? = some ⟨own, request, .missed⟩ := by
        simp [setStage, found]
      have both : file.run? [.load id, .create id] =
          some ((file.setStage id .missed).create id ⟨own, request, .missed⟩) := by
        rw [run?, stepped, missed, Option.bind_some, run?]
        simp [step?, waiting, stepUser, run?]
      rcases DescriptorWallet.create_eq request file.key file.disk with
        ⟨wallet, created, _⟩ | ⟨failure, refused⟩
      · have creates : DescriptorWallet.create request (file.setStage id .missed).key
            (file.setStage id .missed).disk =
              (.value wallet, file.disk.write file.key wallet.toStored) := created
        simp only [SharedFile.create, creates] at both
        rw [created]
        exact ⟨_, _, .inr rfl, both, rfl, rfl, rfl, rfl, wallet?_setStage_self waiting _⟩
      · have refuses : DescriptorWallet.create request (file.setStage id .missed).key
            (file.setStage id .missed).disk = (.refused failure, file.disk) := refused
        simp only [SharedFile.create, refuses] at both
        rw [refused]
        exact ⟨_, _, .inr rfl, both, rfl, rfl, wallet?_setStage_self waiting _⟩
  | refused failure =>
    rw [loaded] at unchanged
    have after : file.load id ⟨own, request, .arrived⟩ =
        (file.setStage id (.notLoaded (some failure))).record (.refused id) := by
      simp only [SharedFile.load, unchanged]
    rw [after] at single
    exact ⟨_, _, .inl rfl, single, disk, rfl, wallet?_setStage_self found _⟩
  | panicked text =>
    rw [loaded] at unchanged
    have after : file.load id ⟨own, request, .arrived⟩ =
        (file.setStage id (.notLoaded none)).record (.refused id) := by
      simp only [SharedFile.load, unchanged]
    rw [after] at single
    exact ⟨_, _, .inl rfl, single, disk, rfl, wallet?_setStage_self found _⟩

end SharedFile

end WalletBridge
