/-
This file says what a call that changes a wallet leaves behind when it fails. Where the engine
failed, nothing is left: the memory, the stores and everything outside are what they were, so that
whatever is called later is answered as if the call had not been made. Where the engine made the
change and the store could not be written, the change is still in memory. The address that such a
call withheld counts as handed out, and the next address shown is the one behind it.

What is assumed of the engine is that its own parts change nothing when they fail, that a chain
source is only asked, and that a failed write keeps what was to be written.
-/

import WalletBridge.Engine.Offline
import WalletBridge.Proofs.ObjectAddresses
import WalletBridge.Proofs.RevealedAddresses
import WalletBridge.Proofs.WalletChanges

namespace WalletBridge

/-! ### Calls that change a wallet -/

/-- A call that changes a wallet. -/
inductive WalletChange where
  | reveal (wallet : Option Address)
  | sync (wallet blockchain : Option Address)
  | finish (builder wallet : Option Address)

namespace WalletChange

/-- What a change is answered with. -/
def payload : WalletChange → Payload
  | .reveal _ => .text
  | .sync .. => .unit
  | .finish .. => .object .psbt

/-- The entry point behind a change. -/
def entry : (change : WalletChange) → Entry change.payload
  | .reveal wallet => .revealNextAddress wallet
  | .sync wallet blockchain => .sync wallet blockchain
  | .finish builder wallet => .finish builder wallet

end WalletChange

variable {engine : WalletEngine} {answers : Payload} {Content Cause : Type}

/-- An engine whose parts change nothing when they fail, and that changes nothing by asking a chain
source; a failed write keeps the wallet as it is, with all that was to be written. -/
structure WalletEngine.FailsClean (engine : WalletEngine) : Prop where
  scan : ∀ client stopGap batchSize wallet world,
    (engine.scan client stopGap batchSize wallet world).2 = world
  learn : ∀ news wallet reason after,
    engine.learn news wallet = (.refused reason, after) → after = wallet
  build : ∀ plan wallet world failure changed after,
    engine.build plan wallet world = (.refused failure, changed, after) →
      changed = wallet ∧ after = world
  persist : ∀ wallet store world reason kept after,
    engine.persist wallet store world = (.refused reason, kept, after) →
      kept = wallet ∧ after = world

variable {heap after : NativeHeap engine} {state : OpenWallet engine} {place : Address}
  {fault : NativeFault}

/-- What an engine makes of a wallet for a call, before anything is written: the wallet in its
place, and the world. -/
inductive WalletChange.Makes (heap : NativeHeap engine) :
    WalletChange → Address → OpenWallet engine → engine.World → Prop where
  | reveal {wallet : Address} {state : OpenWallet engine} {shown : String} :
      heap.object? wallet = some (.wallet state) →
      (engine.reveal state.wallet).1 = .value shown →
      Makes heap (.reveal (some wallet)) wallet
        { state with wallet := (engine.reveal state.wallet).2 } heap.world
  | sync {wallet blockchain : Address} {state : OpenWallet engine} {source : ChainSource engine}
      {news : engine.News} {informed : engine.Wallet} :
      heap.object? wallet = some (.wallet state) →
      heap.object? blockchain = some (.blockchain source) →
      (engine.scan source.client source.stopGap source.batchSize state.wallet heap.world).1 =
        .value news →
      engine.learn news state.wallet = (.value (), informed) →
      Makes heap (.sync (some wallet) (some blockchain)) wallet
        { state with wallet := informed } heap.world
  | finish {builder wallet : Address} {params : BuilderParams} {state : OpenWallet engine}
      {built : PartialTransaction} {changed : engine.Wallet} {world : engine.World} :
      heap.object? builder = some (.builder params) →
      heap.object? wallet = some (.wallet state) →
      engine.build ⟨Body.paymentsTo params.recipients, params.rate⟩ state.wallet heap.world =
        (.value built, changed, world) →
      Makes heap (.finish (some builder) (some wallet)) wallet
        { state with wallet := changed } world

/-! ### Bodies that fail -/

theorem BuildFailure.code_ne_persist (failure : BuildFailure) : failure.code ≠ "Persist" := by
  cases failure <;> simp [code]

theorem NativeHeap.Addressed.withWallet_self (addressed : heap.Addressed)
    (held : heap.object? place = some (.wallet state)) :
    heap.withWallet place state heap.world = heap := by
  rw [NativeHeap.withWallet, addressed.replace_self held]

/-- How a change that fails leaves the memory: as it was, or as the engine has changed it if only the
store could not be written. -/
def WalletChange.Leaves (heap : NativeHeap engine) (change : WalletChange) (fault : NativeFault)
    (after : NativeHeap engine) : Prop :=
  fault.code ≠ "Persist" ∧ after = heap ∨
    fault.code = "Persist" ∧ ∃ place state world, change.Makes heap place state world ∧
      after = heap.withWallet place state world

namespace Body

/-- What fails in sequence fails in its first part, or behind it. -/
theorem bind_eq_refused {Result : Type} {first : Body engine Content}
    {next : Content → Body engine Result} (failed : (first >>= next) heap = (.refused fault, after)) :
    first heap = (.refused fault, after) ∨
      ∃ content between, first heap = (.value content, between) ∧
        next content between = (.refused fault, after) := by
  rw [bind_apply] at failed
  rcases ended : first heap with ⟨attempt, between⟩
  rw [ended] at failed
  cases attempt with
  | value content => exact .inr ⟨content, between, rfl, failed⟩
  | refused cause =>
    cases failed
    exact .inl rfl
  | panicked text => cases failed

/-- A change that is not concluded is in memory, whether the engine failed or the store did. -/
theorem conclude_eq_refused (clean : engine.FailsClean) {blame : Cause → NativeFault}
    {attempt : Attempt Cause Content}
    (failed : conclude place state blame attempt heap = (.refused fault, after)) :
    after = heap.withWallet place state heap.world ∧
      ((∃ cause, attempt = .refused cause ∧ fault = blame cause) ∨
        ∃ content, attempt = .value content ∧ fault.code = "Persist") := by
  cases attempt with
  | refused cause =>
    rw [conclude_refused] at failed
    cases failed
    exact ⟨rfl, .inl ⟨cause, rfl, rfl⟩⟩
  | panicked text =>
    rw [conclude_panicked] at failed
    cases failed
  | value content =>
    rcases persisted : engine.persist state.wallet state.store heap.world with
      ⟨written, wallet, world⟩
    rw [conclude_value content persisted] at failed
    cases written with
    | value done => cases failed
    | panicked text => cases failed
    | refused reason =>
      obtain ⟨rfl, rfl⟩ := clean.persist _ _ _ _ _ _ persisted
      cases failed
      exact ⟨rfl, .inr ⟨content, rfl, rfl⟩⟩

theorem revealNextAddress_leaves (clean : engine.FailsClean) {wallet : Option Address}
    (failed : revealNextAddress wallet heap = (.refused fault, after)) :
    WalletChange.Leaves heap (.reveal wallet) fault after := by
  rcases wallet_cases wallet heap with ⟨address, state, rfl, held, -⟩ | absent
  · rw [revealNextAddress_apply held] at failed
    rcases bind_eq_refused failed with failed | ⟨shown, between, -, failed⟩
    · rcases conclude_eq_refused clean failed with ⟨rfl, ⟨cause, -, -⟩ | ⟨shown, made, code⟩⟩
      · exact cause.elim
      · exact .inr ⟨code, _, _, _, .reveal held made, rfl⟩
    · cases failed
  · rw [revealNextAddress, bind_apply, absent] at failed
    cases failed
    exact .inl ⟨by simp [NativeFault.code], rfl⟩

/-- An action that keeps the world keeps the memory. -/
theorem withWorld_of_kept {blame : Cause → NativeFault}
    {action : engine.World → Attempt Cause Content × engine.World}
    (kept : (action heap.world).2 = heap.world) :
    withWorld blame action heap = ((action heap.world).1.mapCause blame, heap) := by
  rw [withWorld]
  rcases acted : action heap.world with ⟨attempt, world⟩
  rw [acted] at kept
  obtain rfl : world = heap.world := kept
  rfl

/-- A wallet that is told news and cannot go on is as it was, or as the news have made it. -/
theorem conclude_learn_leaves (clean : engine.FailsClean) (addressed : heap.Addressed)
    {blockchain : Address} {source : ChainSource engine} {news : engine.News}
    (held : heap.object? place = some (.wallet state))
    (connected : heap.object? blockchain = some (.blockchain source))
    (told : (engine.scan source.client source.stopGap source.batchSize state.wallet
      heap.world).1 = .value news)
    (failed : conclude place { state with wallet := (engine.learn news state.wallet).2 }
      .disconnected (engine.learn news state.wallet).1 heap = (.refused fault, after)) :
    WalletChange.Leaves heap (.sync (some place) (some blockchain)) fault after := by
  obtain ⟨rfl, cause⟩ := conclude_eq_refused clean failed
  rcases learnt : engine.learn news state.wallet with ⟨attempt, informed⟩
  rw [learnt] at cause
  rcases cause with ⟨reason, isRefused, rfl⟩ | ⟨done, isLearnt, code⟩
  · obtain rfl : attempt = .refused reason := isRefused
    obtain rfl := clean.learn _ _ _ _ learnt
    exact .inl ⟨by simp [NativeFault.code], addressed.withWallet_self held⟩
  · obtain rfl : attempt = .value done := isLearnt
    exact .inr ⟨code, _, _, _, .sync held connected told learnt, rfl⟩

theorem sync_leaves (clean : engine.FailsClean) (addressed : heap.Addressed)
    {wallet blockchain : Option Address}
    (failed : sync wallet blockchain heap = (.refused fault, after)) :
    WalletChange.Leaves heap (.sync wallet blockchain) fault after := by
  rcases wallet_cases wallet heap with ⟨address, state, rfl, held, found⟩ | absent
  · rcases blockchain_cases blockchain heap with ⟨place, source, rfl, connected, reached⟩ | absent
    · rw [sync_apply held connected, bind_apply,
        withWorld_of_kept (clean.scan _ _ _ _ heap.world)] at failed
      cases told : (engine.scan source.client source.stopGap source.batchSize state.wallet
          heap.world).1 with
      | panicked text =>
        rw [told] at failed
        cases failed
      | refused reason =>
        rw [told] at failed
        cases failed
        exact .inl ⟨by simp [NativeFault.code], rfl⟩
      | value news =>
        rw [told] at failed
        rcases bind_eq_refused failed with failed | ⟨done, between, -, failed⟩
        · exact conclude_learn_leaves clean addressed held connected told failed
        · cases failed
    · rw [sync, bind_apply, found] at failed
      simp only [bind_apply, absent] at failed
      cases failed
      exact .inl ⟨by simp [NativeFault.code], rfl⟩
  · rw [sync, bind_apply, absent] at failed
    cases failed
    exact .inl ⟨by simp [NativeFault.code], rfl⟩

theorem finish_leaves (clean : engine.FailsClean) (addressed : heap.Addressed)
    {builder wallet : Option Address}
    (failed : finish builder wallet heap = (.refused fault, after)) :
    WalletChange.Leaves heap (.finish builder wallet) fault after := by
  rcases builder_cases builder heap with ⟨place, params, rfl, told, lists⟩ | absent
  · rcases wallet_cases wallet heap with ⟨address, state, rfl, held, found⟩ | absent
    · by_cases fit : ∀ recipient ∈ params.recipients, recipient.1.fits state.chain = true
      · rw [finish_apply told held fit] at failed
        rcases built : engine.build ⟨paymentsTo params.recipients, params.rate⟩ state.wallet
          heap.world with ⟨attempt, changed, world⟩
        rw [built] at failed
        rcases conclude_eq_refused clean failed with
          ⟨rfl, ⟨failure, isRefused, rfl⟩ | ⟨transaction, isBuilt, code⟩⟩
        · obtain rfl : attempt = .refused failure := isRefused
          obtain ⟨rfl, rfl⟩ := clean.build _ _ _ _ _ _ built
          exact .inl ⟨failure.code_ne_persist, addressed.withWallet_self held⟩
        · obtain rfl : attempt = .value transaction := isBuilt
          exact .inr ⟨code, _, _, _, .finish told held built, rfl⟩
      · obtain ⟨reason, ended⟩ := finish_foreign told held fit
        rw [ended] at failed
        cases failed
        exact .inl ⟨by simp [NativeFault.code], rfl⟩
    · rw [finish, bind_apply, lists] at failed
      simp only [bind_apply, absent] at failed
      cases failed
      exact .inl ⟨by simp [NativeFault.code], rfl⟩
  · rw [finish, bind_apply, absent] at failed
    cases failed
    exact .inl ⟨by simp [NativeFault.code], rfl⟩

end Body

theorem WalletChange.leaves_of_refused (clean : engine.FailsClean) (addressed : heap.Addressed)
    (change : WalletChange) (failed : Body.ofEntry change.entry heap = (.refused fault, after)) :
    change.Leaves heap fault after := by
  cases change with
  | reveal wallet => exact Body.revealNextAddress_leaves clean failed
  | sync wallet blockchain => exact Body.sync_leaves clean addressed failed
  | finish builder wallet =>
    rcases Body.bind_eq_refused failed with failed | ⟨transaction, between, -, failed⟩
    · exact Body.finish_leaves clean addressed failed
    · cases failed

/-! ### Calls that fail -/

namespace NativeHeap

/-- The memory after a call whose answer was read and given back. -/
def asked (heap : NativeHeap engine) (entry : Entry answers) : NativeHeap engine :=
  let (reply, after) := heap.answer entry
  after.release (.transit answers (reply.bind (·.error)))

/-- A refused call leaves nothing but what its body left: the answer is given back whole. -/
theorem asked_of_refused {entry : Entry answers}
    (refused : Body.ofEntry entry heap = (.refused fault, after)) : heap.asked entry = after := by
  have answered : heap.answer entry = Body.refuse fault after := by
    rw [answer, Body.respond, refused]
  rw [asked, answered]
  exact after.release_refused answers fault

/-- Something that happens to a library: a call, or a change of what lies outside. -/
inductive Event (engine : WalletEngine) where
  | call {answers : Payload} (entry : Entry answers)
  | outside (change : engine.World → engine.World)

/-- What the calls among some events are answered with. -/
def replies : List (Event engine) → NativeHeap engine → List ((answers : Payload) × Reply answers)
  | [], _ => []
  | .call entry :: rest, heap => ⟨_, (heap.answer entry).1⟩ :: replies rest (heap.asked entry)
  | .outside change :: rest, heap => replies rest { heap with world := change heap.world }

end NativeHeap

/-- A call that changes a wallet and is answered with an error leaves the memory, the stores and the
world as they were, whatever the error's cause, unless it is that the store could not be written; so
everything that is called later is answered as if the call had not been made. If the store could not
be written, the change that the engine made is in memory all the same. -/
theorem failed_change_leaves_no_trace_unless_unwritten (clean : engine.FailsClean)
    (reached : heap.Reachable) (change : WalletChange) {code : String}
    (failed : (heap.answer change.entry).1.errorCode? = some code) (noPanic : code ≠ "Panic") :
    (code ≠ "Persist" → heap.asked change.entry = heap ∧
      ∀ later, (heap.asked change.entry).replies later = heap.replies later) ∧
    (code = "Persist" → ∃ place state world, change.Makes heap place state world ∧
      heap.asked change.entry = heap.withWallet place state world) := by
  rw [errorCode?_answer] at failed
  rcases ended : Body.ofEntry change.entry heap with ⟨attempt, after⟩
  rw [ended] at failed
  cases attempt with
  | value value => cases failed
  | panicked text => exact absurd (Option.some.inj failed).symm noPanic
  | refused fault =>
    obtain rfl : fault.code = code := Option.some.inj failed
    rw [NativeHeap.asked_of_refused ended]
    rcases change.leaves_of_refused clean reached.addressed ended with
      ⟨other, rfl⟩ | ⟨unwritten, made⟩
    · exact ⟨fun _ => ⟨rfl, fun _ => rfl⟩, fun unwritten => absurd unwritten other⟩
    · exact ⟨fun other => absurd unwritten other, fun _ => made⟩

theorem offlineEngine_failsClean : offlineEngine.FailsClean where
  scan client := client.elim
  learn news := news.elim
  build _ _ _ _ _ _ ended := ⟨(congrArg (·.2.1) ended).symm, (congrArg (·.2.2) ended).symm⟩
  persist _ _ _ _ _ _ ended := by cases ended

/-- A memory with a database, the wallet of one key in it, and a builder without recipients. -/
def unfundedHeap : NativeHeap offlineEngine :=
  let first := (NativeHeap.fresh (.empty ["/tmp"]) : NativeHeap offlineEngine).hand .memoryDatabase
  let descriptor := Utf8.encode
    "wpkh(0279be667ef9dcbbac55a06295ce870b07029bfcdb2dce28d959f2815b16f81798)"
  let second := first.2.answer
    (.newWallet (some descriptor) none (some (Utf8.encode "regtest")) (some 1))
  (second.2.hand .newBuilder).2

theorem failed_change_leaves_no_trace_unless_unwritten_unfunded :
    let change := WalletChange.finish (some 3) (some 2)
    (unfundedHeap.answer change.entry).1.errorCode? = some "InsufficientFunds" ∧
      unfundedHeap.asked change.entry = unfundedHeap := by
  intro change
  have failed : (unfundedHeap.answer change.entry).1.errorCode? = some "InsufficientFunds" := by
    decide +kernel
  have reached : unfundedHeap.Reachable := .hand _ (.answer _ (.hand _ (.fresh _)))
  have spotless := failed_change_leaves_no_trace_unless_unwritten offlineEngine_failsClean reached
    change failed (by decide)
  exact ⟨failed, (spotless.1 (by decide)).1⟩

/-! ### Addresses that are withheld -/

/-- What a reveal shows is the engine's address. -/
theorem Body.revealNextAddress_shows {wallet : Address} {octets : NativeString}
    (held : heap.object? wallet = some (.wallet state))
    (ended : revealNextAddress (some wallet) heap = (.value octets, after)) :
    ∃ shown, (engine.reveal state.wallet).1 = .value shown ∧ octets = some (ownedOctets shown) := by
  rw [revealNextAddress_apply held, bind_apply] at ended
  generalize (engine.reveal state.wallet).2 = revealed at ended
  cases attempt : (engine.reveal state.wallet).1 with
  | refused cause => exact cause.elim
  | panicked text =>
    rw [attempt, conclude_panicked] at ended
    cases ended
  | value shown =>
    rcases persisted : engine.persist revealed state.store heap.world with ⟨written, wallet, world⟩
    rw [attempt, conclude_value shown persisted] at ended
    cases written with
    | value done =>
      cases ended
      exact ⟨shown, rfl, rfl⟩
    | refused reason => cases ended
    | panicked text => cases ended

/-- A reveal is answered with the engine's address when it can be written, and with the code of the
store when it cannot. -/
theorem answer_reveal {wallet : Address} {shown : String} {written : Attempt String Unit}
    (held : heap.object? wallet = some (.wallet state))
    (reveals : (engine.reveal state.wallet).1 = .value shown)
    (writes : (engine.persist (engine.reveal state.wallet).2 state.store heap.world).1 = written) :
    (written = .value () → (heap.answer (.revealNextAddress (some wallet))).1 =
        some ⟨some (Body.ownedOctets shown), none⟩) ∧
      (∀ reason, written = .refused reason →
        (heap.answer (.revealNextAddress (some wallet))).1.errorCode? = some "Persist") := by
  have revealed := Body.revealNextAddress_apply held
  rcases persisted : engine.persist (engine.reveal state.wallet).2 state.store heap.world with
    ⟨attempt, kept, world⟩
  rw [persisted] at writes
  rw [Body.bind_apply, reveals, Body.conclude_value shown persisted] at revealed
  refine ⟨?_, ?_⟩
  · rintro rfl
    obtain rfl : attempt = .value () := writes
    show (Body.respond (Body.ofEntry (.revealNextAddress (some wallet))) heap).1 = _
    rw [Body.respond, Body.ofEntry, revealed]
    rfl
  · rintro reason rfl
    obtain rfl : attempt = .refused reason := writes
    rw [errorCode?_answer]
    show (Body.revealNextAddress (some wallet) heap).1.faultCode? = _
    rw [revealed]
    rfl

/-- What is in memory after a reveal that could not be written: the wallet with the address taken. -/
theorem asked_reveal_unwritten (clean : engine.FailsClean) {wallet : Address}
    (held : heap.object? wallet = some (.wallet state))
    (failed : (heap.answer (.revealNextAddress (some wallet))).1.errorCode? = some "Persist") :
    (∃ withheld, (engine.reveal state.wallet).1 = .value withheld) ∧
      heap.asked (.revealNextAddress (some wallet)) =
        heap.withWallet wallet { state with wallet := (engine.reveal state.wallet).2 }
          heap.world := by
  rw [errorCode?_answer] at failed
  rcases ended : Body.ofEntry (.revealNextAddress (some wallet)) heap with ⟨attempt, after⟩
  rw [ended] at failed
  cases attempt with
  | value value => cases failed
  | panicked text => exact absurd (Option.some.inj failed) (by decide)
  | refused fault =>
    rw [NativeHeap.asked_of_refused ended]
    rcases Body.revealNextAddress_leaves clean ended with
      ⟨written, -⟩ | ⟨-, place, changed, world, made, rfl⟩
    · exact absurd (Option.some.inj failed) written
    · cases made with
      | reveal found shown =>
        rw [held] at found
        cases found
        exact ⟨⟨_, shown⟩, rfl⟩

/-- The next address that is shown behind one that could not be written is the one behind it,
whatever becomes of the world in between. -/
theorem withheld_address_is_skipped (clean : engine.FailsClean) {wallet : Address}
    (held : heap.object? wallet = some (.wallet state))
    (failed : (heap.answer (.revealNextAddress (some wallet))).1.errorCode? = some "Persist")
    (world : engine.World) {octets : NativeString}
    (next : Body.revealNextAddress (some wallet)
      { heap.asked (.revealNextAddress (some wallet)) with world := world } =
        (.value octets, after)) :
    ∃ withheld shown, (engine.reveal state.wallet).1 = .value withheld ∧
      (engine.reveal (engine.reveal state.wallet).2).1 = .value shown ∧
      octets = some (Body.ownedOctets shown) := by
  obtain ⟨⟨withheld, hidden⟩, left⟩ := asked_reveal_unwritten clean held failed
  rw [left] at next
  have changed := NativeHeap.object?_withWallet held
    { state with wallet := (engine.reveal state.wallet).2 } world
  obtain ⟨shown, behind, octets⟩ := Body.revealNextAddress_shows changed next
  exact ⟨withheld, shown, hidden, behind, octets⟩

/-- The engine of a machine without a network whose disk may be full. Nothing is written then. -/
def crowdedEngine : WalletEngine where
  World := Bool × Disk
  Store := StoreKey
  Wallet := DescriptorWallet
  Client := Empty
  News := Empty
  openStore place := fun (isFull, disk) =>
    let (attempt, after) := disk.openStore place
    (attempt, isFull, after)
  load request key := fun (isFull, disk) =>
    let (attempt, after) := DescriptorWallet.load request key disk
    (attempt, isFull, after)
  create request key := fun (isFull, disk) =>
    if isFull then (.refused (.store "the disk is full"), isFull, disk)
    else
      let (attempt, after) := DescriptorWallet.create request key disk
      (attempt, isFull, after)
  persist wallet key := fun (isFull, disk) =>
    if isFull then (.refused "the disk is full", wallet, isFull, disk)
    else
      let (attempt, written, after) := wallet.persist key disk
      (attempt, written, isFull, after)
  peek := DescriptorWallet.peek
  reveal := DescriptorWallet.reveal
  balance _ := .value ⟨0, 0, 0, 0⟩
  unspent _ := []
  transactions _ := []
  connect _ world := (.refused "no chain source can be reached", world)
  scan client _ _ _ _ := client.elim
  learn news _ := news.elim
  sign _ signed := finishSigning signed
  build plan wallet world := (Payment.attempt plan wallet, wallet, world)

theorem crowdedEngine_failsClean : crowdedEngine.FailsClean where
  scan client := client.elim
  learn news := news.elim
  build _ _ _ _ _ _ ended := ⟨(congrArg (·.2.1) ended).symm, (congrArg (·.2.2) ended).symm⟩
  persist wallet store world reason kept after ended := by
    obtain ⟨isFull, disk⟩ := world
    cases isFull with
    | false => cases ended
    | true =>
      cases ended
      exact ⟨rfl, rfl⟩

/-- A full disk, and a wallet that has handed nothing out. -/
def crowdedHeap (external : Descriptor) : NativeHeap crowdedEngine :=
  ⟨(true, .empty ["/tmp"]),
    [(1, .wallet ⟨SharedFile.singleKeyWallet external 0, .memory 0, .regtest⟩)], 1, 1⟩

/-- The wallet when it has taken the first address and written nothing. -/
def takenWallet (external : Descriptor) : DescriptorWallet :=
  { SharedFile.singleKeyWallet external 0 with
    revealed := ⟨some 0, none⟩
    staged := ⟨some 0, none⟩ }

/-- The disk gets room, and an address is asked for. -/
def retried : List (NativeHeap.Event crowdedEngine) :=
  [.outside fun world => (false, world.2), .call (.revealNextAddress (some 1))]

/-- An address as it is answered. -/
def shownAs (text : String) : (answers : Payload) × Reply answers :=
  ⟨.text, some ⟨some (Body.ownedOctets text), none⟩⟩

theorem replies_retried {heap : NativeHeap crowdedEngine} {text : String}
    (shows : (NativeHeap.answer (.revealNextAddress (some 1))
      { heap with world := (false, heap.world.2) }).1 = some ⟨some (Body.ownedOctets text), none⟩) :
    heap.replies retried = [shownAs text] := by
  show [(⟨.text, (NativeHeap.answer (.revealNextAddress (some 1)) _).1⟩ :
    (answers : Payload) × Reply answers)] = _
  rw [shows, shownAs]

/-- A reveal fails because the disk is full. Had it not been made, the next one would show the first
address; as it was made, the next one shows the second. -/
theorem failed_reveal_leaves_trace :
    crowdedEngine.FailsClean ∧ ∃ external, SharedFile.IsSingleKey external ∧
      ((crowdedHeap external).answer (.revealNextAddress (some 1))).1.errorCode? = some "Persist" ∧
      (crowdedHeap external).replies retried =
        [shownAs "bcrt1qzg4mckdh50nwdm9hkzq06528rsu73hjxytqkxs"] ∧
      ((crowdedHeap external).asked (.revealNextAddress (some 1))).replies retried =
        [shownAs "bcrt1qvctwrh8ckrex8daxya4xleaevcp299tt0v37w9"] := by
  obtain ⟨external, single⟩ := SharedFile.exists_isSingleKey
  have held : (crowdedHeap external).object? 1 =
      some (.wallet ⟨SharedFile.singleKeyWallet external 0, .memory 0, .regtest⟩) := rfl
  have unwritten : ((crowdedHeap external).answer (.revealNextAddress (some 1))).1.errorCode? =
      some "Persist" := (answer_reveal held single.first rfl).2 "the disk is full" rfl
  refine ⟨crowdedEngine_failsClean, external, single, unwritten, ?_, ?_⟩
  · have freed : (NativeHeap.object? { crowdedHeap external with world := (false, .empty ["/tmp"]) }
      1) = some (.wallet ⟨SharedFile.singleKeyWallet external 0, .memory 0, .regtest⟩) := rfl
    exact replies_retried ((answer_reveal freed single.first rfl).1 rfl)
  · have left := (asked_reveal_unwritten crowdedEngine_failsClean held unwritten).2
    have taken := NativeHeap.object?_withWallet held
      ⟨takenWallet external, .memory 0, .regtest⟩ (false, .empty ["/tmp"])
    have behind : (DescriptorWallet.reveal (takenWallet external)).1 =
        .value "bcrt1qvctwrh8ckrex8daxya4xleaevcp299tt0v37w9" := by
      have room : 1 ≤ DescriptorWallet.indexLimit := by decide
      have wildcard : (takenWallet external).external.hasWildcard = true := single.wildcard
      exact (DescriptorWallet.reveal_of_room wildcard room).1.trans single.second
    rw [left]
    exact replies_retried ((answer_reveal taken behind rfl).1 rfl)

end WalletBridge
