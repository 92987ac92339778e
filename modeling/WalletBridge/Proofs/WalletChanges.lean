/-
This file takes the calls that change a wallet apart. Each of them looks its objects up, has the
engine make the change, and then concludes: it puts the changed wallet in its place, ends where the
engine failed, and otherwise writes what changed to the store. So the change is in memory before the
store has heard of it, whatever the store says.
-/

import WalletBridge.Proofs.AnswerRoundTrip
import WalletBridge.Proofs.FileCalls
import WalletBridge.Proofs.HeldObjects

namespace WalletBridge

variable {engine : WalletEngine} {payload : Payload} {Content Cause : Type}

/-! ### Codes of answers -/

/-- The code of the error that an answer carries, if it carries one. -/
def Reply.errorCode? (reply : Reply payload) : Option String :=
  (reply.bind (·.error)).map fun error => copyLossy error.code

/-- The code that an attempt of a body is answered with. -/
def Attempt.faultCode? : Attempt NativeFault Content → Option String
  | .value _ => none
  | .refused fault => some fault.code
  | .panicked _ => some "Panic"

theorem errorCode?_refuse (fault : NativeFault) (heap : NativeHeap engine) :
    (Body.refuse fault heap : Reply payload × _).1.errorCode? = some fault.code := by
  show some (copyLossy (some (Body.ownedOctets fault.code))) = _
  rw [copyLossy_ownedOctets, fault.withoutZeros_code]

theorem errorCode?_answer (entry : Entry payload) (heap : NativeHeap engine) :
    (heap.answer entry).1.errorCode? = (Body.ofEntry entry heap).1.faultCode? := by
  rw [NativeHeap.answer, Body.respond]
  rcases Body.ofEntry entry heap with ⟨attempt, after⟩
  cases attempt with
  | value value => rfl
  | refused fault => exact errorCode?_refuse fault after
  | panicked text => exact errorCode?_refuse (.panicked text) after

/-! ### Putting a wallet in its place -/

/-- The memory with another wallet in the place of one, in another world. -/
def NativeHeap.withWallet (heap : NativeHeap engine) (place : Address) (state : OpenWallet engine)
    (world : engine.World) : NativeHeap engine :=
  { heap.replace place (.wallet state) with world := world }

theorem NativeHeap.object?_withWallet {heap : NativeHeap engine} {place : Address}
    {former : NativeObject engine} (held : heap.object? place = some former)
    (state : OpenWallet engine) (world : engine.World) :
    (heap.withWallet place state world).object? place = some (.wallet state) :=
  object?_replace_self held (.wallet state)

theorem NativeHeap.withWallet_withWallet (heap : NativeHeap engine) (place : Address)
    (first second : OpenWallet engine) (between world : engine.World) :
    (heap.withWallet place first between).withWallet place second world =
      heap.withWallet place second world := by
  have once : ∀ entry : Address × NativeObject engine,
      (fun entry => if entry.1 = place then (place, NativeObject.wallet second) else entry)
          ((fun entry => if entry.1 = place then (place, NativeObject.wallet first) else entry)
            entry) =
        if entry.1 = place then (place, NativeObject.wallet second) else entry := by
    intro entry
    by_cases own : entry.1 = place <;> simp [own]
  simp only [withWallet, replace, List.map_map]
  congr 1
  exact List.map_congr_left fun entry _ => once entry

namespace Body

instance : LawfulMonad (Body engine) :=
  LawfulMonad.mk' (Body engine)
    (fun body => by
      funext heap
      show Body.bind body _ heap = body heap
      unfold Body.bind
      rcases body heap with ⟨attempt, after⟩
      cases attempt <;> rfl)
    (fun _ _ => rfl)
    (fun first next last => by
      funext heap
      show Body.bind (Body.bind first next) last heap = Body.bind first _ heap
      unfold Body.bind
      rcases first heap with ⟨attempt, after⟩
      cases attempt <;> rfl)

/-- Puts a changed wallet in its place, ends as the change did if that failed, and otherwise writes
the wallet to its store. -/
def conclude (place : Address) (state : OpenWallet engine) (fault : Cause → NativeFault)
    (attempt : Attempt Cause Content) : Body engine Content := do
  replace place (.wallet state)
  let content ← settle fault attempt
  persist place state
  pure content

variable {place : Address} {state : OpenWallet engine} {fault : Cause → NativeFault}
  {heap : NativeHeap engine}

/-- A change that failed is in memory all the same. -/
theorem conclude_refused (cause : Cause) :
    conclude place state fault (.refused cause : Attempt Cause Content) heap =
      (.refused (fault cause), heap.withWallet place state heap.world) := rfl

theorem conclude_panicked (text : Option String) :
    conclude place state fault (.panicked text : Attempt Cause Content) heap =
      (.panicked text, heap.withWallet place state heap.world) := rfl

theorem persist_apply {written : Attempt String Unit} {wallet : engine.Wallet}
    {world : engine.World}
    (persisted : engine.persist state.wallet state.store heap.world = (written, wallet, world)) :
    persist place state heap =
      (written.mapCause .store, heap.withWallet place { state with wallet := wallet } world) := by
  rw [persist, persisted]
  rfl

/-- A change that was made is in memory before it is written. -/
theorem conclude_value (content : Content) {written : Attempt String Unit}
    {wallet : engine.Wallet} {world : engine.World}
    (persisted : engine.persist state.wallet state.store heap.world = (written, wallet, world)) :
    conclude place state fault (.value content) heap =
      ((written.mapCause NativeFault.store).map fun _ => content,
        heap.withWallet place { state with wallet := wallet } world) := by
  have changed : (heap.withWallet place state heap.world).world = heap.world := rfl
  rw [← changed] at persisted
  show bind (persist place state) _ (heap.withWallet place state heap.world) = _
  rw [Body.bind, persist_apply persisted, heap.withWallet_withWallet]
  cases written <;> rfl

/-! ### The three changes -/

variable {builder wallet blockchain : Address}

/-- An address is written down as handed out, and shown. -/
theorem revealNextAddress_apply (held : heap.object? wallet = some (.wallet state)) :
    revealNextAddress (some wallet) heap =
      (conclude wallet { state with wallet := (engine.reveal state.wallet).2 } Empty.elim
        (engine.reveal state.wallet).1 >>= newText) heap := by
  rw [revealNextAddress, bind_apply, wallet_apply held]
  simp only [conclude, bind_assoc]
  rfl

/-- A wallet is told what a chain source says about it. -/
theorem sync_apply {source : ChainSource engine}
    (held : heap.object? wallet = some (.wallet state))
    (connected : heap.object? blockchain = some (.blockchain source)) :
    sync (some wallet) (some blockchain) heap =
      (withWorld .connection
        (engine.scan source.client source.stopGap source.batchSize state.wallet) >>= fun news =>
          conclude wallet { state with wallet := (engine.learn news state.wallet).2 } .disconnected
            (engine.learn news state.wallet).1 >>= fun _ => Pure.pure 0) heap := by
  rw [sync, bind_apply, wallet_apply held]
  show (Body.blockchain (some blockchain) >>= _) heap = _
  rw [bind_apply, blockchain_apply connected]
  simp only [conclude, bind_assoc]
  rfl

theorem finish_apply {params : BuilderParams}
    (told : heap.object? builder = some (.builder params))
    (held : heap.object? wallet = some (.wallet state))
    (fit : ∀ recipient ∈ params.recipients, recipient.1.fits state.chain = true) :
    let built := engine.build ⟨paymentsTo params.recipients, params.rate⟩ state.wallet heap.world
    finish (some builder) (some wallet) heap =
      conclude wallet { state with wallet := built.2.1 } .build built.1
        { heap with world := built.2.2 } := by
  intro built
  rw [finish, bind_apply, builder_apply told]
  simp only [bind_apply, wallet_apply held, payments_of_fits fit]
  rfl

theorem finish_foreign {params : BuilderParams}
    (told : heap.object? builder = some (.builder params))
    (held : heap.object? wallet = some (.wallet state))
    (foreign : ¬∀ recipient ∈ params.recipients, recipient.1.fits state.chain = true) :
    ∃ reason, finish (some builder) (some wallet) heap = (.refused (.foreignAddress reason), heap) := by
  obtain ⟨reason, ended⟩ := payments_of_not_fits foreign heap
  refine ⟨reason, ?_⟩
  rw [finish, bind_apply, builder_apply told]
  simp only [bind_apply, wallet_apply held, ended]

end Body

end WalletBridge
