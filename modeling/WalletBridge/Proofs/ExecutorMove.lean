/-
This file lists once what a step of an executor can do. Most steps of calls only change where the
call stands; they are listed apart, because nothing else is changed by them. What holds of every
reachable executor is shown by going through the two lists.
-/

import WalletBridge.Executor.Machine

namespace WalletBridge

variable {Content : Type}

namespace Executor

/-! ### Steps of calls -/

/-- The steps of a call that change nothing but its stage: the call, and its next stage. -/
inductive CallShift (executor : Executor Content) : Call Content → CallStage Content → Prop where
  | admitted (kind : CallKind) (mailbox : Mailbox Content)
      (running : executor.isRunning = true) :
    CallShift executor ⟨kind, .fresh, mailbox⟩ .offering
  | refused (kind : CallKind) (mailbox : Mailbox Content)
      (closed : executor.isRunning = false) :
    CallShift executor ⟨kind, .fresh, mailbox⟩ (.done (.error .shutDown))
  | deserted (kind : CallKind) (mailbox : Mailbox Content)
      (empty : executor.isDeserted = true) :
    CallShift executor ⟨kind, .offering, mailbox⟩ (.done (.error .shutDown))
  | full (mailbox : Mailbox Content) (inhabited : executor.isDeserted = false)
      (noRoom : executor.hasRoom = false) :
    CallShift executor ⟨.immediate, .offering, mailbox⟩ (.done (.error .queueFull))
  | crowded (kind : CallKind) (mailbox : Mailbox Content) (waits : kind ≠ .immediate)
      (inhabited : executor.isDeserted = false) (noRoom : executor.hasRoom = false) :
    CallShift executor ⟨kind, .offering, mailbox⟩ .crowded
  | pausing (kind : CallKind) (mailbox : Mailbox Content)
      (running : executor.isRunning = true) :
    CallShift executor ⟨kind, .crowded, mailbox⟩ .pausing
  | overtaken (kind : CallKind) (mailbox : Mailbox Content)
      (closed : executor.isRunning = false) :
    CallShift executor ⟨kind, .crowded, mailbox⟩ (.done (.error .shutDown))
  | retried (kind : CallKind) (mailbox : Mailbox Content) :
    CallShift executor ⟨kind, .pausing, mailbox⟩ .offering
  | taken (kind : CallKind) (reply : Except ExecutorError Content) :
    CallShift executor ⟨kind, .waiting, .filled reply⟩ (.done reply)
  | lost (kind : CallKind) :
    CallShift executor ⟨kind, .waiting, .lost⟩ (.done (.error .shutDown))
  | missed (milliseconds : Nat) :
    CallShift executor ⟨.timed milliseconds, .waiting, .empty⟩ .missed
  | resumed (kind : CallKind) (mailbox : Mailbox Content) :
    CallShift executor ⟨kind, .missed, mailbox⟩ .waiting
  | expiredWaiting (milliseconds : Nat) (mailbox : Mailbox Content) :
    CallShift executor ⟨.timed milliseconds, .missed, mailbox⟩ .expired
  | expiredPausing (milliseconds : Nat) (mailbox : Mailbox Content) :
    CallShift executor ⟨.timed milliseconds, .pausing, mailbox⟩ .expired
  | gaveUp (milliseconds : Nat) (mailbox : Mailbox Content) :
    CallShift executor ⟨.timed milliseconds, .expired, mailbox⟩
      (.done (.error (.timeout milliseconds)))
  | abandonedFresh (kind : CallKind) (mailbox : Mailbox Content) :
    CallShift executor ⟨kind, .fresh, mailbox⟩ .abandoned
  | abandonedPausing (kind : CallKind) (mailbox : Mailbox Content) :
    CallShift executor ⟨kind, .pausing, mailbox⟩ .abandoned
  | abandonedWaiting (kind : CallKind) (mailbox : Mailbox Content) :
    CallShift executor ⟨kind, .waiting, mailbox⟩ .abandoned

/-! ### All steps -/

/-- What a worker does next when its job has ended: it counts a failure first. -/
def phaseAfter (job : CallId) (outcome : Outcome Content) : Worker Content :=
  if outcome.isFailed then .ended job outcome else .judged job outcome

/-- Whether the reply to a job would still be taken. -/
def isHeard (executor : Executor Content) (job : CallId) : Bool :=
  executor.calls[job]?.any (·.stage.isListening)

/-- What a step can do: the executor before it and after it. -/
inductive Move (before : Executor Content) : Executor Content → Prop where
  | begun (kind : CallKind) :
    Move before { before with calls := before.calls ++ [⟨kind, .fresh, .empty⟩] }
  | shifted (id : CallId) (call : Call Content) (next : CallStage Content)
      (found : before.calls[id]? = some call) (shift : CallShift before call next) :
    Move before (before.setStage id next)
  | accepted (id : CallId) (kind : CallKind) (mailbox : Mailbox Content)
      (found : before.calls[id]? = some ⟨kind, .offering, mailbox⟩)
      (inhabited : before.isDeserted = false) (room : before.hasRoom = true) :
    Move before (((before.push (.run id)).setStage id .queued).record (.queued id))
  | submitted (id : CallId) (kind : CallKind) (mailbox : Mailbox Content)
      (found : before.calls[id]? = some ⟨kind, .queued, mailbox⟩) :
    Move before
      (({ before with stats := before.stats.countSubmitted }.setStage id .waiting).record
        (.submitted id))
  | received (index : Nat) (job : CallId) (rest : List Message)
      (found : before.workers[index]? = some .idle) (first : before.queue = .run job :: rest) :
    Move before
      (({ before with queue := rest }.setWorker index (.running job)).record (.started job))
  | told (index : Nat) (rest : List Message)
      (found : before.workers[index]? = some .idle) (first : before.queue = .stop :: rest) :
    Move before ({ before with queue := rest }.setWorker index .leaving)
  | finished (index : Nat) (job : CallId) (outcome : Outcome Content)
      (found : before.workers[index]? = some (.running job)) :
    Move before ((before.setWorker index (phaseAfter job outcome)).record (.ended job outcome))
  | judged (index : Nat) (job : CallId) (outcome : Outcome Content)
      (found : before.workers[index]? = some (.ended job outcome)) :
    Move before
      (({ before with stats := before.stats.countFailed }.setWorker index
        (.judged job outcome)).record (.failed job))
  | completed (index : Nat) (job : CallId) (outcome : Outcome Content)
      (found : before.workers[index]? = some (.judged job outcome)) :
    Move before
      (({ before with stats := before.stats.countCompleted }.setWorker index
        (.counted job outcome)).record (.completed job))
  | replied (index : Nat) (job : CallId) (outcome : Outcome Content)
      (found : before.workers[index]? = some (.counted job outcome))
      (heard : before.isHeard job = true) :
    Move before ((before.setMailbox job (.filled outcome.reply)).setWorker index .idle)
  | unheard (index : Nat) (job : CallId) (outcome : Outcome Content)
      (found : before.workers[index]? = some (.counted job outcome))
      (unheard : before.isHeard job = false) :
    Move before (before.setWorker index (.unheard job))
  | regretted (index : Nat) (job : CallId)
      (found : before.workers[index]? = some (.unheard job)) :
    Move before
      (({ before with stats := before.stats.countCancelled }.setWorker index .idle).record
        (.cancelled job))
  | left (index : Nat) (found : before.workers[index]? = some .leaving)
      (others : (before.setWorker index .stopped).isDeserted = false) :
    Move before (before.setWorker index .stopped)
  | leftLast (index : Nat) (found : before.workers[index]? = some .leaving)
      (last : (before.setWorker index .stopped).isDeserted = true) :
    Move before (before.setWorker index .stopped).discard
  | shut (running : before.closing = .open) :
    Move before { before with closing := .stopping before.workers.length }
  | stopSent (left : Nat) (stopping : before.closing = .stopping (left + 1))
      (inhabited : before.isDeserted = false) (room : before.hasRoom = true) :
    Move before { before.push .stop with closing := .stopping left }
  | stopSpared (left : Nat) (stopping : before.closing = .stopping (left + 1))
      (empty : before.isDeserted = true) :
    Move before { before with closing := .stopping left }
  | joined (stopping : before.closing = .stopping 0) (empty : before.isDeserted = true) :
    Move before { before with closing := .closed }

/-- A shift of a call is a move. -/
theorem CallShift.move {before : Executor Content} {id : CallId} {call : Call Content}
    {next : CallStage Content} (shift : CallShift before call next)
    (found : before.calls[id]? = some call) : Move before (before.setStage id next) :=
  .shifted id call next found shift

theorem offer_move {before : Executor Content} {id : CallId} {kind : CallKind}
    {mailbox : Mailbox Content} (found : before.calls[id]? = some ⟨kind, .offering, mailbox⟩) :
    Move before (before.offer id kind) := by
  unfold offer
  cases deserted : before.isDeserted with
  | true => exact (CallShift.deserted kind mailbox deserted).move found
  | false =>
    cases room : before.hasRoom with
    | true => exact .accepted id kind mailbox found deserted room
    | false =>
      cases kind with
      | immediate => exact (CallShift.full mailbox deserted room).move found
      | patient => exact (CallShift.crowded .patient mailbox nofun deserted room).move found
      | timed milliseconds =>
        exact (CallShift.crowded (.timed milliseconds) mailbox nofun deserted room).move found

theorem stepCall_move {before after : Executor Content} {id : CallId} {call : Call Content}
    (found : before.calls[id]? = some call) {step : ExecutorStep Content}
    (taken : before.stepCall id call step = some after) : Move before after := by
  obtain ⟨kind, stage, mailbox⟩ := call
  cases step with
  | check _ =>
    simp only [stepCall] at taken
    split at taken
    · cases taken
      cases running : before.isRunning with
      | true => exact (CallShift.admitted kind mailbox running).move found
      | false => exact (CallShift.refused kind mailbox running).move found
    · cases taken
  | offer _ =>
    simp only [stepCall] at taken
    split at taken
    · cases taken
      exact offer_move found
    · cases taken
  | recheck _ =>
    simp only [stepCall] at taken
    split at taken
    · cases taken
      cases running : before.isRunning with
      | true => exact (CallShift.pausing kind mailbox running).move found
      | false => exact (CallShift.overtaken kind mailbox running).move found
    · cases taken
  | retry _ =>
    simp only [stepCall] at taken
    split at taken
    · cases taken
      exact (CallShift.retried kind mailbox).move found
    · cases taken
  | count _ =>
    simp only [stepCall] at taken
    split at taken
    · cases taken
      exact .submitted id kind mailbox found
    · cases taken
  | take _ =>
    simp only [stepCall] at taken
    split at taken
    · cases taken
      exact (CallShift.taken kind _).move found
    · cases taken
      exact (CallShift.lost kind).move found
    · cases taken
  | miss _ =>
    simp only [stepCall] at taken
    split at taken
    · cases taken
      exact (CallShift.missed _).move found
    · cases taken
  | resume _ =>
    simp only [stepCall] at taken
    split at taken
    · cases taken
      exact (CallShift.resumed kind mailbox).move found
    · cases taken
  | expire _ =>
    simp only [stepCall] at taken
    split at taken
    · cases taken
      exact (CallShift.expiredWaiting _ mailbox).move found
    · cases taken
      exact (CallShift.expiredPausing _ mailbox).move found
    · cases taken
  | giveUp _ =>
    simp only [stepCall] at taken
    split at taken
    · cases taken
      exact (CallShift.gaveUp _ mailbox).move found
    · cases taken
  | abandon _ =>
    simp only [stepCall] at taken
    split at taken
    · cases taken
      exact (CallShift.abandonedFresh kind mailbox).move found
    · cases taken
      exact (CallShift.abandonedPausing kind mailbox).move found
    · cases taken
      exact (CallShift.abandonedWaiting kind mailbox).move found
    · cases taken
  | _ => cases taken

theorem stepWorker_move {before after : Executor Content} {index : Nat} {worker : Worker Content}
    (found : before.workers[index]? = some worker) {step : ExecutorStep Content}
    (taken : before.stepWorker index worker step = some after) : Move before after := by
  cases step with
  | receive _ =>
    simp only [stepWorker] at taken
    split at taken
    · rename_i first
      cases taken
      exact .received index _ _ found first
    · rename_i first
      cases taken
      exact .told index _ found first
    · cases taken
  | finish _ outcome =>
    simp only [stepWorker] at taken
    split at taken
    · cases taken
      exact .finished index _ outcome found
    · cases taken
  | judge _ =>
    simp only [stepWorker] at taken
    split at taken
    · cases taken
      exact .judged index _ _ found
    · cases taken
  | complete _ =>
    simp only [stepWorker] at taken
    split at taken
    · cases taken
      exact .completed index _ _ found
    · cases taken
  | reply _ =>
    simp only [stepWorker] at taken
    split at taken
    · rename_i job outcome
      cases taken
      cases known : before.calls[job]? with
      | none =>
        exact .unheard index job outcome found (by simp only [isHeard, known, Option.any_none])
      | some call =>
        cases listens : call.stage.isListening with
        | true =>
          simp only [listens, if_true]
          exact .replied index job outcome found
            (by simp only [isHeard, known, Option.any_some, listens])
        | false =>
          simp only [listens, Bool.false_eq_true, if_false]
          exact .unheard index job outcome found
            (by simp only [isHeard, known, Option.any_some, listens])
    · cases taken
  | regret _ =>
    simp only [stepWorker] at taken
    split at taken
    · cases taken
      exact .regretted index _ found
    · cases taken
  | leave _ =>
    simp only [stepWorker] at taken
    split at taken
    · cases taken
      cases last : (before.setWorker index .stopped).isDeserted with
      | true => exact .leftLast index found last
      | false => exact .left index found last
    · cases taken
  | _ => cases taken

theorem stepClosing_move {before after : Executor Content} {step : ExecutorStep Content}
    (taken : before.stepClosing step = some after) : Move before after := by
  cases step with
  | shut =>
    simp only [stepClosing] at taken
    split at taken
    · rename_i running
      cases taken
      exact .shut running
    · cases taken
  | stop =>
    simp only [stepClosing] at taken
    split at taken
    · rename_i left stopping
      cases deserted : before.isDeserted with
      | true =>
        simp only [deserted, if_true] at taken
        cases taken
        exact .stopSpared left stopping deserted
      | false =>
        cases room : before.hasRoom with
        | true =>
          simp only [deserted, room, Bool.false_eq_true, if_false, if_true] at taken
          cases taken
          exact .stopSent left stopping deserted room
        | false =>
          simp only [deserted, room, Bool.false_eq_true, if_false] at taken
          cases taken
    · cases taken
  | join =>
    simp only [stepClosing] at taken
    split at taken
    · rename_i stopping
      cases deserted : before.isDeserted with
      | true =>
        simp only [deserted, if_true] at taken
        cases taken
        exact .joined stopping deserted
      | false =>
        simp only [deserted, Bool.false_eq_true, if_false] at taken
        cases taken
    · cases taken
  | _ => cases taken

/-- Every step is a move. -/
theorem step?_move {before after : Executor Content} {step : ExecutorStep Content}
    (taken : before.step? step = some after) : Move before after := by
  cases step with
  | begin kind =>
    cases taken
    exact .begun kind
  | check id | offer id | recheck id | retry id | count id | take id | miss id | resume id
  | expire id | giveUp id | abandon id =>
    simp only [step?] at taken
    split at taken
    · rename_i found
      exact stepCall_move found taken
    · cases taken
  | receive index | finish index outcome | judge index | complete index | reply index
  | regret index | leave index =>
    simp only [step?] at taken
    split at taken
    · rename_i found
      exact stepWorker_move found taken
    · cases taken
  | shut | stop | join =>
    simp only [step?] at taken
    exact stepClosing_move taken

/-! ### Runs -/

/-- Takes steps one after another, when all are possible. -/
def run? (executor : Executor Content) : List (ExecutorStep Content) → Option (Executor Content)
  | [] => some executor
  | step :: rest => (executor.step? step).bind fun after => after.run? rest

/-- What every move keeps is kept by every run. -/
theorem run?_induction {Property : Executor Content → Prop}
    (kept : ∀ before after, Move before after → Property before → Property after)
    {steps : List (ExecutorStep Content)} {executor after : Executor Content}
    (ran : executor.run? steps = some after) (holds : Property executor) : Property after := by
  induction steps generalizing executor with
  | nil => exact Option.some.inj ran ▸ holds
  | cons step rest inductionHypothesis =>
    obtain ⟨between, taken, ranRest⟩ := Option.bind_eq_some_iff.mp ran
    exact inductionHypothesis ranRest (kept executor between (step?_move taken) holds)

/-- What holds of a new executor and is kept by every move holds of every reachable one. -/
theorem Reachable.move_induction {poolSize capacity : Nat} {Property : Executor Content → Prop}
    (new : Property (Executor.new poolSize capacity))
    (kept : ∀ before after, Move before after → Property before → Property after)
    {executor : Executor Content} (reached : Reachable poolSize capacity executor) :
    Property executor := by
  induction reached with
  | new => exact new
  | step reached taken inductionHypothesis => exact kept _ _ (step?_move taken) inductionHypothesis

/-- What a run leads to is reachable. -/
theorem Reachable.run {poolSize capacity : Nat} {executor after : Executor Content}
    {steps : List (ExecutorStep Content)} (reached : Reachable poolSize capacity executor)
    (ran : executor.run? steps = some after) : Reachable poolSize capacity after := by
  induction steps generalizing executor with
  | nil => exact Option.some.inj ran ▸ reached
  | cons step rest inductionHypothesis =>
    obtain ⟨between, taken, ranRest⟩ := Option.bind_eq_some_iff.mp ran
    exact inductionHypothesis (reached.step taken) ranRest

end Executor

end WalletBridge
