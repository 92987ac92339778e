/-
This file proves that nobody waits for nothing. A call that has queued its job, would take the reply
and has none in its mailbox, has its job in the queue still, or at a worker that owes the reply: the
worker that is done with a job fills the mailbox of a call that would take the reply, and who throws
the queue away marks the mailboxes of its jobs as lost.
-/

import WalletBridge.Proofs.JobReplies

namespace WalletBridge

variable {Content : Type}

/-- Whether a call has put its job into the queue and would take the reply. -/
def CallStage.awaits : CallStage Content → Bool
  | .queued | .waiting | .missed => true
  | _ => false

theorem CallStage.isListening_of_awaits {stage : CallStage Content} (awaits : stage.awaits = true) :
    stage.isListening = true := by
  cases stage with
  | queued | waiting | missed => rfl
  | _ => cases awaits

/-- Whether a worker has a job that it has not replied to. -/
def Worker.owes (id : CallId) : Worker Content → Bool
  | .running job | .ended job _ | .judged job _ | .counted job _ => job == id
  | _ => false

namespace Executor

/-- A call waits for its reply and has none. -/
def Waiting (id : CallId) (executor : Executor Content) : Prop :=
  ∃ call, executor.calls[id]? = some call ∧ call.stage.awaits = true ∧ call.mailbox = .empty

/-- In how many places a job is that has no reply yet. -/
def places (id : CallId) (executor : Executor Content) : Nat :=
  executor.queue.count (.run id) + executor.workers.countP (Worker.owes id)

/-- The job of a call that waits for its reply is somewhere. -/
def Awaited (id : CallId) (executor : Executor Content) : Prop :=
  Waiting id executor → 0 < places id executor

theorem owes_phaseAfter (id job : CallId) (outcome : Outcome Content) :
    (phaseAfter job outcome).owes id = (Worker.running job : Worker Content).owes id := by
  unfold phaseAfter
  split <;> rfl

theorem Awaited.keep {id : CallId} {before after : Executor Content} (awaited : Awaited id before)
    (calls : Waiting id after → Waiting id before) (kept : places id before ≤ places id after) :
    Awaited id after :=
  fun waiting => Nat.lt_of_lt_of_le (awaited (calls waiting)) kept

/-- A worker that goes on. -/
theorem Awaited.work {id : CallId} {before after : Executor Content} {index : Nat}
    {old new : Worker Content} (awaited : Awaited id before)
    (found : before.workers[index]? = some old)
    (calls : Waiting id after → Waiting id before)
    (workers : after.workers = before.workers.set index new)
    (kept : before.queue.count (.run id) + (if old.owes id then 1 else 0) ≤
      after.queue.count (.run id) + (if new.owes id then 1 else 0)) : Awaited id after := by
  refine awaited.keep calls ?_
  have owing := countP_set_add new found (Worker.owes id)
  unfold places
  rw [workers]
  omega

/-- A call comes to another stage. -/
theorem Waiting.of_setStage {id other : CallId} {before after : Executor Content}
    {former : Call Content} {next : CallStage Content}
    (found : before.calls[other]? = some former)
    (keeps : next.awaits = true → former.stage.awaits = true)
    (calls : after.calls = (before.setStage other next).calls) (waiting : Waiting id after) :
    Waiting id before := by
  obtain ⟨call, known, awaits, empty⟩ := waiting
  rw [calls, setStage, List.getElem?_modify] at known
  obtain ⟨old, foundOld, changed⟩ := Option.map_eq_some_iff.mp known
  by_cases same : other = id
  · rw [if_pos same] at changed
    subst same changed
    rw [found] at foundOld
    cases foundOld
    exact ⟨former, found, keeps awaits, empty⟩
  · rw [if_neg same] at changed
    subst changed
    exact ⟨old, foundOld, awaits, empty⟩

/-- No shift leads a call to wait for its reply that did not. -/
theorem CallShift.awaits {executor : Executor Content} {call : Call Content}
    {next : CallStage Content} (shift : CallShift executor call next)
    (awaits : next.awaits = true) : call.stage.awaits = true := by
  cases shift <;> first | rfl | cases awaits

/-- A filled mailbox is one less that is empty. -/
theorem Waiting.of_filled {id job : CallId} {before : Executor Content}
    {reply : Except ExecutorError Content} {after : Executor Content}
    (calls : after.calls = (before.setMailbox job (.filled reply)).calls)
    (waiting : Waiting id after) : Waiting id before ∧ job ≠ id := by
  obtain ⟨call, known, awaits, empty⟩ := waiting
  rw [calls, setMailbox, List.getElem?_modify] at known
  obtain ⟨old, foundOld, changed⟩ := Option.map_eq_some_iff.mp known
  by_cases same : job = id
  · rw [if_pos same] at changed
    subst changed
    cases empty
  · rw [if_neg same] at changed
    subst changed
    exact ⟨⟨old, foundOld, awaits, empty⟩, same⟩

/-- A mailbox that is lost is not empty. -/
theorem Waiting.of_discard {id : CallId} {executor : Executor Content}
    (waiting : Waiting id executor.discard) :
    Waiting id executor ∧ .run id ∉ executor.queue := by
  obtain ⟨call, known, awaits, empty⟩ := waiting
  rw [discard_call?] at known
  obtain ⟨old, foundOld, changed⟩ := Option.map_eq_some_iff.mp known
  by_cases among : .run id ∈ executor.queue
  · rw [if_pos among] at changed
    subst changed
    cases empty
  · rw [if_neg among] at changed
    subst changed
    exact ⟨⟨old, foundOld, awaits, empty⟩, among⟩

theorem Awaited.accepted {id : CallId} {before : Executor Content} (awaited : Awaited id before)
    (other : CallId) :
    Awaited id (((before.push (.run other)).setStage other .queued).record (.queued other)) := by
  intro waiting
  have queue : (before.queue ++ [Message.run other]).count (.run id) =
      before.queue.count (.run id) + if other = id then 1 else 0 := by
    rw [List.count_append, List.count_singleton]
    simp
  show 0 < (before.queue ++ [Message.run other]).count (.run id) +
    before.workers.countP (Worker.owes id)
  rw [queue]
  by_cases own : other = id
  · rw [if_pos own]
    omega
  · obtain ⟨call, known, awaits, empty⟩ := waiting
    have former : before.calls[id]? = some call := by
      simpa only [record, setStage, push, List.getElem?_modify, if_neg own, Option.map_eq_map,
        Option.map_id_fun', id_eq] using known
    have somewhere : 0 < places id before := awaited ⟨call, former, awaits, empty⟩
    unfold places at somewhere
    omega

theorem Awaited.move {id : CallId} {before after : Executor Content} (awaited : Awaited id before)
    (move : Move before after) : Awaited id after := by
  cases move with
  | begun kind =>
    refine awaited.keep ?_ (Nat.le_refl _)
    rintro ⟨call, known, awaits, empty⟩
    rw [List.getElem?_append] at known
    split at known
    · exact ⟨call, known, awaits, empty⟩
    · obtain ⟨_, fresh⟩ := List.getElem?_eq_some_iff.mp known
      rw [List.getElem_singleton] at fresh
      cases fresh
      cases awaits
  | shifted other call next found shift =>
    exact awaited.keep (Waiting.of_setStage found shift.awaits rfl) (Nat.le_refl _)
  | accepted other kind mailbox found inhabited room => exact awaited.accepted other
  | submitted other kind mailbox found =>
    exact awaited.keep (Waiting.of_setStage found (fun _ => rfl) rfl) (Nat.le_refl _)
  | received index job rest found first =>
    refine awaited.work found (fun waiting => waiting) rfl ?_
    rw [first, List.count_cons]
    simp [Worker.owes, record, setWorker]
  | told index rest found first =>
    refine awaited.work found (fun waiting => waiting) rfl ?_
    rw [first, List.count_cons]
    simp [Worker.owes, setWorker]
  | finished index job outcome found =>
    refine awaited.work found (fun waiting => waiting) rfl ?_
    rw [owes_phaseAfter]
    exact Nat.le_refl _
  | judged index job outcome found | completed index job outcome found
  | regretted index job found =>
    exact awaited.work found (fun waiting => waiting) rfl (Nat.le_refl _)
  | left index found others =>
    exact awaited.work found (fun waiting => waiting) rfl (Nat.le_refl _)
  | replied index job outcome found heard =>
    intro waiting
    obtain ⟨former, other⟩ := Waiting.of_filled rfl waiting
    refine awaited.work found (fun _ => former) rfl ?_ waiting
    simp [Worker.owes, other, setWorker, setMailbox]
  | unheard index job outcome found unheard =>
    intro waiting
    have other : job ≠ id := by
      rintro rfl
      obtain ⟨call, known, awaits, -⟩ := waiting
      have known : before.calls[job]? = some call := known
      rw [isHeard, known, Option.any_some, CallStage.isListening_of_awaits awaits] at unheard
      cases unheard
    refine awaited.work found (fun waiting => waiting) rfl ?_ waiting
    simp [Worker.owes, other, setWorker]
  | leftLast index found last =>
    intro waiting
    obtain ⟨former, away⟩ := waiting.of_discard
    have stays : Awaited id (before.setWorker index .stopped) :=
      awaited.work found (fun waiting => waiting) rfl (Nat.le_refl _)
    have somewhere := stays former
    unfold places at somewhere ⊢
    rw [List.count_eq_zero.mpr away] at somewhere
    rw [discard_workers]
    exact Nat.lt_of_lt_of_le somewhere (Nat.add_le_add_right (Nat.zero_le _) _)
  | stopSent left stopping inhabited room =>
    refine awaited.keep (fun waiting => waiting) (Nat.add_le_add_right ?_ _)
    exact List.Sublist.count_le (.run id) (List.sublist_append_left before.queue [.stop])
  | shut | stopSpared | joined => exact awaited

/-- In every state that an executor can reach, the job of a call that waits for its reply and has
none is in the queue, or at a worker that owes the reply. -/
theorem Reachable.awaited {poolSize capacity : Nat} {executor : Executor Content}
    (reached : Reachable poolSize capacity executor) (id : CallId) : Awaited id executor :=
  reached.move_induction (fun ⟨_, known, _⟩ => by cases known) fun _ _ move awaited =>
    awaited.move move

end Executor

end WalletBridge
