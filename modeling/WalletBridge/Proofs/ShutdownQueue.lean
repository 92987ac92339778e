/-
This file follows the queue through a shutdown. The stop messages in the queue and those still to be
sent are as many as the workers that have taken none, so a job with fewer stop messages before it
than there are such workers will be reached by one of them. A job behind all the stop messages is
reached by nobody, and is thrown away when the last worker leaves.
-/

import WalletBridge.Proofs.JobAccounting

namespace WalletBridge

variable {Content : Type}

/-- Whether a worker has not taken a stop message yet. -/
def Worker.serves : Worker Content → Bool
  | .leaving => false
  | .stopped => false
  | _ => true

theorem Worker.not_stopped_of_serves {worker : Worker Content} (serves : worker.serves = true) :
    worker.isStopped = false := by
  cases worker with
  | stopped => cases serves
  | _ => rfl

namespace Executor

/-! ### Workers that have not left -/

/-- How many workers have not taken a stop message yet. -/
def serving (executor : Executor Content) : Nat := executor.workers.countP Worker.serves

/-- How many stop messages are still to be sent. -/
def stopsToCome (executor : Executor Content) : Nat :=
  match executor.closing with
  | .open => executor.workers.length
  | .stopping left => left
  | .closed => 0

theorem stopsToCome_congr {before after : Executor Content}
    (closing : after.closing = before.closing)
    (workers : after.workers.length = before.workers.length) :
    after.stopsToCome = before.stopsToCome := by
  unfold stopsToCome
  rw [closing, workers]

theorem isDeserted_eq_false {executor : Executor Content} {index : Nat} {worker : Worker Content}
    (found : executor.workers[index]? = some worker) (present : worker.isStopped = false) :
    executor.isDeserted = false := by
  refine Bool.eq_false_iff.mpr fun deserted => ?_
  have stopped := List.all_eq_true.mp deserted worker (List.mem_of_getElem? found)
  rw [present] at stopped
  cases stopped

theorem serving_eq_zero {executor : Executor Content} (deserted : executor.isDeserted = true) :
    executor.serving = 0 := by
  refine List.countP_eq_zero.mpr fun worker member serves => ?_
  have stopped := List.all_eq_true.mp deserted worker member
  rw [Worker.not_stopped_of_serves serves] at stopped
  cases stopped

/-- A new phase of one worker changes the number of those that serve by the two phases. -/
theorem serving_setWorker {executor : Executor Content} {index : Nat} {old : Worker Content}
    (new : Worker Content) (found : executor.workers[index]? = some old) :
    (executor.setWorker index new).serving + (if old.serves then 1 else 0) =
      executor.serving + (if new.serves then 1 else 0) :=
  countP_set_add new found Worker.serves

/-! ### Stop messages -/

/-- What always holds of the workers, the stop messages and the queue. -/
structure Staffed (executor : Executor Content) : Prop where
  workers : 0 < executor.workers.length
  /-- Every worker that serves has a stop message in the queue or still to come. -/
  stops : executor.serving = executor.queue.count .stop + executor.stopsToCome
  empty : executor.isDeserted = true → executor.queue = []
  closed : executor.closing = .closed → executor.isDeserted = true

/-- A worker that goes on without leaving, and may have taken the first message. -/
theorem Staffed.work {before after : Executor Content} {index : Nat} {old new : Worker Content}
    (staffed : Staffed before) (found : before.workers[index]? = some old)
    (present : old.isStopped = false) (stays : new.isStopped = false)
    (workers : after.workers = before.workers.set index new)
    (closing : after.closing = before.closing)
    (stops : after.queue.count .stop + (if old.serves then 1 else 0) =
      before.queue.count .stop + (if new.serves then 1 else 0)) : Staffed after := by
  have inhabited : after.isDeserted = false := by
    obtain ⟨bound, _⟩ := List.getElem?_eq_some_iff.mp found
    refine isDeserted_eq_false (?_ : after.workers[index]? = some new) stays
    rw [workers]
    exact List.getElem?_set_self bound
  have toCome : after.stopsToCome = before.stopsToCome :=
    stopsToCome_congr closing (by rw [workers, List.length_set])
  have serves := countP_set_add new found Worker.serves
  refine ⟨?_, ?_, fun deserted => ?_, fun closed => ?_⟩
  · rw [workers, List.length_set]
    exact staffed.workers
  · have account := staffed.stops
    unfold serving at account ⊢
    rw [workers, toCome]
    omega
  · rw [inhabited] at deserted
    cases deserted
  · have deserted := staffed.closed (closing ▸ closed)
    rw [isDeserted_eq_false found present] at deserted
    cases deserted

theorem Staffed.new (poolSize capacity : Nat) :
    Staffed (Executor.new poolSize capacity : Executor Content) := by
  refine ⟨?_, ?_, fun _ => rfl, nofun⟩
  · rw [Executor.new, List.length_replicate]
    exact Nat.le_max_right poolSize 1
  · simp [Executor.new, serving, stopsToCome, List.countP_replicate, Worker.serves]

theorem Staffed.move {before after : Executor Content} (staffed : Staffed before)
    (move : Move before after) : Staffed after := by
  have unchanged : Staffed before := staffed
  obtain ⟨workers, stops, empty, closed⟩ := staffed
  cases move with
  | begun kind => exact ⟨workers, stops, empty, closed⟩
  | shifted id call next found shift => exact ⟨workers, stops, empty, closed⟩
  | submitted id kind mailbox found => exact ⟨workers, stops, empty, closed⟩
  | accepted id kind mailbox found inhabited room =>
    refine ⟨workers, ?_, fun deserted => ?_, closed⟩
    · simp only [record, setStage, push, List.count_append, List.count_singleton]
      exact stops
    · rw [show before.isDeserted = true from deserted] at inhabited
      cases inhabited
  | received index job rest found first =>
    refine unchanged.work found rfl rfl rfl rfl ?_
    rw [first, List.count_cons]
    rfl
  | told index rest found first =>
    refine unchanged.work found rfl rfl rfl rfl ?_
    rw [first, List.count_cons]
    rfl
  | finished index job outcome found =>
    cases failed : outcome.isFailed with
    | true =>
      refine unchanged.work found rfl ?_ rfl rfl ?_
      · simp [phaseAfter, failed, Worker.isStopped]
      · simp [record, setWorker, phaseAfter, failed, Worker.serves]
    | false =>
      refine unchanged.work found rfl ?_ rfl rfl ?_
      · simp [phaseAfter, failed, Worker.isStopped]
      · simp [record, setWorker, phaseAfter, failed, Worker.serves]
  | judged index job outcome found => exact unchanged.work found rfl rfl rfl rfl rfl
  | completed index job outcome found => exact unchanged.work found rfl rfl rfl rfl rfl
  | replied index job outcome found heard => exact unchanged.work found rfl rfl rfl rfl rfl
  | unheard index job outcome found unheard => exact unchanged.work found rfl rfl rfl rfl rfl
  | regretted index job found => exact unchanged.work found rfl rfl rfl rfl rfl
  | left index found others =>
    have serves := serving_setWorker .stopped found
    have length : (before.setWorker index .stopped).workers.length = before.workers.length :=
      List.length_set
    refine ⟨length ▸ workers, ?_, fun deserted => ?_, fun closing => ?_⟩
    · have toCome : (before.setWorker index .stopped).stopsToCome = before.stopsToCome :=
        stopsToCome_congr rfl length
      rw [toCome]
      exact serves.trans stops
    · rw [others] at deserted
      cases deserted
    · have deserted := closed closing
      rw [isDeserted_eq_false found rfl] at deserted
      cases deserted
  | leftLast index found last =>
    have serves : (before.setWorker index .stopped).serving = before.serving :=
      serving_setWorker .stopped found
    have length : (before.setWorker index .stopped).discard.workers.length =
        before.workers.length := by
      rw [discard_workers]
      exact List.length_set
    refine ⟨length ▸ workers, ?_, fun _ => discard_queue _, fun _ => ?_⟩
    · have toCome : (before.setWorker index .stopped).discard.stopsToCome = before.stopsToCome :=
        stopsToCome_congr (discard_closing _) length
      have noStops : before.stopsToCome = 0 := by
        rw [serving_eq_zero last] at serves
        omega
      rw [toCome, noStops, discard_queue, serving, discard_workers]
      exact serving_eq_zero last
    · rw [isDeserted, discard_workers]
      exact last
  | shut running =>
    refine ⟨workers, ?_, empty, fun ended => by cases ended⟩
    simp only [stopsToCome, running] at stops ⊢
    exact stops
  | stopSent left stopping inhabited room =>
    refine ⟨workers, ?_, fun deserted => ?_, fun ended => by cases ended⟩
    · simp only [stopsToCome, stopping, push, serving, List.count_append, List.count_singleton]
        at stops ⊢
      rw [stops]
      simp only [beq_self_eq_true, if_true]
      omega
    · rw [show before.isDeserted = true from deserted] at inhabited
      cases inhabited
  | stopSpared left stopping deserted =>
    -- A stop message still to come has a worker that serves, so somebody is there to take it.
    have noneServe := serving_eq_zero deserted
    simp only [stopsToCome, stopping] at stops
    omega
  | joined stopping deserted =>
    refine ⟨workers, ?_, empty, fun _ => deserted⟩
    simp only [stopsToCome, stopping] at stops ⊢
    exact stops

theorem Reachable.staffed {poolSize capacity : Nat} {executor : Executor Content}
    (reached : Reachable poolSize capacity executor) : Staffed executor :=
  reached.move_induction (.new poolSize capacity) fun _ _ move staffed => staffed.move move

end Executor

end WalletBridge
