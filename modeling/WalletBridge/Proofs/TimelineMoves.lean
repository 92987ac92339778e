/-
This file joins an executor on a clock to the machine of its steps. A move is one step of the
executor at most, and what stands beside the executor only says when the next one comes. So whatever
happens, and however long one waits, nothing but steps of the machine happens to the executor. That
is why a caller keeps what it got, a call keeps its job, and the clock does not go back.
-/

import WalletBridge.Executor.Timeline
import WalletBridge.Proofs.JobReplies
import WalletBridge.Proofs.PollLimits
import WalletBridge.Proofs.WorkerTurns

namespace WalletBridge

variable {World Content : Type}

/-! ### What steps leave alone -/

/-- Whether a step begins a call. -/
def ExecutorStep.begins : ExecutorStep Content → Bool
  | .begin _ => true
  | _ => false

/-- Whether a step ends a job. -/
def ExecutorStep.finishes : ExecutorStep Content → Bool
  | .finish .. => true
  | _ => false

/-- Whether a call or a worker takes a step by itself, and not one that ends a job. -/
def ExecutorStep.isOngoing : ExecutorStep Content → Bool
  | .begin _ | .abandon _ | .finish .. | .shut | .stop | .join => false
  | _ => true

theorem ExecutorStep.others_of_isOngoing {step : ExecutorStep Content}
    (ongoing : step.isOngoing = true) : step.begins = false ∧ step.finishes = false := by
  cases step with
  | begin | abandon | finish | shut | stop | join => cases ongoing
  | _ => exact ⟨rfl, rfl⟩

namespace Executor

/-- Only the beginning of a call changes the kinds of the calls. -/
theorem kinds_of_step? {before after : Executor Content} {step : ExecutorStep Content}
    (others : step.begins = false) (taken : before.step? step = some after) :
    after.calls.map (·.kind) = before.calls.map (·.kind) := by
  cases step with
  | begin kind => cases others
  | check id | offer id | recheck id | retry id | count id | take id | miss id | resume id
  | expire id | giveUp id | abandon id =>
    simp only [step?] at taken
    split at taken
    · obtain ⟨⟨stage, calls, -⟩, -⟩ := stepCall_leaves taken
      rw [calls]
      exact map_modify_of_keeps before.calls id fun _ => rfl
    · cases taken
  | receive index | finish index outcome | judge index | complete index | reply index
  | regret index | leave index =>
    simp only [step?] at taken
    split at taken
    · exact (stepWorker_leaves taken).2.1
    · cases taken
  | shut | stop | join =>
    simp only [step?] at taken
    rw [stepClosing_calls taken]

/-- Only its caller drops a call. -/
theorem abandoned_of_step? {before after : Executor Content} {step : ExecutorStep Content}
    {id : CallId} (ongoing : step.isOngoing = true) (taken : before.step? step = some after)
    (gone : Call.stage? after.calls id = some .abandoned) :
    Call.stage? before.calls id = some .abandoned := by
  cases step with
  | begin | abandon | finish | shut | stop | join => cases ongoing
  | check other | offer other | recheck other | retry other | count other | take other
  | miss other | resume other | expire other | giveUp other =>
    simp only [step?] at taken
    split at taken
    · obtain ⟨⟨stage, calls, drops⟩, -⟩ := stepCall_leaves taken
      rw [calls, setStage, Call.stage?_setStage] at gone
      split at gone
      · obtain ⟨former, -, same⟩ := Option.map_eq_some_iff.mp gone
        obtain ⟨dropped, isDrop⟩ := drops same
        cases isDrop
      · exact gone
    · cases taken
  | receive index | judge index | complete index | reply index | regret index | leave index =>
    simp only [step?] at taken
    split at taken
    · rw [← (stepWorker_leaves taken).1]
      exact gone
    · cases taken

/-- A run that is followed by a step. -/
theorem run?_concat {before between after : Executor Content} {steps : List (ExecutorStep Content)}
    {step : ExecutorStep Content} (ran : before.run? steps = some between)
    (taken : between.step? step = some after) : before.run? (steps ++ [step]) = some after := by
  induction steps generalizing before with
  | nil =>
    cases ran
    exact Option.bind_eq_some_iff.mpr ⟨after, taken, rfl⟩
  | cons first rest inductionHypothesis =>
    obtain ⟨next, went, ranRest⟩ := Option.bind_eq_some_iff.mp ran
    exact Option.bind_eq_some_iff.mpr ⟨next, went, inductionHypothesis ranRest⟩

end Executor

namespace Timeline

/-! ### Moves -/

/-- The jobs of the calls. -/
def jobs (timeline : Timeline World Content) : List (Job World Content) :=
  timeline.calls.map (·.job)

/-- What a move can do: the timeline before it and after it. -/
inductive Moves (before : Timeline World Content) : Timeline World Content → Prop where
  /-- The executor takes a step that ends no job, and the pauses of calls may change. -/
  | stepped {step : ExecutorStep Content} {executor : Executor Content}
      (calls : List (CallTimes World Content)) (ongoing : step.isOngoing = true)
      (taken : before.executor.step? step = some executor)
      (same : calls.map (·.job) = before.calls.map (·.job))
      (deadlines : calls.map (·.deadline) = before.calls.map (·.deadline)) :
    Moves before { before with executor := executor, calls := calls }
  /-- A worker turns to the job that it has received. -/
  | turned {index wake : Nat} {id : CallId} {job : Job World Content}
      (running : before.executor.workers[index]? = some (.running id))
      (unoccupied : before.workers[index]? = some ⟨none, wake⟩)
      (known : before.jobs[id]? = some job) :
    Moves before { before with workers := before.workers.set index ⟨some job, 0⟩ }
  | slept {index wake milliseconds : Nat} {rest : Job World Content}
      (left : before.workers[index]? = some ⟨some (.sleep milliseconds rest), wake⟩) :
    Moves before
      { before with workers := before.workers.set index ⟨some rest, before.clock + milliseconds⟩ }
  | passed {index wake : Nat} {name : String} {rest : Job World Content} {gates : List Gate}
      (left : before.workers[index]? = some ⟨some (.gate name rest), wake⟩)
      (same : gates.map (·.name) = before.gates.map (·.name)) :
    Moves before
      { before with workers := before.workers.set index ⟨some rest, 0⟩, gates := gates }
  /-- A job has come to a gate that is shut. -/
  | arrived {gates : List Gate} (same : gates.map (·.name) = before.gates.map (·.name)) :
    Moves before { before with gates := gates }
  | acted {index wake : Nat} {id : CallId} {action : String → Run World Content} {name : String}
      {executor : Executor Content}
      (running : before.executor.workers[index]? = some (.running id))
      (left : before.workers[index]? = some ⟨some (.act action), wake⟩)
      (taken : before.executor.step? (.finish index (action name before.world).1) = some executor) :
    Moves before
      { before with
        executor := executor
        workers := before.workers.set index ⟨none, 0⟩
        world := (action name before.world).2 }

variable {timeline before after : Timeline World Content}

theorem Moves.of_step? {step : ExecutorStep Content} (ongoing : step.isOngoing = true)
    (taken : before.step? step = some after) : Moves before after := by
  obtain ⟨executor, stepped, rfl⟩ := Option.map_eq_some_iff.mp taken
  exact .stepped before.calls ongoing stepped rfl rfl

/-- A change of gates under one name that leaves them that name keeps all names. -/
theorem names_of_named (gates : List Gate) (name : String) (change : Gate → Gate)
    (keeps : ∀ gate, (change gate).name = gate.name) :
    (gates.map fun gate => if gate.name == name then change gate else gate).map (·.name) =
      gates.map (·.name) := by
  rw [List.map_map]
  refine List.map_congr_left fun gate _ => ?_
  rw [Function.comp_apply]
  split
  · exact keeps gate
  · rfl

theorem work_moves {index wake : Nat} {id : CallId} {job : Job World Content}
    (running : timeline.executor.workers[index]? = some (.running id))
    (left : timeline.workers[index]? = some ⟨some job, wake⟩)
    (moved : timeline.work index job = some after) : Moves timeline after := by
  cases job with
  | act action =>
    obtain ⟨executor, stepped, rfl⟩ := Option.map_eq_some_iff.mp moved
    exact .acted running left stepped
  | sleep milliseconds rest =>
    cases moved
    exact .slept left
  | gate name rest =>
    simp only [work] at moved
    split at moved
    · split at moved <;> cases moved
      · exact .passed left rfl
      · exact .passed left (names_of_named timeline.gates name _ fun _ => rfl)
    · cases moved
      exact .arrived (names_of_named timeline.gates name _ fun _ => rfl)
    · cases moved

theorem moveWorker?_moves {index : Nat} (moved : timeline.moveWorker? index = some after) :
    Moves timeline after := by
  unfold moveWorker? at moved
  cases phase : timeline.executor.workers[index]? with
  | none =>
    rw [phase] at moved
    cases moved
  | some worker =>
    rw [phase] at moved
    cases worker with
    | running job =>
      simp only at moved
      split at moved
      · rename_i wake unoccupied
        obtain ⟨call, known, rfl⟩ := Option.map_eq_some_iff.mp moved
        exact .turned phase unoccupied (List.getElem?_map.trans (congrArg (Option.map _) known))
      · rename_i rest wake left
        split at moved
        · cases moved
        · exact work_moves phase left moved
      · cases moved
    | stopped => cases moved
    | _ => exact .of_step? rfl moved

theorem moveCall?_moves {call : CallId} (moved : timeline.moveCall? call = some after) :
    Moves timeline after := by
  unfold moveCall? at moved
  split at moved
  · rename_i state times begun timed
    cases stage : state.stage with
    | done reply | abandoned =>
      rw [stage] at moved
      cases moved
    | crowded =>
      rw [stage] at moved
      obtain ⟨between, taken, rfl⟩ := Option.map_eq_some_iff.mp moved
      obtain ⟨executor, stepped, rfl⟩ := Option.map_eq_some_iff.mp taken
      exact .stepped _ rfl stepped (map_modify_of_keeps timeline.calls call fun _ => rfl)
        (map_modify_of_keeps timeline.calls call fun _ => rfl)
    | pausing =>
      simp only [stage] at moved
      split at moved
      · exact .of_step? rfl moved
      · split at moved
        · exact .of_step? rfl moved
        · cases moved
    | waiting =>
      simp only [stage] at moved
      split at moved
      · rename_i taken
        cases moved
        exact .of_step? rfl taken
      · split at moved
        · exact .of_step? rfl moved
        · cases moved
    | _ =>
      rw [stage] at moved
      exact .of_step? rfl moved
  · cases moved

theorem move?_moves {driven : List CallId} (moved : timeline.move? driven = some after) :
    Moves timeline after := by
  unfold move? at moved
  split at moved
  · rename_i found
    cases moved
    obtain ⟨index, -, worked⟩ := List.exists_of_findSome?_eq_some found
    exact moveWorker?_moves worked
  · obtain ⟨call, -, went⟩ := List.exists_of_findSome?_eq_some moved
    exact moveCall?_moves went

/-- A move is one step of the executor at most, and not one that begins a call. -/
theorem Moves.executor (moves : Moves before after) :
    after.executor = before.executor ∨
      ∃ step, step.begins = false ∧ before.executor.step? step = some after.executor := by
  cases moves with
  | stepped calls ongoing taken same deadlines =>
    exact .inr ⟨_, (ExecutorStep.others_of_isOngoing ongoing).1, taken⟩
  | acted running left taken => exact .inr ⟨_, rfl, taken⟩
  | _ => exact .inl rfl

theorem Moves.jobs (moves : Moves before after) : after.jobs = before.jobs := by
  cases moves with
  | stepped calls ongoing taken same deadlines => exact same
  | _ => rfl

theorem Moves.gates (moves : Moves before after) :
    after.gates.map (·.name) = before.gates.map (·.name) := by
  cases moves with
  | passed left same => exact same
  | arrived same => exact same
  | _ => rfl

theorem Moves.clock (moves : Moves before after) : before.clock = after.clock := by
  cases moves <;> rfl

theorem Moves.abandoned (moves : Moves before after) {call : CallId}
    (gone : Call.stage? after.executor.calls call = some .abandoned) :
    Call.stage? before.executor.calls call = some .abandoned := by
  cases moves with
  | stepped calls ongoing taken same deadlines =>
    exact Executor.abandoned_of_step? ongoing taken gone
  | acted running left taken =>
    simp only [Executor.step?, running] at taken
    cases taken
    exact gone
  | _ => exact gone

/-! ### What happens -/

/-- What can come of a timeline: somebody moves, a call begins, a caller takes a step, time passes,
gates are opened, and the world is changed. -/
inductive Leads (start : Timeline World Content) : Timeline World Content → Prop where
  | here : Leads start start
  | moved {before after : Timeline World Content} (led : Leads start before)
      (moves : Moves before after) : Leads start after
  | begun {before : Timeline World Content} (led : Leads start before) (kind : CallKind)
      (job : Job World Content) : Leads start (before.begin kind job).2
  | stepped {before : Timeline World Content} {step : ExecutorStep Content}
      {executor : Executor Content} (led : Leads start before) (others : step.begins = false)
      (unfinished : step.finishes = false) (taken : before.executor.step? step = some executor) :
    Leads start { before with executor := executor }
  | passed {before : Timeline World Content} (led : Leads start before) {moment : Nat}
      (later : before.clock ≤ moment) : Leads start { before with clock := moment }
  | opened {before : Timeline World Content} (led : Leads start before) {gates : List Gate}
      (same : gates.map (·.name) = before.gates.map (·.name)) :
    Leads start { before with gates := gates }
  | changed {before : Timeline World Content} (led : Leads start before) (world : World) :
    Leads start { before with world := world }

theorem Leads.trans {start between : Timeline World Content} (first : Leads start between)
    (second : Leads between after) : Leads start after := by
  induction second with
  | here => exact first
  | moved _ moves led => exact led.moved moves
  | begun _ kind job led => exact led.begun kind job
  | stepped _ others unfinished taken led => exact led.stepped others unfinished taken
  | passed _ later led => exact led.passed later
  | opened _ same led => exact led.opened same
  | changed _ world led => exact led.changed world

/-- A step that is not possible leaves everything as it is. -/
theorem step_leads (timeline : Timeline World Content) {step : ExecutorStep Content}
    (others : step.begins = false) (unfinished : step.finishes = false) :
    Leads timeline (timeline.step step) := by
  unfold Timeline.step
  cases possible : timeline.step? step with
  | none => exact .here
  | some after =>
    obtain ⟨executor, taken, rfl⟩ := Option.map_eq_some_iff.mp possible
    exact Leads.here.stepped others unfinished taken

theorem begin_step? (timeline : Timeline World Content) (kind : CallKind)
    (job : Job World Content) :
    timeline.executor.step? (.begin kind) = some (timeline.begin kind job).2.executor :=
  rfl

theorem jobs_begin (timeline : Timeline World Content) (kind : CallKind)
    (job : Job World Content) : (timeline.begin kind job).2.jobs = timeline.jobs ++ [job] :=
  List.map_append ..

/-- A call that begins leaves the others their jobs. -/
theorem begin_keeps_job (kind : CallKind) (other : Job World Content) {call : CallId}
    {job : Job World Content} (known : timeline.jobs[call]? = some job) :
    (timeline.begin kind other).2.jobs[call]? = some job := by
  rw [jobs_begin, List.getElem?_append_left (List.getElem?_eq_some_iff.mp known).1]
  exact known

theorem begin_job (timeline : Timeline World Content) (kind : CallKind) (job : Job World Content) :
    (timeline.begin kind job).2.jobs[(timeline.begin kind job).1]? = some job := by
  have last : (timeline.begin kind job).1 = timeline.jobs.length :=
    (List.length_map ..).symm
  rw [last, jobs_begin, List.getElem?_concat_length]

/-! ### What stays -/

/-- Nothing but steps of the machine happens to the executor. -/
theorem Leads.run (led : Leads before after) :
    ∃ steps, before.executor.run? steps = some after.executor := by
  induction led with
  | here => exact ⟨[], rfl⟩
  | moved _ moves ran =>
    obtain ⟨steps, ran⟩ := ran
    obtain same | ⟨step, -, taken⟩ := moves.executor
    · exact ⟨steps, ran.trans (congrArg some same.symm)⟩
    · exact ⟨steps ++ [step], Executor.run?_concat ran taken⟩
  | begun _ kind job ran =>
    obtain ⟨steps, ran⟩ := ran
    exact ⟨steps ++ [.begin kind], Executor.run?_concat ran (begin_step? _ kind job)⟩
  | stepped _ others unfinished taken ran =>
    obtain ⟨steps, ran⟩ := ran
    exact ⟨_, Executor.run?_concat ran taken⟩
  | passed _ later ran => exact ran
  | opened _ same ran => exact ran
  | changed _ world ran => exact ran

theorem reply?_eq_some {call : CallId} {reply : Except ExecutorError Content} :
    timeline.reply? call = some reply ↔
      Call.stage? timeline.executor.calls call = some (.done reply) := by
  unfold reply? Call.stage?
  constructor
  · intro told
    split at told
    · rename_i known
      cases told
      rw [known]
      rfl
    · cases told
  · intro done
    obtain ⟨⟨kind, stage, mailbox⟩, known, isDone⟩ := Option.map_eq_some_iff.mp done
    cases isDone
    rw [known]

/-- What a caller got is never taken back. -/
theorem Leads.reply? (led : Leads before after) {call : CallId}
    {reply : Except ExecutorError Content} (told : before.reply? call = some reply) :
    after.reply? call = some reply := by
  obtain ⟨steps, ran⟩ := led.run
  rw [reply?_eq_some] at told ⊢
  exact Executor.run?_induction (fun _ _ move => move.done) ran told

/-- A shutdown that has begun is not taken back. -/
theorem Leads.shut (led : Leads before after) (shut : before.executor.closing ≠ .open) :
    after.executor.closing ≠ .open := by
  obtain ⟨steps, ran⟩ := led.run
  exact @Executor.run?_induction _ (fun executor => executor.closing ≠ .open)
    (fun _ _ move shut isOpen => shut (move.open_of_open isOpen)) _ _ _ ran shut

/-- A call keeps its job. -/
theorem Leads.job (led : Leads before after) {call : CallId} {job : Job World Content}
    (known : before.jobs[call]? = some job) : after.jobs[call]? = some job := by
  induction led with
  | here => exact known
  | moved _ moves kept =>
    rw [moves.jobs]
    exact kept
  | begun _ kind other kept => exact begin_keeps_job kind other kept
  | stepped | passed | opened | changed => assumption

/-- A call keeps its kind. -/
theorem Leads.kind (led : Leads before after) {call : CallId} {kind : CallKind}
    (known : (before.executor.calls.map (·.kind))[call]? = some kind) :
    (after.executor.calls.map (·.kind))[call]? = some kind := by
  induction led with
  | here => exact known
  | moved _ moves kept =>
    obtain same | ⟨step, others, taken⟩ := moves.executor
    · rw [same]
      exact kept
    · rw [Executor.kinds_of_step? others taken]
      exact kept
  | begun _ other job kept =>
    show ((_ ++ [_]).map _)[call]? = some kind
    rw [List.map_append, List.getElem?_append_left (List.getElem?_eq_some_iff.mp kept).1]
    exact kept
  | stepped _ others unfinished taken kept =>
    rw [Executor.kinds_of_step? others taken]
    exact kept
  | passed | opened | changed => assumption

/-- The clock never goes back. -/
theorem Leads.clock_le (led : Leads before after) : before.clock ≤ after.clock := by
  induction led with
  | moved _ moves kept => exact Nat.le_trans kept (Nat.le_of_eq moves.clock)
  | passed _ later kept => exact Nat.le_trans kept later
  | here => exact Nat.le_refl _
  | begun | stepped | opened | changed => assumption

/-! ### Waiting -/

/-- What happens in so many turns of a wait: somebody moves, or the clock goes on to the next alarm
because nobody can move. -/
inductive Waits (driven : List CallId) (alarm : Option Nat) :
    Nat → Timeline World Content → Timeline World Content → Prop where
  | none (timeline : Timeline World Content) : Waits driven alarm 0 timeline timeline
  | moved {turns : Nat} {before between after : Timeline World Content}
      (moved : before.move? driven = some between) (rest : Waits driven alarm turns between after) :
    Waits driven alarm (turns + 1) before after
  | passed {turns moment : Nat} {before after : Timeline World Content}
      (stays : before.move? driven = none) (next : before.nextMoment? driven alarm = some moment)
      (rest : Waits driven alarm turns { before with clock := moment } after) :
    Waits driven alarm (turns + 1) before after

/-- Whether nobody can move and nothing is to be expected. -/
structure IsStuck (timeline : Timeline World Content) (driven : List CallId)
    (alarm : Option Nat) : Prop where
  stays : timeline.move? driven = none
  noMoment : timeline.nextMoment? driven alarm = none

theorem lt_of_nextMoment? {driven : List CallId} {alarm : Option Nat} {moment : Nat}
    (next : timeline.nextMoment? driven alarm = some moment) : timeline.clock < moment := by
  have among := List.min?_mem next
  exact of_decide_eq_true (List.mem_filter.mp among).2

theorem Waits.leads {driven : List CallId} {alarm : Option Nat} {turns : Nat}
    (waits : Waits driven alarm turns before after) : Leads before after := by
  induction waits with
  | none timeline => exact .here
  | moved moved _ led => exact (Leads.here.moved (move?_moves moved)).trans led
  | passed stays next _ led =>
    exact (Leads.here.passed (Nat.le_of_lt (lt_of_nextMoment? next))).trans led

/-- Nobody drops a call in a wait. -/
theorem Waits.abandoned {driven : List CallId} {alarm : Option Nat} {turns : Nat}
    (waits : Waits driven alarm turns before after) {call : CallId}
    (gone : Call.stage? after.executor.calls call = some .abandoned) :
    Call.stage? before.executor.calls call = some .abandoned := by
  induction waits with
  | none timeline => exact gone
  | moved moved _ earlier => exact (move?_moves moved).abandoned (earlier gone)
  | passed stays next _ earlier => exact earlier gone

/-- A wait ends when its goal is reached, when nothing is to be expected any more, or after the
turns it may take. -/
theorem waitUpTo_waits (driven : List CallId) (alarm : Option Nat)
    (goal : Timeline World Content → Bool) (moves : Nat) (timeline : Timeline World Content) :
    ∃ turns ≤ moves, Waits driven alarm turns timeline (waitUpTo driven alarm goal moves timeline) ∧
      (goal (waitUpTo driven alarm goal moves timeline) = true ∨
        (waitUpTo driven alarm goal moves timeline).IsStuck driven alarm ∨ turns = moves) := by
  induction moves generalizing timeline with
  | zero => exact ⟨0, Nat.le_refl 0, .none timeline, .inr (.inr rfl)⟩
  | succ moves inductionHypothesis =>
    unfold waitUpTo
    split
    · rename_i reached
      exact ⟨0, Nat.zero_le _, .none timeline, .inl reached⟩
    · split
      · rename_i after moved
        obtain ⟨turns, few, waits, ending⟩ := inductionHypothesis after
        refine ⟨turns + 1, Nat.succ_le_succ few, .moved moved waits, ?_⟩
        exact ending.imp_right (Or.imp_right (congrArg (· + 1)))
      · rename_i stays
        split
        · rename_i moment next
          obtain ⟨turns, few, waits, ending⟩ :=
            inductionHypothesis { timeline with clock := moment }
          refine ⟨turns + 1, Nat.succ_le_succ few, .passed stays next waits, ?_⟩
          exact ending.imp_right (Or.imp_right (congrArg (· + 1)))
        · rename_i noMoment
          exact ⟨0, Nat.zero_le _, .none timeline, .inr (.inl ⟨stays, noMoment⟩)⟩

theorem wait_waits (timeline : Timeline World Content) (driven : List CallId) (alarm : Option Nat)
    (goal : Timeline World Content → Bool) :
    ∃ turns ≤ patience, Waits driven alarm turns timeline (timeline.wait driven alarm goal) ∧
      (goal (timeline.wait driven alarm goal) = true ∨
        (timeline.wait driven alarm goal).IsStuck driven alarm ∨ turns = patience) :=
  waitUpTo_waits driven alarm goal patience timeline

theorem wait_leads (timeline : Timeline World Content) (driven : List CallId) (alarm : Option Nat)
    (goal : Timeline World Content → Bool) : Leads timeline (timeline.wait driven alarm goal) := by
  obtain ⟨turns, -, waits, -⟩ := timeline.wait_waits driven alarm goal
  exact waits.leads

theorem settle_leads (timeline : Timeline World Content) : Leads timeline timeline.settle :=
  timeline.wait_leads [] none _

end Timeline

end WalletBridge
