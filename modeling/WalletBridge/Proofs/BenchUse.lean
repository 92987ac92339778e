/-
This file says what a caller gets who uses an executor in any way and for any time. Each use only
makes calls begin, moves go on and time pass. So steps of the machine lead to the executor that the
caller has in the end, and what holds of every such executor holds of this one.

The caller who waits is told something, unless a job stands at a gate that is shut. What it is told
about a job is how that job ended, or that the executor did not take it, or that the time was over.
An operation on a session that was done as a job has the answer that it would have had without the
executor, in the state in which its turn came.
-/

import WalletBridge.Executor.Request
import WalletBridge.Proofs.CounterBalance
import WalletBridge.Proofs.TimelineProgress

namespace WalletBridge

variable {World Content : Type}

theorem Timeline.closing_shut (timeline : Timeline World Content) :
    (timeline.step .shut).executor.closing ≠ .open := by
  intro isOpen
  simp only [Timeline.step, step?, Executor.step?, Executor.stepClosing] at isOpen
  split at isOpen
  · cases isOpen
  · contradiction

namespace Bench

open Timeline (Leads)

/-! ### Uses -/

variable (bench : Bench World Content)

theorem settle_leads : Leads bench.timeline bench.settle.timeline :=
  bench.timeline.settle_leads

theorem awaitCall_leads (call : CallId) :
    Leads bench.timeline (bench.awaitCall call).2.timeline :=
  (bench.timeline.wait_leads ..).trans (Timeline.settle_leads _)

theorem run_leads (limit : Option Nat) (job : Job World Content) :
    Leads bench.timeline (bench.run limit job).2.timeline :=
  (Leads.here.begun _ job).trans (awaitCall_leads { bench with timeline := _ } _)

theorem drop_leads (call : CallId) : Leads bench.timeline (bench.drop call).timeline :=
  (bench.timeline.step_leads rfl rfl).trans (Timeline.settle_leads _)

theorem dropNamed_leads (name : String) (table : List (String × CallId)) :
    Leads bench.timeline (bench.dropNamed name table).timeline := by
  unfold dropNamed
  split
  · exact bench.drop_leads _
  · exact .here

/-- What comes of a call that is to be queued at once. -/
theorem tryRun_begun_leads (name : String) (job : Job World Content) :
    Leads (bench.timeline.begin .immediate job).2 (bench.tryRun name job).2.timeline := by
  have queued (call : CallId) : Leads (bench.timeline.begin .immediate job).2
      ((((bench.timeline.begin .immediate job).2.step (.check call)).step (.offer call)).step
        (.count call)) :=
    ((Timeline.step_leads _ rfl rfl).trans (Timeline.step_leads _ rfl rfl)).trans
      (Timeline.step_leads _ rfl rfl)
  unfold tryRun
  simp only
  split
  · exact (queued _).trans (Timeline.settle_leads _)
  · exact ((queued _).trans (settle_leads { bench with timeline := _ })).trans
      (dropNamed_leads _ name _)

theorem tryRun_leads (name : String) (job : Job World Content) :
    Leads bench.timeline (bench.tryRun name job).2.timeline :=
  (Leads.here.begun .immediate job).trans (bench.tryRun_begun_leads name job)

theorem spawn_leads (name : String) (job : Job World Content) :
    Leads bench.timeline (bench.spawn name job).timeline :=
  Leads.here.begun .patient job

theorem idle_leads (name : String) (milliseconds : Nat) :
    Leads bench.timeline (bench.idle name milliseconds).2.timeline :=
  (bench.timeline.wait_leads ..).trans (Timeline.settle_leads _)

theorem abort_leads (name : String) : Leads bench.timeline (bench.abort name).2.timeline := by
  unfold abort
  split
  · exact bench.drop_leads _
  · exact .here

theorem awaitNamed_leads (name : String) :
    Leads bench.timeline (bench.awaitNamed name).2.timeline := by
  unfold awaitNamed
  split
  · exact awaitCall_leads ..
  · split
    · exact awaitCall_leads ..
    · exact .here

theorem forget_leads (name : String) : Leads bench.timeline (bench.forget name).2.timeline := by
  unfold forget
  split
  · exact bench.drop_leads _
  · exact .here

theorem awaitStart_leads (gate : String) :
    Leads bench.timeline (bench.awaitStart gate).2.timeline := by
  unfold awaitStart
  split
  · exact (bench.timeline.wait_leads ..).trans (Timeline.settle_leads _)
  · exact .here

theorem openGate_leads (gate : String) :
    Leads bench.timeline (bench.openGate gate).2.timeline := by
  refine (Leads.here.opened ?_).trans (Timeline.settle_leads _)
  exact Timeline.names_of_named _ gate ({ · with isOpen := true }) fun _ => rfl

theorem sendStops_leads (left : Nat) (timeline : Timeline World Content) :
    Leads timeline (sendStops left timeline) := by
  induction left generalizing timeline with
  | zero => exact .here
  | succ left inductionHypothesis =>
    exact ((timeline.wait_leads ..).trans (Timeline.step_leads _ rfl rfl)).trans
      (inductionHypothesis _)

/-- What comes of a shutdown behind its first step. -/
theorem shutdown_shut_leads (owned : bench.owned = true) :
    Leads (bench.timeline.step .shut) bench.shutdown.2.timeline := by
  rw [shutdown, if_pos owned]
  exact (((sendStops_leads ..).trans (Timeline.wait_leads ..)).trans
    (Timeline.step_leads _ rfl rfl)).trans (Timeline.settle_leads _)

theorem shutdown_leads : Leads bench.timeline bench.shutdown.2.timeline := by
  cases owned : bench.owned with
  | true => exact (Timeline.step_leads _ rfl rfl).trans (bench.shutdown_shut_leads owned)
  | false =>
    rw [shutdown, owned]
    exact .here

/-! ### What holds after any uses -/

/-- The benches that a caller can come to. What the jobs act on may be changed between two uses. -/
inductive Reachable (poolSize capacity : Nat) : Bench World Content → Prop where
  | new (threadName : String) (world : World) :
    Reachable poolSize capacity (.new poolSize capacity threadName world)
  | run {bench : Bench World Content} (reached : Reachable poolSize capacity bench)
      (limit : Option Nat) (job : Job World Content) :
    Reachable poolSize capacity (bench.run limit job).2
  | tryRun {bench : Bench World Content} (reached : Reachable poolSize capacity bench)
      (name : String) (job : Job World Content) :
    Reachable poolSize capacity (bench.tryRun name job).2
  | spawn {bench : Bench World Content} (reached : Reachable poolSize capacity bench)
      (name : String) (job : Job World Content) :
    Reachable poolSize capacity (bench.spawn name job)
  | idle {bench : Bench World Content} (reached : Reachable poolSize capacity bench)
      (name : String) (milliseconds : Nat) :
    Reachable poolSize capacity (bench.idle name milliseconds).2
  | abort {bench : Bench World Content} (reached : Reachable poolSize capacity bench)
      (name : String) : Reachable poolSize capacity (bench.abort name).2
  | awaitNamed {bench : Bench World Content} (reached : Reachable poolSize capacity bench)
      (name : String) : Reachable poolSize capacity (bench.awaitNamed name).2
  | forget {bench : Bench World Content} (reached : Reachable poolSize capacity bench)
      (name : String) : Reachable poolSize capacity (bench.forget name).2
  | awaitStart {bench : Bench World Content} (reached : Reachable poolSize capacity bench)
      (gate : String) : Reachable poolSize capacity (bench.awaitStart gate).2
  | openGate {bench : Bench World Content} (reached : Reachable poolSize capacity bench)
      (gate : String) : Reachable poolSize capacity (bench.openGate gate).2
  | shutdown {bench : Bench World Content} (reached : Reachable poolSize capacity bench) :
    Reachable poolSize capacity bench.shutdown.2
  | release {bench : Bench World Content} (reached : Reachable poolSize capacity bench) :
    Reachable poolSize capacity bench.release.2
  | changed {bench : Bench World Content} (reached : Reachable poolSize capacity bench)
      (world : World) :
    Reachable poolSize capacity { bench with timeline := { bench.timeline with world := world } }

variable {bench} {poolSize capacity : Nat}

theorem Reachable.sound (reached : Reachable poolSize capacity bench) :
    bench.timeline.Sound poolSize capacity := by
  induction reached with
  | new threadName world => exact .new threadName world
  | run _ limit job sound => exact (run_leads _ limit job).sound sound
  | tryRun _ name job sound => exact (tryRun_leads _ name job).sound sound
  | spawn _ name job sound => exact (spawn_leads _ name job).sound sound
  | idle _ name milliseconds sound => exact (idle_leads _ name milliseconds).sound sound
  | abort _ name sound => exact (abort_leads _ name).sound sound
  | awaitNamed _ name sound => exact (awaitNamed_leads _ name).sound sound
  | forget _ name sound => exact (forget_leads _ name).sound sound
  | awaitStart _ gate sound => exact (awaitStart_leads _ gate).sound sound
  | openGate _ gate sound => exact (openGate_leads _ gate).sound sound
  | shutdown _ sound => exact (shutdown_leads _).sound sound
  | release _ sound => exact sound
  | changed _ world sound => exact (Leads.here.changed world).sound sound

/-- However an executor is used, steps of the machine lead to what it is then. -/
theorem Reachable.executor (reached : Reachable poolSize capacity bench) :
    Executor.Reachable poolSize capacity bench.timeline.executor :=
  reached.sound.reached

/-- What the caller sees of an executor that it owns. The pool has the size that was asked for, one
at least. Where nobody is about to count a job, the jobs in flight are those queued, those at a
worker and those thrown away, as long as a word can count all jobs. -/
theorem info_of_reachable (reached : Reachable poolSize capacity bench) {info : ExecutorInfo}
    (seen : bench.info? = some info) :
    info.poolSize = max poolSize 1 ∧
      (bench.timeline.executor.stats.submitted < values64 →
        bench.timeline.executor.uncounted = 0 →
          info.inFlight.toNat = bench.timeline.executor.queuedJobs +
            bench.timeline.executor.unsettled + bench.timeline.executor.discarded) := by
  unfold info? at seen
  split at seen
  · cases seen
    exact ⟨reached.executor.workers_length, reached.executor.toNat_inFlight⟩
  · cases seen

/-! ### What callers are told -/

theorem awaitCall_tells (sound : bench.timeline.Sound poolSize capacity) {call : CallId}
    {job : Job World Content} (known : bench.timeline.jobs[call]? = some job)
    {reply : Except ExecutorError Content} (told : (bench.awaitCall call).1 = some reply) :
    job.Tells reply := by
  have led := bench.timeline.wait_leads (call :: bench.driven) none fun state =>
    (state.reply? call).isSome
  obtain ⟨other, isOther, tells⟩ := (led.sound sound).tells told
  rw [led.job known] at isOther
  cases isOther
  exact tells

/-- Who runs a job is told about this job. -/
theorem run_tells (reached : Reachable poolSize capacity bench) {limit : Option Nat}
    {job : Job World Content} {reply : Except ExecutorError Content}
    (told : (bench.run limit job).1 = some reply) : job.Tells reply :=
  awaitCall_tells (reached.sound.begun _ job) (bench.timeline.begin_job _ job) told

/-- Who waits for a call that nobody dropped is told something. Otherwise the call has no limit and
a job stands at a gate that is shut, or the wait has taken all the turns it may take. -/
theorem awaitCall_ends (sound : bench.timeline.Sound poolSize capacity) {call : CallId}
    {kind : CallKind}
    (known : (bench.timeline.executor.calls.map (·.kind))[call]? = some kind)
    (present : Call.stage? bench.timeline.executor.calls call ≠ some .abandoned) :
    (∃ reply, (bench.awaitCall call).1 = some reply) ∨
      (kind.isTimed = false ∧ ∃ index, (bench.awaitCall call).2.timeline.Barred index) ∨
        ∃ after, Timeline.Waits (call :: bench.driven) none Timeline.patience bench.timeline
          after := by
  obtain ⟨turns, -, waits, ending⟩ := bench.timeline.wait_waits (call :: bench.driven) none
    fun state => (state.reply? call).isSome
  obtain answered | stuck | rfl := ending
  · exact .inl (Option.isSome_iff_exists.mp answered)
  · cases told : (bench.awaitCall call).1 with
    | some reply => exact .inl ⟨reply, rfl⟩
    | none =>
      have later := waits.leads.kind known
      rw [List.getElem?_map] at later
      obtain ⟨state, isState, rfl⟩ := Option.map_eq_some_iff.mp later
      obtain ⟨untimed, index, shut⟩ :=
        (waits.leads.sound sound).barred_of_stuck stuck (List.mem_cons_self ..) isState told
          fun gone => present (waits.abandoned (Option.map_eq_some_iff.mpr ⟨state, isState, gone⟩))
      refine .inr (.inl ⟨untimed, index, ?_⟩)
      show (Timeline.settle (bench.timeline.wait _ _ _)).Barred index
      rw [stuck.settle_eq]
      exact shut
  · exact .inr (.inr ⟨_, waits⟩)

/-- Who runs a job is told something. A time limit makes sure of that even where a job stands at a
gate that is shut. -/
theorem run_ends (reached : Reachable poolSize capacity bench) (limit : Option Nat)
    (job : Job World Content) :
    (∃ reply, (bench.run limit job).1 = some reply) ∨
      (limit = none ∧ ∃ index, (bench.run limit job).2.timeline.Barred index) ∨
        ∃ kind after, Timeline.Waits ((bench.timeline.begin kind job).1 :: bench.driven) none
          Timeline.patience (bench.timeline.begin kind job).2 after := by
  have ends (kind : CallKind) := by
    have begun := reached.sound.begin_call kind job
    refine @awaitCall_ends _ _ { bench with timeline := (bench.timeline.begin kind job).2 }
      poolSize capacity (reached.sound.begun kind job) (bench.timeline.begin kind job).1 kind ?_ ?_
    · exact List.getElem?_map.trans (congrArg (Option.map _) begun)
    · rw [Call.stage?, begun]
      exact fun same => by cases same
  cases limit with
  | none =>
    obtain told | ⟨-, shut⟩ | ⟨after, waits⟩ := ends .patient
    · exact .inl told
    · exact .inr (.inl ⟨rfl, shut⟩)
    · exact .inr (.inr ⟨.patient, after, waits⟩)
  | some milliseconds =>
    obtain told | ⟨untimed, -⟩ | ⟨after, waits⟩ := ends (.timed milliseconds)
    · exact .inl told
    · cases untimed
    · exact .inr (.inr ⟨.timed milliseconds, after, waits⟩)

/-- A job behind a gate that nobody opens, with and without a limit, and one that sleeps. -/
example :
    let bench : Bench Unit Nat := .new 1 1 "worker" ()
    let shut : Job Unit Nat := .gate "door" (.ofOutcome (.value 7))
    (bench.run none shut).1 = none ∧ (bench.run (some 5) shut).1 = some (.error (.timeout 5)) ∧
      (bench.run (some 5) (.sleep 3 (.ofOutcome (.value 7)))).1 = some (.ok 7) :=
  ⟨rfl, rfl, rfl⟩

/-- The job whose reply can be waited for under a name. -/
def jobNamed? (bench : Bench World Content) (name : String) : Option (Job World Content) :=
  ((find? name bench.futures).orElse fun _ => find? name bench.tasks).bind
    (bench.timeline.jobs[·]?)

/-- A job that is queued under a name is the one that the name stands for. -/
theorem tryRun_names {name : String} {job : Job World Content}
    (accepted : (bench.tryRun name job).1 = none) :
    (bench.tryRun name job).2.jobNamed? name = some job := by
  have known := (bench.tryRun_begun_leads name job).job (bench.timeline.begin_job .immediate job)
  have filed : find? name (bench.tryRun name job).2.futures =
      some (bench.timeline.begin .immediate job).1 := by
    unfold tryRun at accepted ⊢
    simp only at accepted ⊢
    split at accepted
    · cases accepted
    · simp [find?]
  rw [jobNamed?, filed]
  exact known

/-- Who waits for the reply under a name is told about the job that the name stands for. -/
theorem awaitNamed_tells (reached : Reachable poolSize capacity bench) {name : String}
    {job : Job World Content} (named : bench.jobNamed? name = some job)
    {reply : Except ExecutorError Content} (told : (bench.awaitNamed name).1 = some reply) :
    job.Tells reply := by
  unfold jobNamed? at named
  unfold awaitNamed at told
  split at told
  · rename_i call found
    rw [found] at named
    exact @awaitCall_tells _ _ { bench with futures := _ } _ _ reached.sound _ _ named _ told
  · rename_i absent
    rw [absent] at named
    split at told
    · rename_i call found
      rw [Option.orElse_none, found] at named
      exact @awaitCall_tells _ _ { bench with tasks := _ } _ _ reached.sound _ _ named _ told
    · cases told

/-- A shutdown leaves an executor that takes no jobs, and nobody owns it any more. -/
theorem shutdown_shuts (owned : bench.owned = true) :
    bench.shutdown.2.timeline.executor.isRunning = false ∧ bench.shutdown.2.info? = none := by
  refine ⟨?_, by rw [shutdown, if_pos owned]; rfl⟩
  exact beq_eq_false_iff_ne.mpr
    ((bench.shutdown_shut_leads owned).shut bench.timeline.closing_shut)

/-! ### Operations as jobs -/

section Operations

variable {State : Type} {bench : Bench (Session State) JobResult} {around : Surroundings State}
  {operation : Operation}

theorem Reachable.request (reached : Reachable poolSize capacity bench) :
    Reachable poolSize capacity (bench.request around operation).2 := by
  unfold Bench.request
  split
  · exact reached.run none _
  · exact reached

theorem Reachable.operate (reached : Reachable poolSize capacity bench) :
    Reachable poolSize capacity (bench.operate around operation).2 := by
  unfold Bench.operate
  split
  · exact reached.changed _
  · exact reached

/-- A result that a request has is the answer of the operation, in the state in which its turn
came. -/
theorem request_answers (reached : Reachable poolSize capacity bench) {result : JobResult}
    (told : (bench.request around operation).1 = some (.ok result)) :
    ∃ (session : Session State) (answer : Answer),
      (session.operate around operation).1 = .answer answer ∧ result = .answer answer := by
  have tells : (Job.ofOperation around operation).Tells (.ok result) := by
    unfold Bench.request at told
    split at told
    · exact run_tells reached told
    · cases told
  generalize same : (Except.ok result : Except ExecutorError JobResult) = reply at tells
  cases tells with
  | ended outcome gives =>
    obtain ⟨name, session, rfl⟩ := gives
    cases done : session.operate around operation with
    | mk response after =>
      simp only [Job.action, Job.ofOperation, done] at same
      cases response with
      | answer answer =>
        cases same
        exact ⟨session, answer, congrArg Prod.fst done, rfl⟩
      | _ => cases same
  | _ => cases same

end Operations

end Bench

end WalletBridge
