/-
This file shows that a block frees the object that it uses. However the block is left, and whatever
its body did to the object, the object is freed exactly once and no later than at the exit, the
release is counted as asked for by its owner, and the blocks inside have freed theirs by then.

The proof keeps the account of the session along the program. An object that a block uses has its
name for as long as the block is open, because nothing inside the block takes it away. That is why
the exit finds the object of the entry, and why the owner of a used object cannot go away before it
is freed.
-/

import WalletBridge.Proofs.ScopeAccount
import WalletBridge.Scripted

namespace WalletBridge

namespace Session

variable {State : Type} (around : Surroundings State)

namespace Account

variable {start : Host State} {log : ScopeLog} {blocks : List Resource} {session : Session State}

/-- The exit of the innermost block frees what it uses, unless that is done already. -/
theorem leave {resource : Resource} (account : Account start log (resource :: blocks) session) :
    Account start (.left resource :: log.release session resource.label .left) blocks
      (Program.leave around resource.label session) := by
  obtain ⟨isCurrent, isThere⟩ := account.inUse resource List.mem_cons_self
  obtain ⟨object, found⟩ := Option.isSome_iff_exists.mp isThere
  rw [Program.leave, ScopeLog.release, found]
  have disposed := account.dispose around .left found rfl fun _ => congrArg some isCurrent
  refine disposed.exit ?_
  -- The name stands for a released object now, so the account says how often it was freed.
  have here : (session.dispose around resource.label object).2.object? resource.label = _ :=
    object?_put_self _ _ _
  have gone := disposed.gone resource.label _ here (releaseObject_isLive _ _ _ _)
  have same := (disposed.inUse resource List.mem_cons_self).1
  rwa [← same] at gone

/-- A program is accounted for, and leaves the blocks that are open as they are. -/
theorem logged {program : Program} (account : Account start log blocks session)
    (keeps : program.keepsUsed (blocks.map (·.label)) = true) :
    let done := program.logged around session log
    Account start done.2.2 blocks done.2.1 := by
  induction program generalizing session log blocks with
  | finish => exact account
  | attempt operation rest inductionHypothesis =>
    obtain ⟨untaken, keepsRest⟩ := Bool.and_eq_true_iff.mp keeps
    have operated := account.operate around (by simpa using untaken)
    rcases done : session.operate around operation with ⟨response, after⟩
    simp only [done] at operated
    have onward := inductionHypothesis operated keepsRest
    simp only [Program.logged, done]
    cases response with
    | halted => exact operated
    | _ => exact onward
  | demand operation rest inductionHypothesis =>
    obtain ⟨untaken, keepsRest⟩ := Bool.and_eq_true_iff.mp keeps
    have operated := account.operate around (by simpa using untaken)
    have onward := inductionHypothesis operated keepsRest
    simp only [Program.logged]
    cases Program.endingOf (session.operate around operation).1 with
    | finished => exact onward
    | _ => exact operated
  | halt message => exact account
  | «using» target body rest inBody inRest =>
    obtain ⟨keepsBody, keepsRest⟩ := Bool.and_eq_true_iff.mp keeps
    cases found : session.object? target with
    | none =>
      simp only [Program.logged, found]
      exact account
    | some object =>
      have inside := inBody (account.enter found) keepsBody
      have left := inside.leave around
      have onward := inRest left keepsRest
      simp only [Program.logged, found]
      cases (Program.logged around body session (.entered (log.current target) :: log)).1.1 with
      | finished => exact onward
      | _ => exact left
  | catching body rest inBody inRest =>
    obtain ⟨keepsBody, keepsRest⟩ := Bool.and_eq_true_iff.mp keeps
    have inside := inBody account keepsBody
    have onward := inRest inside keepsRest
    simp only [Program.logged]
    cases (Program.logged around body session log).1.1 with
    | finished => exact onward
    | halted => exact onward
    | _ => exact inside

/-- The end of a session is accounted for: whatever is left goes away. -/
theorem close (account : Account start log [] session) :
    Account start (log.close session.objects) [] (session.close around) := by
  rw [Session.close]
  generalize objects : session.objects = entries
  induction entries generalizing session log with
  | nil => exact account
  | cons entry rest inductionHypothesis =>
    have found : session.object? entry.1 = some entry.2 := by simp [Session.object?, objects]
    refine inductionHypothesis (account.drop around found List.not_mem_nil) ?_
    show (session.remove entry.1).objects = rest
    rw [Session.remove, objects]
    exact Ordered.filter_head (objects ▸ account.ordered)

end Account

end Session

namespace Program

variable {State : Type}

/-! ### Scoped use -/

/-- What the log of a program says about the objects that blocks use. -/
structure FreesUsed (around : Surroundings State) (process : Host State) (program : Program) :
    Prop where
  /-- The log has no influence on the program. -/
  faithful :
    let ended := program.logged around ⟨process, []⟩ []
    (ended.1, ended.2.1) = program.run around ⟨process, []⟩
  /-- The free functions of objects are called as the log notes it, up to the close. -/
  releases :
    Crossing.objectReleases ((program.run around ⟨process, []⟩).2.close around).process.journal =
      (program.wholeLog around process).filterMap (·.crossing?) ++
        Crossing.objectReleases process.journal
  /-- The releases that are asked for are counted as such. -/
  explicit :
    ((program.run around ⟨process, []⟩).2.close around).process.lifecycle.explicit =
      (program.wholeLog around process).countP (·.isCounted .explicit) + process.lifecycle.explicit
  /-- So are those of objects whose owner goes away. -/
  byDrop :
    ((program.run around ⟨process, []⟩).2.close around).process.lifecycle.byDrop =
      (program.wholeLog around process).countP (·.isCounted .drop) + process.lifecycle.byDrop
  /-- Every block is left, the inner ones before the outer ones. -/
  balanced : (program.wholeLog around process).openBlocks = some []
  /-- What a block uses is freed exactly once, and not because its owner went away. -/
  once : ∀ resource, .entered resource ∈ program.wholeLog around process →
    (program.wholeLog around process).FreedOnce resource
  /-- It is freed no later than when the block is left, and by the exit only after what the blocks
  inside use. -/
  inOrder : (program.wholeLog around process).InOrder

/-- A block passes on how its body ended. -/
theorem using_passes_on (around : Surroundings State) {target : String} {object : Object}
    (body : Program) {session : Session State} (found : session.object? target = some object) :
    (run around (.using target body .finish) session).1 = (body.run around session).1 := by
  simp only [run, found]
  rcases body.run around session with ⟨⟨ending, responses⟩, inside⟩
  cases ending with
  | finished => simp only [List.append_nil]
  | _ => rfl

/-- Whatever a program does, every object that a block uses is freed exactly once, because its owner
asks for it, and no later than when the block is left, by whichever way; the blocks inside have
freed theirs by then. The only thing that a program may not do is to take an object away that an
open block has on loan. And a block ends as its body does. -/
theorem used_objects_freed_by_exit (around : Surroundings State) (process : Host State)
    (program : Program) (keeps : program.keepsUsed [] = true) :
    FreesUsed around process program ∧
      ∀ target object body (session : Session State), session.object? target = some object →
        (run around (.using target body .finish) session).1 = (body.run around session).1 := by
  have faithful := program.logged_run around ⟨process, []⟩ []
  have account : Session.Account process (program.wholeLog around process) []
      ((program.run around ⟨process, []⟩).2.close around) := by
    rw [← faithful]
    exact ((Session.Account.begin process).logged around keeps).close around
  refine ⟨⟨faithful, account.releases, account.explicit, account.byDrop, account.openBlocks,
    fun resource entered => ?_, account.inOrder⟩, fun _ _ body _ => using_passes_on around body⟩
  exact (account.used resource entered).resolve_left List.not_mem_nil

/-- Surroundings in which every path has a library. -/
def linkedSurroundings : Surroundings Scripted := ⟨Scripted.side, fun path => .ok (.complete path)⟩

/-- A program that halts inside two blocks after it has disposed of what the outer one uses, and
goes on from there. -/
def haltingProgram : Program :=
  .demand (.openMemory "ledger") <|
  .catching
    (.using "ledger"
      (.demand (.openWallet "savings" "ledger" "descriptor" none .testnet) <|
        .using "savings" (.attempt (.dispose "ledger") (.halt "broken")) .finish)
      .finish) <|
  .attempt (.drop "ledger") .finish

theorem used_objects_freed_by_exit_halting :
    let start : Host Scripted := .fresh none Scripted.fresh
    let closed :=
      ((haltingProgram.run linkedSurroundings ⟨start, []⟩).2.close linkedSurroundings).process
    (haltingProgram.wholeLog linkedSurroundings start =
        [.left ⟨"ledger", 1⟩, .left ⟨"savings", 1⟩,
         .freed ⟨"savings", 1⟩ 0 .wallet 2 .left, .freed ⟨"ledger", 1⟩ 0 .databaseConfig 1 .disposed,
         .entered ⟨"savings", 1⟩, .made ⟨"savings", 1⟩, .entered ⟨"ledger", 1⟩,
         .made ⟨"ledger", 1⟩] ∧
      Crossing.objectReleases closed.journal =
        [.released 0 (.object .wallet 2), .released 0 (.object .databaseConfig 1)] ∧
      closed.lifecycle = ⟨2, 2, 0⟩) ∧
    haltingProgram.keepsUsed [] = true ∧
      FreesUsed linkedSurroundings start haltingProgram ∧
      ∀ target object body (session : Session Scripted),
        session.object? target = some object →
          (run linkedSurroundings (.using target body .finish) session).1 =
            (body.run linkedSurroundings session).1 := by
  have keeps : haltingProgram.keepsUsed [] = true := by decide
  have shown := used_objects_freed_by_exit linkedSurroundings (.fresh none Scripted.fresh)
    haltingProgram keeps
  refine ⟨⟨by decide +kernel, ?_, by decide +kernel⟩, keeps, shown⟩
  exact shown.1.releases.trans rfl

end Program

end WalletBridge
