import LoopProgress.Proofs.Unrolling

namespace LoopProgress

variable {outlet : Type} [Outlet outlet]

/-- A block of this kind reports so once all its lines are taken. -/
def Kind.report (kind : Kind) : Report :=
  ⟨kind, kind.lines.length, kind.value⟩

namespace Script

/-- A script ends as it says once all its lines are taken. -/
theorem block_run_on (script : Script) (start : outlet) :
    (script.block : Block outlet).run.on start =
      match (putLines script.lines : OutletM outlet Unit).on start with
      | (.ok _, written) => (script.ending, written)
      | (.error failure, stopped) => (.error failure, stopped) := by
  rw [block, OutletM.on_bind]
  rcases (putLines script.lines : OutletM outlet Unit).on start with ⟨failure | ⟨⟩, next⟩
  · rfl
  · cases script.ending <;> rfl

/-- The scripts of kinds end well, so none of them hides the next. -/
theorem linesOf_kinds (kinds : List Kind) :
    linesOf (kinds.map Kind.script) = kinds.flatMap Kind.lines := by
  induction kinds with
  | nil => rfl
  | cons kind rest inductionHypothesis =>
      rw [List.map_cons, List.flatMap_cons, ← inductionHypothesis]
      rfl

theorem endingOf_kinds (kinds : List Kind) :
    endingOf (kinds.map Kind.script) = .ok (kinds.map Kind.report) := by
  induction kinds with
  | nil => rfl
  | cons kind rest inductionHypothesis =>
      rw [List.map_cons, endingOf, inductionHypothesis]
      rfl

end Script

namespace Plan

/-- Scripts in a row do what one script does that holds all their lines, up to the first that fails
by itself. -/
theorem runBlocks_scripts (scripts : List Script) (start : outlet) :
    (runBlocks (scripts.map Script.block) start).1 =
        (((putLines (Script.linesOf scripts) : OutletM outlet Unit).on start).1.bind fun _ =>
          Script.endingOf scripts) ∧
      (runBlocks (scripts.map Script.block) start).2.1 =
        ((putLines (Script.linesOf scripts) : OutletM outlet Unit).on start).2 := by
  induction scripts generalizing start with
  | nil => exact ⟨rfl, rfl⟩
  | cons script rest inductionHypothesis =>
      have step := script.block_run_on start
      rcases written : (putLines script.lines : OutletM outlet Unit).on start with
        ⟨failure | ⟨⟩, next⟩
      · -- A refused line is seen by both sides, whatever the script says of its end.
        rw [written] at step
        cases ending : script.ending <;>
          simp [runBlocks, step, Script.linesOf, ending, putLines_append, OutletM.on_bind, written,
            Except.bind]
      · rw [written] at step
        cases ending : script.ending with
        | error failure =>
            simp [runBlocks, step, Script.linesOf, Script.endingOf, ending, written, Except.bind]
        | ok report =>
            obtain ⟨outcome, stopped⟩ := inductionHypothesis next
            simp only [List.map_cons, runBlocks, step, ending, Script.linesOf, Script.endingOf,
              putLines_append, OutletM.on_bind, written, outcome, stopped, and_true]
            rcases (putLines (Script.linesOf rest) : OutletM outlet Unit).on next with
              ⟨failure | ⟨⟩, last⟩ <;> rfl

/-- A plan of scripts offers all their lines first as far as anyone can tell. Only if every line is
taken does it matter how the scripts end, and only if all end well is the outlet finished. -/
theorem runOn_scripts {plan : Plan outlet} {scripts : List Script}
    (listed : plan.blocks = scripts.map Script.block) (start : outlet) :
    ((plan.runOn start).outcome, (plan.runOn start).outlet) =
      match (putLines (Script.linesOf scripts) : OutletM outlet Unit).on start with
      | (.error failure, stopped) => (.error failure, stopped)
      | (.ok _, written) =>
          match Script.endingOf scripts with
          | .error failure => (.error failure, written)
          | .ok reports =>
              match (finish : OutletM outlet Unit).on written with
              | (.error failure, stopped) => (.error failure, stopped)
              | (.ok _, finished) => (.ok ⟨reports⟩, finished) := by
  obtain ⟨outcome, stopped⟩ := runBlocks_scripts scripts start
  rw [plan.runOn_eq, listed]
  rcases ran : runBlocks (scripts.map Script.block) start with ⟨result, after, events⟩
  rcases written : (putLines (Script.linesOf scripts) : OutletM outlet Unit).on start with
    ⟨failure | ⟨⟩, last⟩
  · rw [ran, written] at outcome stopped
    change result = .error failure at outcome
    change after = last at stopped
    rw [outcome, stopped]
  · rw [ran, written] at outcome stopped
    change result = Script.endingOf scripts at outcome
    change after = last at stopped
    rw [outcome, stopped]
    cases Script.endingOf scripts with
    | error failure => rfl
    | ok reports =>
        rcases ended : (finish : OutletM outlet Unit).on last with ⟨failure | ⟨⟩, finished⟩ <;>
          simp only [ended, Except.map]

end Plan

/-- The requested blocks are the blocks of their scripts. -/
theorem PlanRequest.blocks_plan (requests : List BlockRequest) :
    ((PlanRequest.blocks requests).plan : Plan outlet).blocks =
      (requests.map BlockRequest.script).map Script.block := by
  simp [plan, List.map_map, Function.comp_def, BlockRequest.block_eq_script]

/-- A selection of kinds runs their scripts in the canonical order. -/
theorem Plan.ofSelection_blocks (selection : List Kind) :
    (ofSelection selection : Plan outlet).blocks =
      ((Kind.all.filter fun kind => selection.isEmpty || selection.contains kind).map
        Kind.script).map Script.block := by
  simp [ofSelection, List.map_map, Function.comp_def, Kind.block_eq_script]

end LoopProgress
