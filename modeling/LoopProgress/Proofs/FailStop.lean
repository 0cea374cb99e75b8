import LoopProgress.Plan.Passes
import Mathlib.Logic.ExistsUnique

namespace LoopProgress.Plan

variable {outlet : Type}

/-- A run ends with the first failure of a block, with a failure to finish, or with all reports. -/
inductive Ending where
  | blockFailed (passed : List Report) (failure : Failure)
  | finishFailed (reports : List Report) (failure : Failure)
  | completed (reports : List Report)

/-- This relation says what a run has done if it has ended in this way.

If a block fails, the outlet is as that block left it. The blocks behind it and the way in which
the outlet finishes play no part. Otherwise the outlet is finished once, from where the last block
left it. -/
def Ending.Describes [Outlet outlet] (plan : Plan outlet) (start : outlet) (run : Run outlet) :
    Ending → Prop
  | .blockFailed passed failure =>
      ∃ before block behind middle, plan.blocks = before ++ block :: behind ∧
        Passes before start passed middle ∧
        block.run.on middle = (.error failure, run.outlet) ∧ run.outcome = .error failure ∧
        ∀ (others : List (Block outlet)) (other : Outlet outlet),
          let changed := @runOn outlet other ⟨before ++ block :: others⟩ start
          changed.outcome = run.outcome ∧ changed.outlet = run.outlet
  | .finishFailed reports failure =>
      ∃ written, Passes plan.blocks start reports written ∧
        (finish : OutletM outlet Unit).on written = (.error failure, run.outlet) ∧
        run.outcome = .error failure
  | .completed reports =>
      ∃ written, Passes plan.blocks start reports written ∧
        (finish : OutletM outlet Unit).on written = (.ok (), run.outlet) ∧
        run.outcome = .ok ⟨reports⟩

/-- A run that ends in this way has told of these events. -/
def Ending.events (plan : Plan outlet) : Ending → List RunEvent
  | .blockFailed passed _ =>
      .running plan.blocks.length :: passedEvents plan.blocks passed ++
        plan.blocks[passed.length]?.toList.map fun block => .started block.kind
  | .finishFailed reports _ => .running plan.blocks.length :: passedEvents plan.blocks reports
  | .completed reports =>
      .running plan.blocks.length :: passedEvents plan.blocks reports ++
        [.completed (Summary.mk reports).totalLines]

theorem Ending.events_blockFailed {plan : Plan outlet} {before behind : List (Block outlet)}
    {block : Block outlet} {start middle : outlet} {passed : List Report} (failure : Failure)
    (listed : plan.blocks = before ++ block :: behind)
    (passes : Passes before start passed middle) :
    (blockFailed passed failure).events plan =
      .running plan.blocks.length :: (passedEvents before passed ++ [.started block.kind]) := by
  rw [events, listed, passes.getElem?_length, passes.passedEvents_append]
  rfl

/-- What the blocks of a plan come to decides how its run can have ended. -/
theorem Ending.runBlocks_of_describes [Outlet outlet] {plan : Plan outlet} {start : outlet}
    {run : Run outlet} {ending : Ending} (describes : ending.Describes plan start run) :
    ∃ outcome stopped events, runBlocks plan.blocks start = (outcome, stopped, events) ∧
      ending = match outcome, (finish : OutletM outlet Unit).on stopped with
        | .error failure, _ => .blockFailed (toldReports events) failure
        | .ok reports, (.error failure, _) => .finishFailed reports failure
        | .ok reports, (.ok _, _) => .completed reports := by
  cases ending with
  | blockFailed passed failure =>
      obtain ⟨before, block, behind, middle, listed, passes, fails, -⟩ := describes
      refine ⟨_, _, _, listed ▸ runBlocks_of_fails passes fails, ?_⟩
      have told : toldReports (passedEvents before passed ++ [.started block.kind]) = passed := by
        rw [toldReports_append, passes.toldReports]
        exact List.append_nil passed
      rw [told]
  | finishFailed reports failure =>
      obtain ⟨written, passes, ended, -⟩ := describes
      exact ⟨_, _, _, runBlocks_of_passes passes, by simp only [ended]⟩
  | completed reports =>
      obtain ⟨written, passes, ended, -⟩ := describes
      exact ⟨_, _, _, runBlocks_of_passes passes, by simp only [ended]⟩

theorem Ending.unique [Outlet outlet] {plan : Plan outlet} {start : outlet} {run : Run outlet}
    {first second : Ending} (left : first.Describes plan start run)
    (right : second.Describes plan start run) : first = second := by
  obtain ⟨outcome, stopped, events, ran, rfl⟩ := runBlocks_of_describes left
  obtain ⟨outcome', stopped', events', ran', rfl⟩ := runBlocks_of_describes right
  rw [ran] at ran'
  cases ran'
  rfl

/-- The blocks behind a failing one do not run, and the outlet is not finished. -/
theorem runOn_of_fails (outletClass : Outlet outlet) {before behind : List (Block outlet)}
    {block : Block outlet} {start middle stopped : outlet} {reports : List Report}
    {failure : Failure} (passes : Passes before start reports middle)
    (fails : block.run.on middle = (.error failure, stopped)) :
    (runOn ⟨before ++ block :: behind⟩ start).outcome = .error failure ∧
      (runOn ⟨before ++ block :: behind⟩ start).outlet = stopped := by
  have ran : runBlocks (Plan.mk (before ++ block :: behind)).blocks start = _ :=
    runBlocks_of_fails passes fails
  rw [runOn_of_blocks_fail ran]
  exact ⟨rfl, rfl⟩

/-- Every run ends in one of the three ways, and it has told of the events that go with it. -/
theorem exists_ending [Outlet outlet] (plan : Plan outlet) (start : outlet) :
    ∃ ending : Ending, ending.Describes plan start (plan.runOn start) ∧
      (plan.runOn start).events = ending.events plan := by
  rcases ran : runBlocks plan.blocks start with ⟨failure | reports, written, events⟩
  · obtain ⟨before, block, behind, passed, middle, listed, passes, fails⟩ := fails_of_runBlocks ran
    have failed : runBlocks plan.blocks start = _ := listed ▸ runBlocks_of_fails passes fails
    rw [runOn_of_blocks_fail failed]
    exact ⟨.blockFailed passed failure,
      ⟨before, block, behind, middle, listed, passes, fails, rfl,
        fun _ other => runOn_of_fails other passes fails⟩,
      (Ending.events_blockFailed failure listed passes).symm⟩
  · have passes := passes_of_runBlocks ran
    have passed := runBlocks_of_passes passes
    rcases ended : (finish : OutletM outlet Unit).on written with ⟨failure | ⟨⟩, last⟩
    · rw [runOn_of_finish_fails passed ended]
      exact ⟨.finishFailed reports failure, ⟨written, passes, ended, rfl⟩, rfl⟩
    · rw [runOn_of_finished passed ended]
      exact ⟨.completed reports, ⟨written, passes, ended, rfl⟩, rfl⟩

/-- Every run ends in exactly one of the three ways, for any blocks and any outlet. -/
theorem runOn_has_one_ending [Outlet outlet] (plan : Plan outlet) (start : outlet) :
    ∃! ending : Ending, ending.Describes plan start (plan.runOn start) := by
  apply existsUnique_of_exists_of_unique
  · obtain ⟨ending, describes, -⟩ := exists_ending plan start
    exact ⟨ending, describes⟩
  · intro first second left right
    exact Ending.unique left right

end LoopProgress.Plan
