import LoopProgress.Block
import LoopProgress.Log.Event

namespace LoopProgress

/-- A run tells of these events while it proceeds. -/
inductive RunEvent where
  | running (count : Nat)
  | started (kind : Kind)
  | finished (report : Report)
  | completed (total : Nat)
deriving DecidableEq

namespace RunEvent

def level : RunEvent → Level
  | .completed _ => .info
  | _ => .debug

def message : RunEvent → String
  | .running count => s!"Running {count} block(s)"
  | .started kind => s!"Starting block: {kind}"
  | .finished report =>
      s!"Finished block: {report.kind} ({report.lines} lines, final value {report.value})"
  | .completed total => s!"All blocks finished, {total} lines written"

/-- The events of a run come from this part of the program. -/
def target : String := "loop_demo::core::runner"

def logEvent (event : RunEvent) : LogEvent :=
  ⟨target, event.level, event.message⟩

end RunEvent

/-- A plan lists the blocks of a run in order. -/
structure Plan (outlet : Type) where
  blocks : List (Block outlet)

/-- A run ends with an outcome, the outlet it has written to and the events it told of. -/
structure Run (outlet : Type) where
  outcome : Except Failure Summary
  outlet : outlet
  events : List RunEvent

namespace Plan

variable {outlet : Type}

def kinds (plan : Plan outlet) : List Kind :=
  plan.blocks.map Block.kind

/-- Blocks run one after another. The first failure ends the run before the next block starts. -/
def runBlocks : List (Block outlet) → outlet → Except Failure (List Report) × outlet × List RunEvent
  | [], start => (.ok [], start, [])
  | block :: rest, start =>
      match block.run.on start with
      | (.error failure, stopped) => (.error failure, stopped, [.started block.kind])
      | (.ok report, next) =>
          let (reports, stopped, events) := runBlocks rest next
          (reports.map (report :: ·), stopped, .started block.kind :: .finished report :: events)

/-- The outlet is finished once, after every block has succeeded. -/
def runOn [Outlet outlet] (plan : Plan outlet) (start : outlet) : Run outlet :=
  let opening := RunEvent.running plan.blocks.length
  match runBlocks plan.blocks start with
  | (.error failure, stopped, events) => ⟨.error failure, stopped, opening :: events⟩
  | (.ok reports, written, events) =>
      match (finish : OutletM outlet Unit).on written with
      | (.error failure, stopped) => ⟨.error failure, stopped, opening :: events⟩
      | (.ok _, finished) =>
          let summary : Summary := ⟨reports⟩
          ⟨.ok summary, finished, opening :: events ++ [.completed summary.totalLines]⟩

/-- A failing block ends the run, and the outlet is not finished. -/
theorem runOn_of_blocks_fail [Outlet outlet] {plan : Plan outlet} {start stopped : outlet}
    {failure : Failure} {events : List RunEvent}
    (ran : runBlocks plan.blocks start = (.error failure, stopped, events)) :
    plan.runOn start = ⟨.error failure, stopped, .running plan.blocks.length :: events⟩ := by
  simp only [runOn, ran]

theorem runOn_of_finish_fails [Outlet outlet] {plan : Plan outlet} {start written stopped : outlet}
    {reports : List Report} {failure : Failure} {events : List RunEvent}
    (ran : runBlocks plan.blocks start = (.ok reports, written, events))
    (ended : (finish : OutletM outlet Unit).on written = (.error failure, stopped)) :
    plan.runOn start = ⟨.error failure, stopped, .running plan.blocks.length :: events⟩ := by
  simp only [runOn, ran, ended]

theorem runOn_of_finished [Outlet outlet] {plan : Plan outlet} {start written finished : outlet}
    {reports : List Report} {events : List RunEvent}
    (ran : runBlocks plan.blocks start = (.ok reports, written, events))
    (ended : (finish : OutletM outlet Unit).on written = (.ok (), finished)) :
    plan.runOn start =
      ⟨.ok ⟨reports⟩, finished,
        .running plan.blocks.length :: events ++ [.completed (Summary.mk reports).totalLines]⟩ := by
  simp only [runOn, ran, ended]

/-- Only blocks that all succeed let the outlet be finished, and then the finish decides. -/
theorem runOn_eq [Outlet outlet] (plan : Plan outlet) (start : outlet) :
    ((plan.runOn start).outcome, (plan.runOn start).outlet) =
      match runBlocks plan.blocks start with
      | (.error failure, stopped, _) => (.error failure, stopped)
      | (.ok reports, written, _) =>
          let (ended, last) := (finish : OutletM outlet Unit).on written
          (ended.map fun _ => ⟨reports⟩, last) := by
  rcases ran : runBlocks plan.blocks start with ⟨failure | reports, written, events⟩
  · rw [runOn_of_blocks_fail ran]
  · rcases ended : (finish : OutletM outlet Unit).on written with ⟨failure | ⟨⟩, last⟩
    · simp only [runOn_of_finish_fails ran ended, ended, Except.map]
    · simp only [runOn_of_finished ran ended, ended, Except.map]

/-- Plans in turn share one outlet. The first failure ends them all. -/
def runInTurn [Outlet outlet] : List (Plan outlet) → outlet → Except Failure (List Summary) × outlet
  | [], start => (.ok [], start)
  | plan :: rest, start =>
      match plan.runOn start with
      | ⟨.error failure, stopped, _⟩ => (.error failure, stopped)
      | ⟨.ok summary, next, _⟩ =>
          let (summaries, stopped) := runInTurn rest next
          (summaries.map (summary :: ·), stopped)

/-- A selection keeps the canonical order and no repeats. An empty one selects every kind. -/
def ofSelection [Outlet outlet] (selection : List Kind) : Plan outlet :=
  ⟨(Kind.all.filter fun kind => selection.isEmpty || selection.contains kind).map Kind.block⟩

theorem kinds_ofSelection [Outlet outlet] (selection : List Kind) :
    (ofSelection selection : Plan outlet).kinds =
      Kind.all.filter fun kind => selection.isEmpty || selection.contains kind := by
  simp [kinds, ofSelection, Function.comp_def]

/-- The standard plan runs one block of every kind. -/
def standard [Outlet outlet] : Plan outlet := ofSelection []

@[simp] theorem kinds_standard [Outlet outlet] : (standard : Plan outlet).kinds = Kind.all := by
  simp [standard, kinds_ofSelection]

end Plan

end LoopProgress
