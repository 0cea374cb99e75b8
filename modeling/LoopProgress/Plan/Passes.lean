import LoopProgress.Plan

namespace LoopProgress.Plan

variable {outlet : Type}

/-- Blocks pass if each one succeeds from where the one before it left the outlet. -/
inductive Passes : List (Block outlet) → outlet → List Report → outlet → Prop where
  | nil {start : outlet} : Passes [] start [] start
  | cons {block : Block outlet} {rest : List (Block outlet)} {start next last : outlet}
      {report : Report} {reports : List Report}
      (head : block.run.on start = (.ok report, next)) (tail : Passes rest next reports last) :
      Passes (block :: rest) start (report :: reports) last

namespace Passes

theorem length_eq {blocks : List (Block outlet)} {start last : outlet} {reports : List Report}
    (passes : Passes blocks start reports last) : reports.length = blocks.length := by
  induction passes with
  | nil => rfl
  | cons _ _ inductionHypothesis => exact congrArg (· + 1) inductionHypothesis

/-- Behind the blocks that pass, their reports count off the next block. -/
theorem getElem?_length {before behind : List (Block outlet)} {block : Block outlet}
    {start middle : outlet} {reports : List Report} (passes : Passes before start reports middle) :
    (before ++ block :: behind)[reports.length]? = some block := by
  rw [passes.length_eq, List.getElem?_append_right (Nat.le_refl _), Nat.sub_self]
  rfl

end Passes

/-- Blocks that pass tell of their start and their end in turn. -/
def passedEvents : List (Block outlet) → List Report → List RunEvent
  | block :: rest, report :: reports =>
      .started block.kind :: .finished report :: passedEvents rest reports
  | _, _ => []

/-- Blocks without a report tell of nothing. -/
theorem Passes.passedEvents_append {before : List (Block outlet)} {start middle : outlet}
    {reports : List Report} (passes : Passes before start reports middle)
    (behind : List (Block outlet)) :
    passedEvents (before ++ behind) reports = passedEvents before reports := by
  induction passes with
  | nil => cases behind <;> rfl
  | cons _ _ inductionHypothesis => simp [passedEvents, inductionHypothesis]

theorem runBlocks_of_passes {blocks : List (Block outlet)} {start last : outlet}
    {reports : List Report} (passes : Passes blocks start reports last) :
    runBlocks blocks start = (.ok reports, last, passedEvents blocks reports) := by
  induction passes with
  | nil => rfl
  | cons head _ inductionHypothesis =>
      simp [runBlocks, head, inductionHypothesis, passedEvents, Except.map]

theorem passes_of_runBlocks {blocks : List (Block outlet)} {start last : outlet}
    {reports : List Report} {events : List RunEvent}
    (ran : runBlocks blocks start = (.ok reports, last, events)) :
    Passes blocks start reports last := by
  induction blocks generalizing start reports events with
  | nil =>
      cases ran
      exact .nil
  | cons block rest inductionHypothesis =>
      rcases step : block.run.on start with ⟨failure | report, next⟩
      · simp [runBlocks, step] at ran
      · rcases tail : runBlocks rest next with ⟨failure | others, stopped, told⟩
        · simp [runBlocks, step, tail, Except.map] at ran
        · simp only [runBlocks, step, tail, Except.map, Prod.mk.injEq, Except.ok.injEq] at ran
          obtain ⟨rfl, rfl, -⟩ := ran
          exact .cons step (inductionHypothesis tail)

/-- The blocks before a failing one pass, and the blocks behind it do not matter. -/
theorem runBlocks_of_fails {before behind : List (Block outlet)} {block : Block outlet}
    {start middle stopped : outlet} {reports : List Report} {failure : Failure}
    (passes : Passes before start reports middle)
    (fails : block.run.on middle = (.error failure, stopped)) :
    runBlocks (before ++ block :: behind) start =
      (.error failure, stopped, passedEvents before reports ++ [.started block.kind]) := by
  induction passes with
  | nil => simp [runBlocks, fails, passedEvents]
  | cons head _ inductionHypothesis =>
      simp [runBlocks, head, inductionHypothesis fails, passedEvents, Except.map]

/-- A failing block has a first among those that fail, and the blocks before that one pass. -/
theorem fails_of_runBlocks {blocks : List (Block outlet)} {start stopped : outlet}
    {failure : Failure} {events : List RunEvent}
    (ran : runBlocks blocks start = (.error failure, stopped, events)) :
    ∃ before block behind reports middle, blocks = before ++ block :: behind ∧
      Passes before start reports middle ∧ block.run.on middle = (.error failure, stopped) := by
  induction blocks generalizing start events with
  | nil => simp [runBlocks] at ran
  | cons first rest inductionHypothesis =>
      rcases step : first.run.on start with ⟨early | report, next⟩
      · simp only [runBlocks, step, Prod.mk.injEq, Except.error.injEq] at ran
        obtain ⟨rfl, rfl, -⟩ := ran
        exact ⟨[], first, rest, [], start, rfl, .nil, step⟩
      · rcases tail : runBlocks rest next with ⟨late | others, last, told⟩
        · simp only [runBlocks, step, tail, Except.map, Prod.mk.injEq, Except.error.injEq] at ran
          obtain ⟨rfl, rfl, -⟩ := ran
          obtain ⟨before, block, behind, reports, middle, rfl, passes, fails⟩ :=
            inductionHypothesis tail
          exact ⟨first :: before, block, behind, report :: reports, middle, rfl,
            .cons step passes, fails⟩
        · simp [runBlocks, step, tail, Except.map] at ran

/-- These reports are those that the events tell of. -/
def toldReports (events : List RunEvent) : List Report :=
  events.filterMap fun event =>
    match event with
    | .finished report => some report
    | _ => none

theorem toldReports_append (first second : List RunEvent) :
    toldReports (first ++ second) = toldReports first ++ toldReports second :=
  List.filterMap_append

/-- The events of blocks that pass tell of every report. -/
theorem Passes.toldReports {blocks : List (Block outlet)} {start last : outlet}
    {reports : List Report} (passes : Passes blocks start reports last) :
    toldReports (passedEvents blocks reports) = reports := by
  induction passes with
  | nil => rfl
  | cons _ _ inductionHypothesis =>
      simpa [Plan.toldReports, passedEvents] using inductionHypothesis

end LoopProgress.Plan
