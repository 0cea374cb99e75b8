import LoopProgress.Proofs.FailStop
import Mathlib.Algebra.GroupWithZero.Nat

namespace LoopProgress.Plan

variable {outlet : Type}

/-- These kinds are those whose start the events tell of. -/
def toldStarts (events : List RunEvent) : List Kind :=
  events.filterMap fun event =>
    match event with
    | .started kind => some kind
    | _ => none

theorem toldStarts_append (first second : List RunEvent) :
    toldStarts (first ++ second) = toldStarts first ++ toldStarts second :=
  List.filterMap_append

/-- The events of blocks that pass tell of the start of every block. -/
theorem Passes.toldStarts {blocks : List (Block outlet)} {start last : outlet}
    {reports : List Report} (passes : Passes blocks start reports last) :
    toldStarts (passedEvents blocks reports) = blocks.map Block.kind := by
  induction passes with
  | nil => rfl
  | cons _ _ inductionHypothesis =>
      simpa [Plan.toldStarts, passedEvents] using inductionHypothesis

/-- A detail of a run is logged with this message. -/
def detail (message : String) : LogEvent :=
  ⟨RunEvent.target, .debug, message⟩

/-- Each block that passed is logged by its own kind and then by its report. -/
def passedLog (blocks : List (Block outlet)) (reports : List Report) : List LogEvent :=
  (blocks.zip reports).flatMap fun (block, report) =>
    [detail s!"Starting block: {block.kind}",
      detail s!"Finished block: {report.kind} ({report.lines} lines, final value {report.value})"]

theorem logEvent_passedEvents (blocks : List (Block outlet)) (reports : List Report) :
    (passedEvents blocks reports).map RunEvent.logEvent = passedLog blocks reports := by
  induction blocks generalizing reports with
  | nil => rfl
  | cons block rest inductionHypothesis =>
      cases reports with
      | nil => rfl
      | cons report reports =>
          rw [passedEvents, List.map_cons, List.map_cons, inductionHypothesis]
          rfl

/-- The way in which a run ended determines its log. -/
def Ending.log (plan : Plan outlet) : Ending → List LogEvent
  | .blockFailed passed _ =>
      detail s!"Running {plan.blocks.length} block(s)" :: passedLog plan.blocks passed ++
        plan.blocks[passed.length]?.toList.map fun block =>
          detail s!"Starting block: {block.kind}"
  | .finishFailed reports _ =>
      detail s!"Running {plan.blocks.length} block(s)" :: passedLog plan.blocks reports
  | .completed reports =>
      detail s!"Running {plan.blocks.length} block(s)" :: passedLog plan.blocks reports ++
        [⟨RunEvent.target, .info,
          s!"All blocks finished, {(Summary.mk reports).totalLines} lines written"⟩]

/-- The log shows the events that go with an ending, and nothing else. -/
theorem Ending.logEvent_events (plan : Plan outlet) (ending : Ending) :
    (ending.events plan).map RunEvent.logEvent = ending.log plan := by
  cases ending with
  | blockFailed passed failure =>
      rw [events, List.map_append, List.map_cons, logEvent_passedEvents, List.map_map]
      rfl
  | finishFailed reports failure =>
      rw [events, List.map_cons, logEvent_passedEvents]
      rfl
  | completed reports =>
      rw [events, List.map_append, List.map_cons, logEvent_passedEvents]
      rfl

/-- Events tell of blocks that pass if they tell of these starts and reports, and beyond them of the
ending alone. -/
structure Tells (blocks : List (Block outlet)) (reports : List Report)
    (ending events : List RunEvent) : Prop where
  starts : toldStarts events = blocks.map Block.kind ++ toldStarts ending
  reports : toldReports events = reports ++ toldReports ending
  info : (∃ event ∈ events, event.level = .info) ↔ ∃ event ∈ ending, event.level = .info

theorem Passes.tells {blocks : List (Block outlet)} {start last : outlet} {reports : List Report}
    (passes : Passes blocks start reports last) (count : Nat) (ending : List RunEvent) :
    Tells blocks reports ending (.running count :: passedEvents blocks reports ++ ending) where
  starts := by
    rw [← passes.toldStarts, ← toldStarts_append]
    rfl
  reports := by
    have told := congrArg (· ++ Plan.toldReports ending) passes.toldReports
    simp only [← toldReports_append] at told
    exact told
  info := by
    have detailed : ∀ event ∈ passedEvents blocks reports, event.level ≠ .info := by
      induction passes with
      | nil => nofun
      | cons _ _ inductionHypothesis => simpa [passedEvents, RunEvent.level] using inductionHypothesis
    constructor
    · rintro ⟨event, listed, info⟩
      rcases List.mem_append.mp listed with opened | ended
      · rcases List.mem_cons.mp opened with rfl | passed
        · cases info
        · exact absurd info (detailed event passed)
      · exact ⟨event, ended, info⟩
    · rintro ⟨event, ended, info⟩
      exact ⟨event, List.mem_append_right _ ended, info⟩

/-- The log of a run gives away how it ended. -/
structure Ending.Logged (plan : Plan outlet) (run : Run outlet) (ending : Ending) : Prop where
  log : run.events.map RunEvent.logEvent = ending.log plan
  blockFailed : (∃ passed failure, ending = .blockFailed passed failure) ↔
    (toldStarts run.events).length = (toldReports run.events).length + 1
  failing (passed : List Report) (failure : Failure) : ending = .blockFailed passed failure →
    ∃ block, plan.blocks[passed.length]? = some block ∧
      (toldStarts run.events).getLast? = some block.kind
  finishFailed : (∃ reports failure, ending = .finishFailed reports failure) ↔
    (toldReports run.events).length = plan.blocks.length ∧
      ¬ ∃ event ∈ run.events, event.level = .info
  completed : (∃ summary, run.outcome = .ok summary) ↔ ∃ event ∈ run.events, event.level = .info
  total (summary : Summary) : run.outcome = .ok summary →
    summary.totalLines = ((toldReports run.events).map Report.lines).sum

theorem totalLines_eq_sum (reports : List Report) :
    (Summary.mk reports).totalLines = (reports.map Report.lines).sum := by
  induction reports with
  | nil => rfl
  | cons report rest inductionHypothesis =>
      rw [Summary.totalLines_cons, List.map_cons, List.sum_cons, inductionHypothesis]

namespace Ending

variable {plan : Plan outlet} {run : Run outlet} {start written : outlet}

theorem logged_of_block_fails {before behind : List (Block outlet)} {block : Block outlet}
    {passed : List Report} {failure : Failure} (listed : plan.blocks = before ++ block :: behind)
    (passes : Passes before start passed written) (outcome : run.outcome = .error failure)
    (told : run.events = (blockFailed passed failure).events plan) :
    Logged plan run (.blockFailed passed failure) := by
  have same := passes.length_eq
  have failing : plan.blocks[passed.length]? = some block := listed ▸ passes.getElem?_length
  have fewer : passed.length ≠ plan.blocks.length := by
    rw [listed, same, List.length_append, List.length_cons]
    omega
  have tells : Tells before passed [.started block.kind] run.events := by
    rw [told, events_blockFailed failure listed passes]
    exact passes.tells plan.blocks.length _
  have starts : toldStarts run.events = before.map Block.kind ++ [block.kind] := tells.starts
  have reports : toldReports run.events = passed := tells.reports.trans (List.append_nil _)
  have detailed : ¬ ∃ event ∈ run.events, event.level = .info := by
    rw [tells.info]
    simp [RunEvent.level]
  refine ⟨?_, ?_, ?_, ?_, ?_, ?_⟩
  · rw [told, logEvent_events]
  · simp [starts, reports, same]
  · intro _ _ same
    cases same
    exact ⟨block, failing, by simp [starts]⟩
  · simp [reports, fewer]
  · simp only [outcome, reduceCtorEq, exists_false, detailed]
  · intro _ succeeded
    cases outcome.symm.trans succeeded

theorem logged_of_finish_fails {reports : List Report} {failure : Failure}
    (passes : Passes plan.blocks start reports written) (outcome : run.outcome = .error failure)
    (told : run.events = (finishFailed reports failure).events plan) :
    Logged plan run (.finishFailed reports failure) := by
  have same := passes.length_eq
  have tells : Tells plan.blocks reports [] run.events := by
    have all := passes.tells plan.blocks.length []
    rwa [List.append_nil, ← events, ← told] at all
  have starts : toldStarts run.events = plan.blocks.map Block.kind :=
    tells.starts.trans (List.append_nil _)
  have reported : toldReports run.events = reports := tells.reports.trans (List.append_nil _)
  have detailed : ¬ ∃ event ∈ run.events, event.level = .info := by
    simp [tells.info]
  refine ⟨?_, ?_, ?_, ?_, ?_, ?_⟩
  · rw [told, logEvent_events]
  · simp [starts, reported, same]
  · intro _ _ impossible
    cases impossible
  · simp [reported, same, detailed]
  · simp only [outcome, reduceCtorEq, exists_false, detailed]
  · intro _ succeeded
    cases outcome.symm.trans succeeded

theorem logged_of_finished {reports : List Report}
    (passes : Passes plan.blocks start reports written) (outcome : run.outcome = .ok ⟨reports⟩)
    (told : run.events = (completed reports).events plan) :
    Logged plan run (.completed reports) := by
  have same := passes.length_eq
  have tells : Tells plan.blocks reports [.completed (Summary.mk reports).totalLines] run.events :=
    told ▸ passes.tells plan.blocks.length _
  have starts : toldStarts run.events = plan.blocks.map Block.kind :=
    tells.starts.trans (List.append_nil _)
  have reported : toldReports run.events = reports := tells.reports.trans (List.append_nil _)
  have info : ∃ event ∈ run.events, event.level = .info := by
    rw [tells.info]
    exact ⟨_, .head _, rfl⟩
  refine ⟨?_, ?_, nofun, ?_, ?_, ?_⟩
  · rw [told, logEvent_events]
  · simp [starts, reported, same]
  · simp [info]
  · simp only [outcome, info, Except.ok.injEq, exists_eq']
  · rw [outcome, reported]
    rintro _ ⟨⟩
    exact totalLines_eq_sum reports

/-- A run that has told of the events that go with its ending is logged so. -/
theorem logged [Outlet outlet] {ending : Ending} (describes : ending.Describes plan start run)
    (told : run.events = ending.events plan) : ending.Logged plan run := by
  cases ending with
  | blockFailed passed failure =>
      obtain ⟨before, block, behind, middle, listed, passes, -, outcome, -⟩ := describes
      exact logged_of_block_fails listed passes outcome told
  | finishFailed reports failure =>
      obtain ⟨written, passes, -, outcome⟩ := describes
      exact logged_of_finish_fails passes outcome told
  | completed reports =>
      obtain ⟨written, passes, -, outcome⟩ := describes
      exact logged_of_finished passes outcome told

end Ending

/-- The log of a run traces it to its end, however it ends. -/
theorem runOn_logs_its_ending [Outlet outlet] (plan : Plan outlet) (start : outlet) :
    ∃ ending : Ending, ending.Describes plan start (plan.runOn start) ∧
      ending.Logged plan (plan.runOn start) := by
  obtain ⟨ending, describes, told⟩ := exists_ending plan start
  exact ⟨ending, describes, Ending.logged describes told⟩

end LoopProgress.Plan
