import LoopProgress.Proofs.Offered
import LoopProgress.Proofs.ScriptsInRow

namespace LoopProgress.Kind

variable {outlet : Type}

/-- Calls perform the script of a kind if all its lines were accepted in order, or if they break off
with the first line that was refused. The outcome says which, with the failure of that very line. -/
inductive Performs (kind : Kind) : List (Call outlet) → Except Failure Report → Prop where
  | whole {calls : List (Call outlet)} (lines : calls.map Call.line = kind.lines)
      (accepted : ∀ call ∈ calls, call.outcome = .ok ()) :
      Performs kind calls (.ok ⟨kind, kind.lines.length, kind.value⟩)
  | brokenOff {before : List (Call outlet)} {last : Call outlet} {unread : List String}
      {failure : Failure} (lines : kind.lines = before.map Call.line ++ last.line :: unread)
      (accepted : ∀ call ∈ before, call.outcome = .ok ()) (refused : last.outcome = .error failure) :
      Performs kind (before ++ [last]) (.error failure)

/-- Lines of a kind that were offered in order perform its script. -/
theorem performs_of_offered {kind : Kind} {calls : List (Call outlet)}
    {outcome : Except Failure Unit} (offered : Offered kind.lines calls outcome) :
    kind.Performs calls (outcome.map fun _ => kind.report) := by
  cases ended : outcome with
  | ok _ =>
      obtain ⟨lines, accepted⟩ := offered.lines_of_ok ended
      exact .whole lines accepted
  | error failure =>
      obtain ⟨before, last, unread, rfl, lines, refused, accepted⟩ := offered.split_of_error ended
      exact .brokenOff lines accepted refused

variable [Outlet outlet]

/-- The loops of a block offer a flat list of lines and then report. -/
theorem block_run_eq (kind : Kind) :
    (kind.block : Block outlet).run = (do
      putLines kind.lines
      return kind.report) := by
  rw [kind.block_eq_script]
  rfl

theorem block_run_on (kind : Kind) (start : outlet) :
    (kind.block : Block outlet).run.on start =
      let (outcome, last) := (putLines kind.lines : OutletM outlet Unit).on start
      (outcome.map fun _ => kind.report, last) := by
  rw [block_run_eq, bind_pure_comp, OutletM.on_map]

/-- Whatever an outlet answers, a block performs its script and does nothing else. It never finishes
the outlet. -/
theorem block_performs_script (kind : Kind) (start : outlet) :
    (kind.block : Block outlet).run = (do
      putLines kind.lines
      return ⟨kind, kind.lines.length, kind.value⟩) ∧
    ∃ calls,
      let (outcome, last) := (kind.block : Block outlet).run.on start
      (kind.block : Block (Recorder outlet)).run.on ⟨start, [], []⟩ =
          (outcome, ⟨last, calls, []⟩) ∧
        Leads start calls last ∧ kind.Performs calls outcome := by
  refine ⟨kind.block_run_eq, ?_⟩
  let recorder : Recorder outlet := ⟨start, [], []⟩
  obtain ⟨calls, answer, last, ran, offered, leads⟩ := recorder.putLines_on kind.lines
  have recorded : (kind.block : Block (Recorder outlet)).run.on recorder =
      (answer.map fun _ => kind.report, ⟨last, calls, []⟩) := by
    rw [block_run_on, ran]
    rfl
  -- The recorder is left out again, since the outlet behind it answers as if it were alone.
  have shadowed : ((kind.block : Block (Recorder outlet)).run.on recorder).1 =
        ((kind.block : Block outlet).run.on start).1 ∧
      ((kind.block : Block (Recorder outlet)).run.on recorder).2.inner =
        ((kind.block : Block outlet).run.on start).2 :=
    Recorder.interchangeable_inner.block kind recorder start rfl
  rw [recorded] at shadowed
  have alone : (kind.block : Block outlet).run.on start =
      (answer.map fun _ => kind.report, last) :=
    Prod.ext shadowed.1.symm shadowed.2.symm
  rw [alone]
  exact ⟨calls, recorded, leads, performs_of_offered offered⟩

/-- The lines of the nested loop are these. -/
example : Kind.nested.lines =
    ["i = 0, j = 0", "i = 0, j = 1", "Inner loop finished",
      "i = 1, j = 0", "i = 1, j = 1", "Inner loop finished", "All loops finished"] := by
  decide

end LoopProgress.Kind
