import LoopProgress.Proofs.HonestReports
import Mathlib.Algebra.BigOperators.Group.List.Basic
import Mathlib.Algebra.GroupWithZero.Nat
import Mathlib.Data.List.Induction
import Mathlib.Data.List.Nodup

namespace LoopProgress

namespace Kind

theorem all_nodup : all.Nodup := by
  decide

/-- What only one kind has is the sum of what they all have. -/
theorem sum_map_only (kind : Kind) (lines : Nat) :
    (all.map fun other => if other = kind then lines else 0).sum = lines := by
  cases kind <;> simp [all]

end Kind

namespace Summary

/-- The report that answers for a kind tells its lines. Without one there are none. -/
def linesOf (summary : Summary) (kind : Kind) : Nat :=
  ((summary.report? kind).map Report.lines).getD 0

/-- This total asks for every kind in turn. -/
def linesByKind (summary : Summary) : Nat :=
  (Kind.all.map summary.linesOf).sum

/-- A kind has a report if one of its kind is listed. -/
theorem report?_isSome_iff (summary : Summary) (kind : Kind) :
    (summary.report? kind).isSome = true ↔ kind ∈ summary.reports.map Report.kind := by
  simp [report?, List.find?_isSome]

/-- The report that answers for a kind is one of that kind. -/
theorem mem_of_report? {summary : Summary} {kind : Kind} {report : Report}
    (answered : summary.report? kind = some report) :
    report ∈ summary.reports ∧ report.kind = kind := by
  rw [report?] at answered
  exact ⟨List.mem_of_find?_eq_some answered,
    beq_iff_eq.mp (List.find?_some (p := fun report : Report => report.kind == kind) answered)⟩

theorem linesOf_concat (reports : List Report) (report : Report) (kind : Kind) :
    (Summary.mk (reports ++ [report])).linesOf kind =
      (Summary.mk reports).linesOf kind +
        if kind = report.kind then
          if ((Summary.mk reports).report? report.kind).isSome then 0 else report.lines
        else 0 := by
  rw [linesOf, linesOf, report?_append]
  by_cases same : kind = report.kind
  · subst same
    cases (Summary.mk reports).report? report.kind <;> simp [report?]
  · have other : (Summary.mk [report]).report? kind = none := by
      simp [report?, Ne.symm same]
    simp [other, same]

/-- A further report counts by its kind only if it is the first of that kind. -/
theorem linesByKind_concat (reports : List Report) (report : Report) :
    (Summary.mk (reports ++ [report])).linesByKind =
      (Summary.mk reports).linesByKind +
        if ((Summary.mk reports).report? report.kind).isSome then 0 else report.lines := by
  rw [linesByKind, List.map_congr_left fun kind _ => linesOf_concat reports report kind,
    List.sum_map_add, Kind.sum_map_only]
  rfl

theorem totalLines_concat (reports : List Report) (report : Report) :
    (Summary.mk (reports ++ [report])).totalLines =
      (Summary.mk reports).totalLines + report.lines := by
  simp

theorem linesByKind_le_totalLines (reports : List Report) :
    (Summary.mk reports).linesByKind ≤ (Summary.mk reports).totalLines := by
  -- Whether a report is the first of its kind depends on those in front of it, so the induction
  -- takes the reports away from behind.
  induction reports using List.reverseRecOn with
  | nil => decide
  | append_singleton reports report inductionHypothesis =>
      rw [linesByKind_concat, totalLines_concat]
      split <;> omega

/-- Only the lines of reports that are not the first of their kind can be missing. -/
theorem linesByKind_eq_totalLines_iff (reports : List Report) :
    (Summary.mk reports).linesByKind = (Summary.mk reports).totalLines ↔
      reports.Pairwise fun earlier later => earlier.kind = later.kind → later.lines = 0 := by
  induction reports using List.reverseRecOn with
  | nil => decide
  | append_singleton reports report inductionHypothesis =>
      have bound := linesByKind_le_totalLines reports
      have behind : (∀ earlier ∈ reports, earlier.kind = report.kind → report.lines = 0) ↔
          (((Summary.mk reports).report? report.kind).isSome = true → report.lines = 0) := by
        rw [report?_isSome_iff, List.mem_map, forall_exists_index]
        simp only [and_imp]
      simp only [List.pairwise_append, List.pairwise_singleton, List.forall_mem_singleton, true_and,
        behind, ← inductionHypothesis, linesByKind_concat, totalLines_concat]
      split
      · next repeated =>
          simp only [repeated, forall_const]
          omega
      · next first =>
          rw [Nat.add_right_cancel_iff]
          exact ⟨fun same => ⟨same, fun repeated => absurd repeated first⟩, And.left⟩

/-- Where no two reports are of the same kind, each one answers for its own. -/
theorem map_report?_of_nodup {summary : Summary}
    (distinct : (summary.reports.map Report.kind).Nodup) :
    (summary.reports.map Report.kind).map summary.report? = summary.reports.map some := by
  rw [List.map_map]
  apply List.map_congr_left
  intro report listed
  have present : (summary.report? report.kind).isSome = true :=
    (summary.report?_isSome_iff report.kind).mpr (List.mem_map_of_mem listed)
  obtain ⟨found, answered⟩ := Option.isSome_iff_exists.mp present
  obtain ⟨foundListed, sameKind⟩ := mem_of_report? answered
  have same : found = report := List.inj_on_of_nodup_map distinct foundListed listed sameKind
  rw [Function.comp_apply, answered, same]

theorem linesByKind_of_nodup {summary : Summary}
    (distinct : (summary.reports.map Report.kind).Nodup) :
    summary.linesByKind = summary.totalLines := by
  apply (linesByKind_eq_totalLines_iff summary.reports).mpr
  apply (List.pairwise_map.mp distinct).imp
  intro earlier later different sameKind
  exact absurd sameKind different

end Summary

namespace Plan

variable {outlet : Type} [Outlet outlet]

theorem ofSelection_eq_ofKinds (selection : List Kind) :
    (ofSelection selection : Plan outlet) =
      ofKinds (ofSelection selection : Plan outlet).kinds := by
  rw [kinds_ofSelection]
  rfl

theorem kinds_ofSelection_nodup (selection : List Kind) :
    (ofSelection selection : Plan outlet).kinds.Nodup := by
  rw [kinds_ofSelection]
  exact Kind.all_nodup.filter _

/-- A selection that runs to its end leaves one report of each kind, in order. -/
theorem reports_of_ofSelection {selection : List Kind} {start : outlet} {summary : Summary}
    (ended : ((ofSelection selection : Plan outlet).runOn start).outcome = .ok summary) :
    summary.reports.map Report.kind = (ofSelection selection : Plan outlet).kinds := by
  rw [ofSelection_eq_ofKinds] at ended
  exact (honest_of_ok ended).ofOwnKind

end Plan

namespace Summary

/-- To ask a summary kind by kind shows no line that the total does not count. It shows them all
unless a report that comes behind another of its kind tells of some. After a run of a selection
nothing is missing. Just the kinds of the plan have a report, and these are all the reports in
order. -/
theorem linesByKind_matches_totalLines :
    (∀ summary : Summary,
      summary.linesByKind ≤ summary.totalLines ∧
        (summary.linesByKind = summary.totalLines ↔
          summary.reports.Pairwise fun earlier later =>
            earlier.kind = later.kind → later.lines = 0)) ∧
    ∀ (outlet : Type) [Outlet outlet] (selection : List Kind) (start : outlet)
      (summary : Summary),
      let plan : Plan outlet := Plan.ofSelection selection
      (plan.runOn start).outcome = .ok summary →
        summary.linesByKind = summary.totalLines ∧
          (∀ kind, (summary.report? kind).isSome = true ↔ kind ∈ plan.kinds) ∧
          plan.kinds.map summary.report? = summary.reports.map some := by
  constructor
  · intro summary
    exact ⟨linesByKind_le_totalLines summary.reports, linesByKind_eq_totalLines_iff summary.reports⟩
  · intro outlet _ selection start summary plan ended
    have kinds : summary.reports.map Report.kind = plan.kinds := Plan.reports_of_ofSelection ended
    have distinct : (summary.reports.map Report.kind).Nodup :=
      kinds.symm ▸ Plan.kinds_ofSelection_nodup selection
    rw [← kinds]
    exact ⟨linesByKind_of_nodup distinct, summary.report?_isSome_iff, map_report?_of_nodup distinct⟩

/-- The room in this store is just enough for the two kinds that are selected. -/
theorem linesByKind_matches_totalLines_reselected :
    let store : LineStore := { settings := { limit := some 11 } }
    let plan : Plan LineStore := Plan.ofSelection [.nested, .guarded, .nested]
    let summary : Summary := ⟨[⟨.guarded, 4, 3⟩, ⟨.nested, 7, 4⟩]⟩
    (plan.runOn store).outcome = .ok summary ∧ summary.linesByKind = summary.totalLines ∧
      (summary.report? .accumulate).isSome = false ∧
      plan.kinds.map summary.report? = [some ⟨.guarded, 4, 3⟩, some ⟨.nested, 7, 4⟩] := by
  intro store plan summary
  have ended : (plan.runOn store).outcome = .ok summary := by decide +kernel
  obtain ⟨lines, present, reports⟩ :=
    linesByKind_matches_totalLines.2 LineStore [.nested, .guarded, .nested] store summary ended
  have absent : Kind.accumulate ∉ plan.kinds := by decide
  exact ⟨ended, lines, eq_false_of_ne_true (mt (present .accumulate).mp absent), reports⟩

end Summary

end LoopProgress
