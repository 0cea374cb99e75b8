import LoopProgress.Kind

namespace LoopProgress

/-- A report records what one block did. Its value is the block's last counter. -/
structure Report where
  kind : Kind
  lines : Nat
  value : Int
deriving DecidableEq

/-- This form shows every field of a report. -/
def Report.describe (report : Report) : String :=
  "BlockReport \x7b kind: " ++ report.kind.label ++ ", lines_written: " ++
    toString report.lines ++ ", final_value: " ++ toString report.value ++ " \x7d"

/-- A summary keeps the reports of a run in the order in which the blocks finished. -/
structure Summary where
  reports : List Report := []
deriving DecidableEq

/-- This total counts the lines of every report. -/
def Summary.totalLines (summary : Summary) : Nat :=
  summary.reports.foldr (fun report total => report.lines + total) 0

@[simp] theorem Summary.totalLines_nil : (Summary.mk []).totalLines = 0 := rfl

@[simp] theorem Summary.totalLines_cons (report : Report) (reports : List Report) :
    (Summary.mk (report :: reports)).totalLines =
      report.lines + (Summary.mk reports).totalLines := rfl

@[simp] theorem Summary.totalLines_append (first second : List Report) :
    (Summary.mk (first ++ second)).totalLines =
      (Summary.mk first).totalLines + (Summary.mk second).totalLines := by
  induction first with
  | nil => simp
  | cons report reports inductionHypothesis => simp [inductionHypothesis, Nat.add_assoc]

/-- The first report of a kind answers for that kind. -/
def Summary.report? (summary : Summary) (kind : Kind) : Option Report :=
  summary.reports.find? fun report => report.kind == kind

theorem Summary.report?_append (first second : List Report) (kind : Kind) :
    (Summary.mk (first ++ second)).report? kind =
      ((Summary.mk first).report? kind).or ((Summary.mk second).report? kind) := by
  simp [report?, List.find?_append]

/-- This form shows every report of a summary. -/
def Summary.describe (summary : Summary) : String :=
  "RunSummary \x7b reports: [" ++ ", ".intercalate (summary.reports.map Report.describe) ++
    "] \x7d"

end LoopProgress
