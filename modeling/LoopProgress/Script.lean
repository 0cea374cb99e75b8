import LoopProgress.Block

namespace LoopProgress

/-- These lines are offered in order until one is refused. -/
def putLines {outlet : Type} [Outlet outlet] (lines : List String) : OutletM outlet Unit :=
  lines.forM putLine

section

variable {outlet : Type} [Outlet outlet]

@[simp] theorem putLines_nil : (putLines [] : OutletM outlet Unit) = pure () := rfl

theorem putLines_cons (line : String) (rest : List String) :
    (putLines (line :: rest) : OutletM outlet Unit) = (do putLine line; putLines rest) := rfl

theorem putLines_append (first second : List String) :
    (putLines (first ++ second) : OutletM outlet Unit) =
      (do putLines first; putLines second) := by
  simp [putLines]

end

/-- A script fixes the lines of a block before it runs, and how it ends once all are taken. -/
structure Script where
  kind : Kind
  lines : List String
  ending : Except Failure Report

namespace Script

/-- A script that is not told how to end reports its number of lines. -/
def plainReport (kind : Kind) (lines : List String) : Report :=
  ⟨kind, lines.length, 0⟩

/-- A failure of the script's own comes before its report. -/
def ofParts (kind : Kind) (lines : List String) (report : Option Report)
    (failure : Option Failure) : Script where
  kind := kind
  lines := lines
  ending :=
    match failure with
    | some failure => .error failure
    | none => .ok (report.getD (plainReport kind lines))

/-- The block of a script offers its lines and then ends as the script says. -/
def block {outlet : Type} [Outlet outlet] (script : Script) : Block outlet where
  kind := script.kind
  run := do
    putLines script.lines
    match script.ending with
    | .ok report => pure report
    | .error failure => throw failure

/-- Scripts in a row offer these lines. One that fails by itself is the last. -/
def linesOf : List Script → List String
  | [] => []
  | script :: rest =>
      match script.ending with
      | .ok _ => script.lines ++ linesOf rest
      | .error _ => script.lines

/-- Scripts in a row end with the first failure among them, or with every report. -/
def endingOf : List Script → Except Failure (List Report)
  | [] => .ok []
  | script :: rest =>
      match script.ending with
      | .ok report => (endingOf rest).map (report :: ·)
      | .error failure => .error failure

end Script

namespace Kind

/-- This sum adds the numbers below its bound. -/
def sumBelow : Nat → Nat
  | 0 => 0
  | bound + 1 => sumBelow bound + bound

/-- These lines are fixed for the counted loop: each term with the sum up to it, then the end. -/
def accumulateLines (terms : Nat) : List String :=
  (List.range terms).map (fun term => s!"i = {term}, total = {sumBelow (term + 1)}") ++
    ["For loop finished"]

/-- These lines are fixed for the guarded loop: each count from one on, then the end. -/
def guardedLines (limit : Nat) : List String :=
  (List.range limit).map (fun below => s!"count = {below + 1}") ++ ["While loop finished"]

/-- These lines are fixed for the nested loop: each row of pairs with its mark, then the end. -/
def nestedLines (rows columns : Nat) : List String :=
  (List.range rows).flatMap (fun row =>
    (List.range columns).map (fun column => s!"i = {row}, j = {column}") ++
      ["Inner loop finished"]) ++
    ["All loops finished"]

/-- The lines of a kind are those that its block writes. -/
def lines : Kind → List String
  | .accumulate => accumulateLines 5
  | .guarded => guardedLines 3
  | .nested => nestedLines 2 2

/-- The last counter of a kind is its sum, its count or its number of pairs. -/
def value : Kind → Nat
  | .accumulate => sumBelow 5
  | .guarded => 3
  | .nested => 2 * 2

/-- The script of a kind is the flat form of its loops. -/
def script (kind : Kind) : Script where
  kind := kind
  lines := kind.lines
  ending := .ok ⟨kind, kind.lines.length, kind.value⟩

end Kind

end LoopProgress
