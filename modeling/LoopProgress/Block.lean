import LoopProgress.Outlet
import LoopProgress.Report

namespace LoopProgress

/-- A block writes to an outlet and reports what it did. -/
structure Block (outlet : Type) where
  kind : Kind
  run : OutletM outlet Report

namespace Block

variable {outlet : Type} [Outlet outlet]

/-- A tally counts the accepted lines of a loop beside the value the loop computes. -/
structure Tally where
  lines : Nat
  value : Nat

/-- The last line of a block counts like any other. -/
def close (kind : Kind) (line : String) (tally : Tally) : OutletM outlet Report := do
  putLine line
  return ⟨kind, tally.lines + 1, tally.value⟩

/-- This step adds one term and shows the total so far. -/
def addTerm (tally : Tally) (term : Nat) : OutletM outlet Tally := do
  let total := tally.value + term
  putLine s!"i = {term}, total = {total}"
  return ⟨tally.lines + 1, total⟩

/-- The counted loop sums the numbers below its bound. -/
def accumulate (terms : Nat) : OutletM outlet Report := do
  let tally ← (List.range terms).foldlM addTerm ⟨0, 0⟩
  close .accumulate "For loop finished" tally

/-- The guarded loop counts up as long as the count is below the limit. -/
def countTo (limit : Nat) (tally : Tally) : OutletM outlet Tally :=
  if tally.value < limit then do
    let count := tally.value + 1
    putLine s!"count = {count}"
    countTo limit ⟨tally.lines + 1, count⟩
  else
    return tally
termination_by limit - tally.value

def guarded (limit : Nat) : OutletM outlet Report := do
  let tally ← countTo limit ⟨0, 0⟩
  close .guarded "While loop finished" tally

/-- This step of the inner loop shows one pair and counts it. -/
def visitPair (row : Nat) (tally : Tally) (column : Nat) : OutletM outlet Tally := do
  putLine s!"i = {row}, j = {column}"
  return ⟨tally.lines + 1, tally.value + 1⟩

/-- This step of the outer loop runs the inner loop and marks its end. -/
def visitRow (columns : Nat) (tally : Tally) (row : Nat) : OutletM outlet Tally := do
  let visited ← (List.range columns).foldlM (visitPair row) tally
  putLine "Inner loop finished"
  return ⟨visited.lines + 1, visited.value⟩

/-- The nested loop visits every pair of a row and a column. -/
def nested (rows columns : Nat) : OutletM outlet Report := do
  let tally ← (List.range rows).foldlM (visitRow columns) ⟨0, 0⟩
  close .nested "All loops finished" tally

end Block

/-- Each kind stands for one block with fixed bounds. -/
def Kind.block {outlet : Type} [Outlet outlet] (kind : Kind) : Block outlet where
  kind := kind
  run :=
    match kind with
    | .accumulate => Block.accumulate 5
    | .guarded => Block.guarded 3
    | .nested => Block.nested 2 2

@[simp] theorem Kind.block_kind {outlet : Type} [Outlet outlet] (kind : Kind) :
    (kind.block : Block outlet).kind = kind := rfl

end LoopProgress
