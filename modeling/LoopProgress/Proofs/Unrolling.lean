import LoopProgress.Request

namespace LoopProgress

variable {outlet : Type} [Outlet outlet]

/-- The lines in front of an action can be offered in two batches. -/
theorem putLines_append_bind {α : Type} (first second : List String) (next : OutletM outlet α) :
    (do putLines (first ++ second); next) = (do putLines first; putLines second; next) := by
  rw [putLines_append, bind_assoc]

theorem putLines_singleton (line : String) :
    (putLines [line] : OutletM outlet Unit) = putLine line := by
  rw [putLines_cons, putLines_nil, bind_pure_unit]

namespace Block

/-- The last line of a block is one more line of its script. -/
theorem putLines_close (kind : Kind) (lines : List String) (line : String) (tally : Tally) :
    (do putLines lines; close kind line tally : OutletM outlet Report) = (do
      putLines (lines ++ [line])
      return ⟨kind, tally.lines + 1, tally.value⟩) := by
  rw [putLines_append_bind, putLines_singleton]
  rfl

theorem foldlM_addTerm (terms : Nat) :
    ((List.range terms).foldlM addTerm ⟨0, 0⟩ : OutletM outlet Tally) = (do
      putLines ((List.range terms).map fun term =>
        s!"i = {term}, total = {Kind.sumBelow (term + 1)}")
      return ⟨terms, Kind.sumBelow terms⟩) := by
  induction terms with
  | zero => rfl
  | succ terms inductionHypothesis =>
      rw [List.range_succ, List.foldlM_append, inductionHypothesis, List.map_append,
        putLines_append_bind, List.map_singleton, putLines_singleton, bind_assoc, pure_bind]
      simp only [List.foldlM_cons, List.foldlM_nil, bind_pure]
      rfl

theorem accumulate_eq (terms : Nat) :
    (accumulate terms : OutletM outlet Report) = (do
      putLines (Kind.accumulateLines terms)
      return ⟨.accumulate, terms + 1, Kind.sumBelow terms⟩) := by
  rw [accumulate, foldlM_addTerm, bind_assoc]
  simp only [pure_bind]
  exact putLines_close ..

/-- From any count on, the guarded loop shows the counts that are left. -/
theorem countTo_eq (limit : Nat) (tally : Tally) :
    (countTo limit tally : OutletM outlet Tally) = (do
      putLines ((List.range' tally.value (limit - tally.value)).map fun below =>
        s!"count = {below + 1}")
      return ⟨tally.lines + (limit - tally.value), max tally.value limit⟩) := by
  fun_induction @countTo outlet _ limit tally with
  | case1 tally below count inductionHypothesis =>
      have left : limit - tally.value = limit - (tally.value + 1) + 1 := by omega
      have counted : tally.lines + 1 + (limit - (tally.value + 1)) =
          tally.lines + (limit - (tally.value + 1) + 1) := by omega
      have highest : max (tally.value + 1) limit = max tally.value limit := by omega
      rw [inductionHypothesis, left, List.range'_succ, List.map_cons, putLines_cons, bind_assoc]
      simp only [count, counted, highest]
  | case2 tally above =>
      have left : limit - tally.value = 0 := by omega
      have highest : max tally.value limit = tally.value := by omega
      rw [left, highest]
      rfl

theorem guarded_eq (limit : Nat) :
    (guarded limit : OutletM outlet Report) = (do
      putLines (Kind.guardedLines limit)
      return ⟨.guarded, limit + 1, limit⟩) := by
  rw [guarded, countTo_eq, bind_assoc]
  simp only [pure_bind, Nat.sub_zero, Nat.zero_add, Nat.zero_max, ← List.range_eq_range']
  exact putLines_close ..

theorem foldlM_visitPair (row columns : Nat) (tally : Tally) :
    ((List.range columns).foldlM (visitPair row) tally : OutletM outlet Tally) = (do
      putLines ((List.range columns).map fun column => s!"i = {row}, j = {column}")
      return ⟨tally.lines + columns, tally.value + columns⟩) := by
  induction columns with
  | zero => rfl
  | succ columns inductionHypothesis =>
      rw [List.range_succ, List.foldlM_append, inductionHypothesis, List.map_append,
        putLines_append_bind, List.map_singleton, putLines_singleton, bind_assoc, pure_bind]
      simp only [List.foldlM_cons, List.foldlM_nil, bind_pure]
      rfl

/-- One row of the nested loop shows its pairs and its mark. -/
theorem visitRow_eq (columns : Nat) (tally : Tally) (row : Nat) :
    (visitRow columns tally row : OutletM outlet Tally) = (do
      putLines ((List.range columns).map (fun column => s!"i = {row}, j = {column}") ++
        ["Inner loop finished"])
      return ⟨tally.lines + (columns + 1), tally.value + columns⟩) := by
  rw [visitRow, foldlM_visitPair, putLines_append_bind, putLines_singleton, bind_assoc]
  rfl

theorem foldlM_visitRow (rows columns : Nat) :
    ((List.range rows).foldlM (visitRow columns) ⟨0, 0⟩ : OutletM outlet Tally) = (do
      putLines ((List.range rows).flatMap fun row =>
        (List.range columns).map (fun column => s!"i = {row}, j = {column}") ++
          ["Inner loop finished"])
      return ⟨rows * (columns + 1), rows * columns⟩) := by
  induction rows with
  | zero => simp
  | succ rows inductionHypothesis =>
      rw [List.range_succ, List.foldlM_append, inductionHypothesis, List.flatMap_append,
        putLines_append_bind, List.flatMap_singleton, bind_assoc, pure_bind, Nat.succ_mul,
        Nat.succ_mul]
      simp only [List.foldlM_cons, List.foldlM_nil, bind_pure, visitRow_eq]

theorem nested_eq (rows columns : Nat) :
    (nested rows columns : OutletM outlet Report) = (do
      putLines (Kind.nestedLines rows columns)
      return ⟨.nested, rows * (columns + 1) + 1, ((rows * columns : Nat) : Int)⟩) := by
  rw [nested, foldlM_visitRow, bind_assoc]
  simp only [pure_bind]
  exact putLines_close ..

end Block

namespace Kind

theorem length_accumulateLines (terms : Nat) : (accumulateLines terms).length = terms + 1 := by
  simp [accumulateLines]

theorem length_guardedLines (limit : Nat) : (guardedLines limit).length = limit + 1 := by
  simp [guardedLines]

theorem length_nestedLines (rows columns : Nat) :
    (nestedLines rows columns).length = rows * (columns + 1) + 1 := by
  simp [nestedLines, List.length_flatMap, List.map_const']

/-- The loops of a block do what its script says, whatever the outlet answers. -/
theorem block_eq_script (kind : Kind) : (kind.block : Block outlet) = kind.script.block := by
  cases kind with
  | accumulate =>
      simp only [block, Script.block, script, lines, value, Block.accumulate_eq,
        length_accumulateLines]
  | guarded =>
      simp only [block, Script.block, script, lines, value, Block.guarded_eq, length_guardedLines]
  | nested =>
      simp only [block, Script.block, script, lines, value, Block.nested_eq, length_nestedLines]

end Kind

/-- A requested block runs as its script. -/
theorem BlockRequest.block_eq_script (request : BlockRequest) :
    (request.block : Block outlet) = request.script.block := by
  cases request with
  | standard kind => exact kind.block_eq_script
  | scripted script => rfl

end LoopProgress
