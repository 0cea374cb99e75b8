import LoopProgress.Options
import LoopProgress.Plan

namespace LoopProgress

section Repeats

variable {α : Type} [BEq α] [LawfulBEq α]

theorem mem_eraseReps_loop (value first : α) (rest kept : List α) :
    value ∈ List.eraseRepsBy.loop (· == ·) first rest kept ↔ value ∈ kept ∨ value ∈ first :: rest := by
  induction rest generalizing first kept with
  | nil => simp [List.eraseRepsBy.loop, or_comm]
  | cons next rest inductionHypothesis =>
      rw [List.eraseRepsBy.loop]
      split
      · next same =>
          have equal := beq_iff_eq.mp same
          simp [inductionHypothesis, equal]
      · simp only [inductionHypothesis, List.mem_cons, or_assoc, or_left_comm]

/-- Only repeats are dropped. -/
theorem mem_eraseReps (value : α) (values : List α) : value ∈ values.eraseReps ↔ value ∈ values := by
  cases values with
  | nil => exact Iff.rfl
  | cons first rest => simp [List.eraseReps, List.eraseRepsBy, mem_eraseReps_loop]

end Repeats

namespace Options

/-- A kind is selected if it is requested, or if nothing is. -/
theorem mem_selection (options : Options) (kind : Kind) :
    kind ∈ options.selection ↔ options.blocks = [] ∨ kind ∈ options.blocks := by
  rw [selection]
  split
  · next empty =>
      have nothing := List.isEmpty_iff.mp empty
      simp [nothing, kind.mem_all]
  · next requested =>
      have something := mt List.isEmpty_iff.mpr requested
      rw [mem_eraseReps, List.mem_mergeSort]
      simp [something]

theorem selection_ne_nil (options : Options) : options.selection ≠ [] := by
  intro empty
  have member := options.mem_selection
  rw [empty] at member
  cases requested : options.blocks with
  | nil => exact absurd ((member .nested).mpr (.inl requested)) List.not_mem_nil
  | cons kind rest => exact absurd ((member kind).mpr (.inr (by simp [requested]))) List.not_mem_nil

/-- The options are in order if no kind is requested twice. -/
theorem check_eq_ok_iff (options : Options) : options.check = .ok () ↔ options.blocks.Nodup := by
  rw [check, requireDistinct_eq_ok_iff, firstRepeat?_eq_none_iff_nodup]

end Options

/-- A plan chosen by the selection runs what was requested, and everything if nothing was. -/
theorem Plan.ofSelection_selection {outlet : Type} [Outlet outlet] (options : Options) :
    (ofSelection options.selection : Plan outlet) = ofSelection options.blocks := by
  have same (kind : Kind) :
      (options.selection.isEmpty || options.selection.contains kind) =
        (options.blocks.isEmpty || options.blocks.contains kind) := by
    rw [Bool.eq_iff_iff]
    simp [options.selection_ne_nil, options.mem_selection]
  simp only [ofSelection, same]

end LoopProgress
