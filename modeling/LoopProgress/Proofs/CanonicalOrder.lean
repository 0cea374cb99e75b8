import LoopProgress.Proofs.Selection
import LoopProgress.Store.Buffer
import Mathlib.Data.List.Destutter
import Mathlib.Data.List.Sort

namespace LoopProgress

section Repeats

variable {α : Type} [DecidableEq α]

theorem eraseReps_loop_eq (first : α) (rest kept : List α) :
    List.eraseRepsBy.loop (· == ·) first rest kept =
      kept.reverse ++ rest.destutter' (· ≠ ·) first := by
  induction rest generalizing first kept with
  | nil => simp [List.eraseRepsBy.loop]
  | cons next rest inductionHypothesis =>
      by_cases same : first = next
      · simp [List.eraseRepsBy.loop, same, inductionHypothesis]
      · simp [List.eraseRepsBy.loop, beq_false_of_ne same, same, inductionHypothesis]

/-- Neighbours differ once repeats are dropped, and the order of the others stays. -/
theorem eraseReps_eq_destutter (values : List α) :
    values.eraseReps = values.destutter (· ≠ ·) := by
  cases values with
  | nil => rfl
  | cons first rest => exact eraseReps_loop_eq first rest []

end Repeats

namespace Kind

instance : Std.Irrefl ((· < ·) : Kind → Kind → Prop) :=
  ⟨fun kind => Nat.lt_irrefl kind.rank⟩

instance : Std.Antisymm ((· < ·) : Kind → Kind → Prop) :=
  ⟨fun _ _ before after => absurd after (Nat.lt_asymm before)⟩

instance : Trans ((· < ·) : Kind → Kind → Prop) (· < ·) (· < ·) :=
  ⟨fun before after => Nat.lt_trans before after⟩

theorem all_increasing : all.Pairwise (· < ·) := by
  decide

/-- Kinds in order increase strictly if no two neighbours are equal. -/
theorem increasing_of_isChain {kinds : List Kind}
    (ordered : kinds.Pairwise fun first second => first.rank ≤ second.rank)
    (apart : kinds.IsChain (· ≠ ·)) : kinds.Pairwise (· < ·) := by
  apply List.isChain_iff_pairwise.mp
  induction apart with
  | nil => exact .nil
  | singleton kind => exact .singleton kind
  | @cons_cons first second rest different _ inductionHypothesis =>
      obtain ⟨least, others⟩ := List.pairwise_cons.mp ordered
      have before : first.rank ≤ second.rank := least second (by simp)
      have ranks : first.rank ≠ second.rank := mt rank_injective different
      exact .cons_cons (Nat.lt_of_le_of_ne before ranks) (inductionHypothesis others)

end Kind

namespace Options

theorem selection_increasing (options : Options) : options.selection.Pairwise (· < ·) := by
  rw [selection]
  split
  · exact Kind.all_increasing
  · have transitive (first second third : Kind) (before : decide (first.rank ≤ second.rank) = true)
        (after : decide (second.rank ≤ third.rank) = true) :
        decide (first.rank ≤ third.rank) = true :=
      decide_eq_true (Nat.le_trans (of_decide_eq_true before) (of_decide_eq_true after))
    have total (first second : Kind) :
        (decide (first.rank ≤ second.rank) || decide (second.rank ≤ first.rank)) = true := by
      rw [Bool.or_eq_true, decide_eq_true_eq, decide_eq_true_eq]
      exact Nat.le_total first.rank second.rank
    have ordered := (List.pairwise_mergeSort transitive total options.blocks).imp of_decide_eq_true
    rw [eraseReps_eq_destutter]
    exact Kind.increasing_of_isChain (ordered.sublist (List.destutter_sublist ..))
      (List.isChain_destutter ..)

/-- To sort the request and drop repeats gives what a filter on the canonical order gives. -/
theorem selection_eq_filter (options : Options) :
    options.selection =
      Kind.all.filter fun kind => options.blocks.isEmpty || options.blocks.contains kind := by
  -- Both lists increase, so their members determine them.
  apply options.selection_increasing.eq_of_mem_iff (Kind.all_increasing.sublist List.filter_sublist)
  intro kind
  simp [options.mem_selection, kind.mem_all]

end Options

namespace Plan

variable {outlet : Type} [Outlet outlet]

theorem kinds_ofSelection_blocks (options : Options) :
    (ofSelection options.blocks : Plan outlet).kinds = options.selection := by
  rw [kinds_ofSelection, options.selection_eq_filter]

theorem kinds_ofSelection_selection (options : Options) :
    (ofSelection options.selection : Plan outlet).kinds = options.selection := by
  rw [ofSelection_selection, kinds_ofSelection_blocks]

/-- Only the kinds of a selection matter, not their order or their repeats. -/
theorem kinds_ofSelection_congr {first second : List Kind} (requested : first ≠ [])
    (requestedToo : second ≠ []) (same : ∀ kind, kind ∈ first ↔ kind ∈ second) :
    (ofSelection first : Plan outlet).kinds = (ofSelection second : Plan outlet).kinds := by
  rw [kinds_ofSelection, kinds_ofSelection]
  apply List.filter_congr
  intro kind _
  rw [Bool.eq_iff_iff]
  simp [requested, requestedToo, same kind]

end Plan

namespace Options

/-- The options select what a plan chosen by their blocks runs, and that plan is chosen by the
selection just as well. The selection follows the canonical order without repeats. -/
theorem selection_agrees_with_plan {outlet : Type} [Outlet outlet] (options : Options) :
    let kinds (selection : List Kind) := (Plan.ofSelection selection : Plan outlet).kinds
    kinds options.blocks = options.selection ∧
      kinds options.selection = options.selection ∧
      options.selection.Pairwise (· < ·) ∧
      options.selection.Sublist Kind.all ∧
      (∀ kind, kind ∈ options.selection ↔ options.blocks = [] ∨ kind ∈ options.blocks) ∧
      (∀ others, options.blocks ≠ [] → others ≠ [] →
        (∀ kind, kind ∈ options.blocks ↔ kind ∈ others) → kinds options.blocks = kinds others) ∧
      kinds (kinds options.blocks) = kinds options.blocks := by
  intro kinds
  have ofBlocks : kinds options.blocks = options.selection :=
    Plan.kinds_ofSelection_blocks options
  have ofSelection : kinds options.selection = options.selection :=
    Plan.kinds_ofSelection_selection options
  refine ⟨ofBlocks, ofSelection, options.selection_increasing, ?_, options.mem_selection, ?_, ?_⟩
  · rw [options.selection_eq_filter]
    exact List.filter_sublist
  · intro others requested requestedToo same
    exact Plan.kinds_ofSelection_congr requested requestedToo same
  · rw [ofBlocks, ofSelection]

/-- These requests differ in order and in repeats, and they lead to the same plan. -/
theorem selection_agrees_with_plan_reordered :
    let options : Options := { blocks := [.nested, .guarded, .nested] }
    let others : List Kind := [.guarded, .guarded, .nested]
    let kinds (selection : List Kind) := (Plan.ofSelection selection : Plan ByteBuffer).kinds
    options.blocks ≠ [] ∧ others ≠ [] ∧ (∀ kind, kind ∈ options.blocks ↔ kind ∈ others) ∧
      options.selection = [.guarded, .nested] ∧ kinds others = [.guarded, .nested] := by
  intro options others kinds
  have same : ∀ kind, kind ∈ options.blocks ↔ kind ∈ others := by
    intro kind
    cases kind <;> decide
  have selected : options.selection = [.guarded, .nested] :=
    options.selection_eq_filter.trans (by decide)
  obtain ⟨ofBlocks, -, -, -, -, sameKinds, -⟩ := @selection_agrees_with_plan ByteBuffer _ options
  have equal := sameKinds others (by decide) (by decide) same
  exact ⟨by decide, by decide, same, selected, equal.symm.trans (ofBlocks.trans selected)⟩

end Options

end LoopProgress
