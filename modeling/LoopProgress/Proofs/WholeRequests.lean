import LoopProgress.Proofs.CanonicalOrder

namespace LoopProgress.Options

theorem selection_nodup (options : Options) : options.selection.Nodup :=
  options.selection_increasing.nodup

theorem length_selection_le (options : Options) : options.selection.length ≤ 3 := by
  rw [options.selection_eq_filter]
  exact List.length_filter_le _ Kind.all

/-- A selection of requested kinds keeps each of them once, so it never holds more than the
request. -/
theorem selection_subperm {options : Options} (requested : options.blocks ≠ []) :
    options.selection.Subperm options.blocks := by
  apply List.subperm_of_subset options.selection_nodup
  intro kind selected
  exact ((options.mem_selection kind).mp selected).resolve_left requested

theorem selection_perm_iff_length {options : Options} (requested : options.blocks ≠ []) :
    options.selection.Perm options.blocks ↔ options.selection.length = options.blocks.length := by
  constructor
  · exact List.Perm.length_eq
  · intro same
    exact (selection_subperm requested).perm_of_length_le (Nat.le_of_eq same.symm)

/-- A request passes the check exactly if the selection is the request in another order. -/
theorem check_eq_ok_iff_perm {options : Options} (requested : options.blocks ≠ []) :
    options.check = .ok () ↔ options.selection.Perm options.blocks := by
  rw [options.check_eq_ok_iff]
  constructor
  · intro distinct
    apply (List.perm_ext_iff_of_nodup options.selection_nodup distinct).mpr
    intro kind
    rw [options.mem_selection, or_iff_right requested]
  · intro perm
    exact perm.nodup_iff.mp options.selection_nodup

theorem check_of_nothing {options : Options} (nothing : options.blocks = []) :
    options.check = .ok () :=
  options.check_eq_ok_iff.mpr (nothing ▸ List.nodup_nil)

theorem check_error_of_ne_ok {options : Options} (refused : options.check ≠ .ok ()) :
    ∃ message, options.check = .error (.configuration message) := by
  cases checked : options.check with
  | ok _ => exact absurd checked refused
  | error failure =>
      obtain ⟨message, rfl⟩ := requireDistinct_error checked
      exact ⟨message, rfl⟩

/-- Beyond three kinds something must repeat. -/
theorem check_ne_ok_of_long {options : Options} (long : 3 < options.blocks.length) :
    options.check ≠ .ok () := by
  intro passed
  have requested : options.blocks ≠ [] := List.ne_nil_of_length_pos (by omega)
  have same := ((check_eq_ok_iff_perm requested).mp passed).length_eq
  have short := options.length_selection_le
  omega

/-- What a refused request asks for is the selection and some entries that it leaves out. -/
theorem exists_dropped_of_check_error {options : Options} {failure : Failure}
    (refused : options.check = .error failure) :
    ∃ dropped, dropped ≠ [] ∧ (options.selection ++ dropped).Perm options.blocks := by
  have failed : options.check ≠ .ok () := by
    rw [refused]
    nofun
  have requested : options.blocks ≠ [] := fun nothing => failed (check_of_nothing nothing)
  have whole : (options.selection ++ options.blocks.diff options.selection).Perm options.blocks :=
    List.subperm_append_diff_self_of_count_le fun kind _ =>
      (selection_subperm requested).count_le kind
  refine ⟨options.blocks.diff options.selection, ?_, whole⟩
  intro nothing
  rw [nothing, List.append_nil] at whole
  exact failed ((check_eq_ok_iff_perm requested).mpr whole)

/-- The check passes the requests that a plan carries out as a whole. Any other request holds an
entry that the plan would leave out without a word. -/
theorem check_passes_whole_requests {outlet : Type} [Outlet outlet] (options : Options) :
    let plan : Plan outlet := Plan.ofSelection options.selection
    (options.check = .ok () ↔ options.blocks = [] ∨ plan.kinds.Perm options.blocks) ∧
      (options.blocks ≠ [] →
        (plan.kinds.Perm options.blocks ↔ plan.blocks.length = options.blocks.length)) ∧
      (3 < options.blocks.length → ∃ message, options.check = .error (.configuration message)) ∧
      ∀ failure, options.check = .error failure →
        ∃ dropped, dropped ≠ [] ∧ (plan.kinds ++ dropped).Perm options.blocks := by
  intro plan
  have kinds : plan.kinds = options.selection := Plan.kinds_ofSelection_selection options
  have length : plan.blocks.length = options.selection.length := by
    rw [← kinds, Plan.kinds, List.length_map]
  rw [kinds, length]
  refine ⟨?_, selection_perm_iff_length,
    fun long => check_error_of_ne_ok (check_ne_ok_of_long long),
    fun _ => exists_dropped_of_check_error⟩
  by_cases nothing : options.blocks = []
  · simp [check_of_nothing nothing, nothing]
  · rw [check_eq_ok_iff_perm nothing, or_iff_right nothing]

/-- No two neighbours of this request are equal, and still a plan would leave one entry out. -/
theorem check_passes_whole_requests_apart :
    let options : Options := { blocks := [.nested, .accumulate, .guarded, .nested] }
    let plan : Plan ByteBuffer := Plan.ofSelection options.selection
    let failure : Failure := .configuration "block 'nested' given more than once"
    options.blocks ≠ [] ∧ 3 < options.blocks.length ∧ options.check = .error failure ∧
      plan.blocks.length ≠ options.blocks.length ∧
      ∃ dropped, dropped ≠ [] ∧ (plan.kinds ++ dropped).Perm options.blocks := by
  intro options plan failure
  have refused : options.check = .error failure := rfl
  obtain ⟨passes, whole, -, dropped⟩ := @check_passes_whole_requests ByteBuffer _ options
  have notWhole : ¬ plan.kinds.Perm options.blocks := fun perm =>
    nomatch (passes.mpr (.inr perm)).symm.trans refused
  exact ⟨by decide, by decide, refused, mt (whole (by decide)).mpr notWhole, dropped failure refused⟩

end LoopProgress.Options
