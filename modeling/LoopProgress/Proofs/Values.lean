import LoopProgress.CommandLine.Grammar

namespace LoopProgress

/-- Two actions in a row succeed if the first one does and the second one does with its value. -/
theorem bind_eq_ok_iff {ε α β : Type} {first : Except ε α} {next : α → Except ε β} {value : β} :
    (first >>= next) = .ok value ↔ ∃ middle, first = .ok middle ∧ next middle = .ok value := by
  cases first <;> simp [bind, Except.bind]

namespace CommandLine

theorem kindOf_eq_ok_iff {piece : Argument} {kind : Kind} :
    kindOf piece = .ok kind ↔ piece = Utf8.encode kind.name := by
  constructor
  · intro read
    unfold kindOf at read
    split at read
    · cases read
    · split at read
      · next found =>
          cases read
          have named := List.find?_some found
          exact (beq_iff_eq.mp named).symm
      · cases read
  · rintro rfl
    cases kind <;> rfl

/-- Every piece is read, so none of them can be anything but a name. -/
theorem mapM_kindOf_eq_ok_iff {pieces : List Argument} {kinds : List Kind} :
    pieces.mapM kindOf = .ok kinds ↔ pieces = kinds.map fun kind => Utf8.encode kind.name := by
  induction pieces generalizing kinds with
  | nil => cases kinds <;> simp [pure, Except.pure]
  | cons piece rest inductionHypothesis =>
      rw [List.mapM_cons]
      simp only [bind_eq_ok_iff, kindOf_eq_ok_iff, inductionHypothesis]
      cases kinds with
      | nil => simp [pure, Except.pure]
      | cons kind others => simp [pure, Except.pure]

theorem comma_not_mem_name (kind : Kind) : 44 ∉ Utf8.encode kind.name := by
  cases kind <;> decide

theorem Item.value_eq (first : Kind) (others : List Kind) :
    value first others = Utf8.encode first.name ++
      (others.map fun kind => Utf8.encode kind.name).flatMap (44 :: ·) := by
  rw [value, List.foldl_append_eq_append, List.flatMap_map]
  rfl

/-- The values that can be read are those of the grammar. An empty one is not among them. -/
theorem kindsOf_eq_ok_iff {value : Argument} {kinds : List Kind} :
    kindsOf value = .ok kinds ↔
      ∃ first others, kinds = first :: others ∧ value = Item.value first others := by
  rw [kindsOf, mapM_kindOf_eq_ok_iff]
  constructor
  · intro cut
    cases kinds with
    | nil => exact absurd cut (pieces_ne_nil 44 value)
    | cons first others =>
        refine ⟨first, others, rfl, ?_⟩
        rw [Item.value_eq]
        exact eq_of_pieces cut
  · rintro ⟨first, others, rfl, rfl⟩
    rw [Item.value_eq]
    apply pieces_joined
    intro piece (listed : piece ∈ (first :: others).map fun kind => Utf8.encode kind.name)
    obtain ⟨kind, -, rfl⟩ := List.mem_map.mp listed
    exact comma_not_mem_name kind

/-- A value begins with a letter, so no dash makes it an option. -/
theorem Token.ofArgument_value (first : Kind) (others : List Kind) :
    ofArgument (Item.value first others) = .plain (Item.value first others) := by
  rw [Item.value_eq]
  cases first <;> rfl

end CommandLine

end LoopProgress
