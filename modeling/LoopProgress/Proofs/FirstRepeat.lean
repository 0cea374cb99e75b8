import LoopProgress.Distinct
import Mathlib.Data.List.Basic

namespace LoopProgress

variable {α : Type} [BEq α]

/-- A value repeats at an index if it equals one of the values in front of it. -/
def repeatsAt (values : List α) (index : Nat) : Bool :=
  values[index]?.any (values.take index).contains

/-- The first repeat is the value at the least index where one repeats. -/
structure FirstRepeatAt (values : List α) (index : Nat) (value : α) : Prop where
  listed : values[index]? = some value
  known : (values.take index).contains value
  least : ∀ earlier < index, ¬ repeatsAt values earlier

/-- What stands behind an index does not matter there. -/
theorem repeatsAt_take {values : List α} {index count : Nat} (inside : index < count) :
    repeatsAt (values.take count) index = repeatsAt values index := by
  rw [repeatsAt, repeatsAt, List.getElem?_take_of_lt inside, List.take_take,
    Nat.min_eq_left (Nat.le_of_lt inside)]

namespace FirstRepeatAt

variable {values : List α} {index : Nat} {value : α}

theorem repeats (first : FirstRepeatAt values index value) : repeatsAt values index := by
  rw [repeatsAt, first.listed]
  exact first.known

theorem index_lt_length (first : FirstRepeatAt values index value) : index < values.length :=
  (List.getElem?_eq_some_iff.mp first.listed).1

theorem unique {other : Nat} {another : α} (first : FirstRepeatAt values index value)
    (second : FirstRepeatAt values other another) : value = another := by
  rcases Nat.lt_trichotomy index other with before | same | behind
  · exact absurd first.repeats (second.least index before)
  · subst same
    exact Option.some.inj (first.listed.symm.trans second.listed)
  · exact absurd second.repeats (first.least other behind)

/-- Values that agree up to the first repeat have it in common. -/
theorem of_take {others : List α} (first : FirstRepeatAt values index value)
    (same : others.take (index + 1) = values.take (index + 1)) :
    FirstRepeatAt others index value where
  listed := by
    rw [← List.getElem?_take_of_lt (Nat.lt_succ_self index), same,
      List.getElem?_take_of_lt (Nat.lt_succ_self index)]
    exact first.listed
  known := by
    have shorter := congrArg (List.take index) same
    rw [List.take_take, List.take_take, Nat.min_eq_left (Nat.le_succ index)] at shorter
    rw [shorter]
    exact first.known
  least earlier before := by
    have inside : earlier < index + 1 := Nat.lt_succ_of_lt before
    rw [← repeatsAt_take inside, same, repeatsAt_take inside]
    exact first.least earlier before

end FirstRepeatAt

/-- The search remembers just what it has read, so it stops at the first repeat. -/
theorem firstRepeatAfter?_reverse_eq_some_iff {before rest : List α} {value : α}
    (fresh : ∀ index < before.length, ¬ repeatsAt (before ++ rest) index) :
    firstRepeatAfter? before.reverse rest = some value ↔
      ∃ index, FirstRepeatAt (before ++ rest) index value := by
  -- With each value that is read the front grows, and still nothing in it repeats.
  induction rest generalizing before with
  | nil =>
      constructor
      · nofun
      · rintro ⟨index, first⟩
        have inside : index < before.length := by
          simpa using first.index_lt_length
        exact absurd first.repeats (fresh index inside)
  | cons next rest inductionHypothesis =>
      have here : (before ++ next :: rest)[before.length]? = some next := by simp
      have passed : (before ++ next :: rest).take before.length = before := List.take_left
      rw [firstRepeatAfter?, List.contains_reverse]
      split
      · next present =>
          have first : FirstRepeatAt (before ++ next :: rest) before.length next :=
            ⟨here, passed.symm ▸ present, fresh⟩
          constructor
          · rintro ⟨⟩
            exact ⟨before.length, first⟩
          · rintro ⟨index, other⟩
            exact congrArg some (first.unique other)
      · next absent =>
          have new : ¬ repeatsAt (before ++ next :: rest) before.length := by
            rw [repeatsAt, here, passed]
            exact absent
          have longer : ∀ index < (before ++ [next]).length,
              ¬ repeatsAt (before ++ [next] ++ rest) index := by
            rw [List.length_append, List.length_singleton, List.append_assoc, List.singleton_append]
            exact Nat.forall_lt_succ_right.mpr ⟨fresh, new⟩
          have behind := inductionHypothesis longer
          rwa [List.reverse_append, List.reverse_singleton, List.singleton_append,
            List.append_assoc, List.singleton_append] at behind

theorem firstRepeat?_eq_some_iff (values : List α) (value : α) :
    firstRepeat? values = some value ↔ ∃ index, FirstRepeatAt values index value :=
  @firstRepeatAfter?_reverse_eq_some_iff α _ [] values value nofun

section Hashing

variable [Hashable α]

/-- A hash set takes in a value unless it holds an equal one. -/
def insertNew (seen : Std.HashSet α) (value : α) : Except α (Std.HashSet α) :=
  if seen.contains value then .error value else .ok (seen.insert value)

/-- The search may look the values up by their hashes. -/
theorem firstRepeatAfter?_eq_foldlM [EquivBEq α] [LawfulHashable α] {known : List α}
    {seen : Std.HashSet α} (same : ∀ value, seen.contains value = known.contains value)
    (values : List α) :
    firstRepeatAfter? known values =
      match values.foldlM insertNew seen with
      | .ok _ => none
      | .error value => some value := by
  induction values generalizing known seen with
  | nil => rfl
  | cons value rest inductionHypothesis =>
      rw [firstRepeatAfter?, List.foldlM_cons, insertNew, same value]
      split
      · rfl
      · have extended : ∀ other,
            (seen.insert value).contains other = (value :: known).contains other := by
          intro other
          rw [Std.HashSet.contains_insert, List.contains_cons, same other, BEq.comm]
        exact inductionHypothesis extended

end Hashing

/-- The check passes values of which no two are equal. Otherwise it names the first repeat, whatever
stands behind it. It may as well be made with a hash set. -/
theorem requireDistinct_names_first_repeat [EquivBEq α] [Hashable α] [LawfulHashable α]
    [ToString α] (field : String) (values : List α) :
    let refusal (value : α) : Failure :=
      .configuration (field ++ " '" ++ toString value ++ "' given more than once")
    (requireDistinct field values = .ok () ↔
        values.Pairwise fun earlier later => (later == earlier) = false) ∧
      (∀ failure, requireDistinct field values = .error failure ↔
        ∃ index value, FirstRepeatAt values index value ∧ failure = refusal value) ∧
      (∀ index value others, FirstRepeatAt values index value →
        others.take (index + 1) = values.take (index + 1) →
          requireDistinct field others = .error (refusal value)) ∧
      requireDistinct field values =
        match values.foldlM insertNew (∅ : Std.HashSet α) with
        | .ok _ => .ok ()
        | .error value => .error (refusal value) := by
  intro refusal
  have refused (others : List α) (failure : Failure) :
      requireDistinct field others = .error failure ↔
        ∃ index value, FirstRepeatAt others index value ∧ failure = refusal value := by
    simp only [requireDistinct_eq_error_iff, firstRepeat?_eq_some_iff, ← exists_and_right]
    exact exists_comm
  refine ⟨?_, refused values, ?_, ?_⟩
  · rw [requireDistinct_eq_ok_iff, firstRepeat?_eq_none_iff]
  · intro index value others first same
    exact (refused others _).mpr ⟨index, value, first.of_take same, rfl⟩
  · have empty (value : α) : (∅ : Std.HashSet α).contains value = ([] : List α).contains value :=
      Std.HashSet.contains_empty
    rw [requireDistinct, firstRepeat?, firstRepeatAfter?_eq_foldlM empty]
    cases values.foldlM insertNew (∅ : Std.HashSet α) <;> rfl

/-- The first value of this list comes again later than the second one does. -/
theorem requireDistinct_names_first_repeat_enclosed :
    let values := ["accumulate", "guarded", "guarded", "accumulate", "nested"]
    let others := ["accumulate", "guarded", "guarded"]
    let failure : Failure := .configuration "block 'guarded' given more than once"
    FirstRepeatAt values 2 "guarded" ∧ others.take 3 = values.take 3 ∧
      requireDistinct "block" values = .error failure ∧
      requireDistinct "block" others = .error failure := by
  intro values others failure
  have first : FirstRepeatAt values 2 "guarded" := ⟨rfl, by decide, by decide⟩
  have same : others.take 3 = values.take 3 := rfl
  obtain ⟨-, refused, alike, -⟩ := requireDistinct_names_first_repeat "block" values
  exact ⟨first, same, (refused failure).mpr ⟨2, "guarded", first, rfl⟩,
    alike 2 "guarded" others first same⟩

end LoopProgress
