import LoopProgress.Failure

namespace LoopProgress

variable {α : Type} [BEq α]

/-- The search for a repeat remembers every value it has passed. -/
def firstRepeatAfter? (seen : List α) : List α → Option α
  | [] => none
  | value :: rest =>
      if seen.contains value then some value else firstRepeatAfter? (value :: seen) rest

theorem firstRepeatAfter?_eq_none_iff (seen values : List α) :
    firstRepeatAfter? seen values = none ↔
      values.Pairwise (fun earlier later => (later == earlier) = false) ∧
        ∀ value ∈ values, seen.contains value = false := by
  induction values generalizing seen with
  | nil => simp [firstRepeatAfter?]
  | cons value rest inductionHypothesis =>
      by_cases present : seen.contains value = true
      · simp [firstRepeatAfter?, present]
      · rw [firstRepeatAfter?, if_neg present, inductionHypothesis]
        rw [Bool.not_eq_true] at present
        simp only [List.contains_cons, Bool.or_eq_false_iff, List.pairwise_cons,
          List.forall_mem_cons, present, true_and]
        constructor
        · rintro ⟨distinct, fresh⟩
          exact ⟨⟨fun later listed => (fresh later listed).1, distinct⟩,
            fun later listed => (fresh later listed).2⟩
        · rintro ⟨⟨absent, distinct⟩, fresh⟩
          exact ⟨distinct, fun later listed => ⟨absent later listed, fresh later listed⟩⟩

/-- This value is the earliest one that has occurred before. -/
def firstRepeat? (values : List α) : Option α :=
  firstRepeatAfter? [] values

theorem firstRepeat?_eq_none_iff (values : List α) :
    firstRepeat? values = none ↔
      values.Pairwise fun earlier later => (later == earlier) = false := by
  rw [firstRepeat?, firstRepeatAfter?_eq_none_iff]
  simp

/-- Where equal values are the same value, no repeat means that none is listed twice. -/
theorem firstRepeat?_eq_none_iff_nodup [LawfulBEq α] (values : List α) :
    firstRepeat? values = none ↔ values.Nodup := by
  rw [firstRepeat?_eq_none_iff, List.nodup_iff_pairwise_ne]
  simp only [beq_eq_false_iff_ne, ne_comm]

/-- A field must not be given the same value twice. -/
def requireDistinct [ToString α] (field : String) (values : List α) : Except Failure Unit :=
  match firstRepeat? values with
  | none => .ok ()
  | some value => .error (.configuration s!"{field} '{value}' given more than once")

theorem requireDistinct_eq_ok_iff [ToString α] (field : String) (values : List α) :
    requireDistinct field values = .ok () ↔ firstRepeat? values = none := by
  rw [requireDistinct]
  split <;> simp_all

theorem requireDistinct_eq_error_iff [ToString α] (field : String) (values : List α)
    (failure : Failure) :
    requireDistinct field values = .error failure ↔
      ∃ value, firstRepeat? values = some value ∧
        failure = .configuration s!"{field} '{value}' given more than once" := by
  rw [requireDistinct]
  cases firstRepeat? values with
  | none => simp
  | some value => simp [eq_comm]

/-- A repeat makes the options unfit, and nothing else does. -/
theorem requireDistinct_error [ToString α] {field : String} {values : List α} {failure : Failure}
    (refused : requireDistinct field values = .error failure) :
    ∃ message, failure = .configuration message := by
  obtain ⟨value, -, named⟩ := (requireDistinct_eq_error_iff field values failure).mp refused
  exact ⟨_, named⟩

end LoopProgress
