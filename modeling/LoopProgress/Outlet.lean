import LoopProgress.Failure

namespace LoopProgress

/-- An action on an outlet gives a value or a failure, and leaves the outlet as it made it. -/
abbrev OutletM (outlet : Type) := ExceptT Failure (StateM outlet)

namespace OutletM

variable {outlet α β : Type}

/-- This function performs an action on one outlet. -/
def on (action : OutletM outlet α) (start : outlet) : Except Failure α × outlet :=
  StateT.run (ExceptT.run action) start

/-- This action is given by its effect on every outlet. -/
def ofEffect (effect : outlet → Except Failure α × outlet) : OutletM outlet α :=
  ExceptT.mk effect

@[simp] theorem on_ofEffect (effect : outlet → Except Failure α × outlet) (start : outlet) :
    (ofEffect effect).on start = effect start := rfl

@[ext] theorem ext {first second : OutletM outlet α}
    (same : ∀ start, first.on start = second.on start) : first = second :=
  funext same

@[simp] theorem on_pure (value : α) (start : outlet) :
    (pure value : OutletM outlet α).on start = (.ok value, start) := rfl

@[simp] theorem on_throw (failure : Failure) (start : outlet) :
    (throw failure : OutletM outlet α).on start = (.error failure, start) := rfl

/-- The second action starts where the first one succeeded, and a failure ends both. -/
theorem on_bind (first : OutletM outlet α) (second : α → OutletM outlet β) (start : outlet) :
    (first >>= second).on start =
      match first.on start with
      | (.ok value, next) => (second value).on next
      | (.error failure, next) => (.error failure, next) := by
  simp only [on, ExceptT.run_bind, StateT.run_bind]
  rcases StateT.run (ExceptT.run first) start with ⟨result | result, next⟩ <;> rfl

theorem ok_of_bind {first : OutletM outlet α} {second : α → OutletM outlet β} {start : outlet}
    {value : β} (ended : ((first >>= second).on start).1 = .ok value) :
    ∃ middle, (first.on start).1 = .ok middle := by
  rcases ran : first.on start with ⟨failure | middle, next⟩
  · rw [on_bind, ran] at ended
    cases ended
  · exact ⟨middle, rfl⟩

@[simp] theorem on_map (f : α → β) (action : OutletM outlet α) (start : outlet) :
    (f <$> action).on start = ((action.on start).1.map f, (action.on start).2) := by
  rw [map_eq_pure_bind, on_bind]
  rcases action.on start with ⟨result | result, next⟩ <;> rfl

end OutletM

/-- An outlet takes text one line at a time. To finish it does nothing unless it says so. -/
class Outlet (outlet : Type) where
  putLine : String → OutletM outlet Unit
  finish : OutletM outlet Unit := pure ()

export Outlet (putLine finish)

end LoopProgress
