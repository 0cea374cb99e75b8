import LoopProgress.Proofs.Interchange
import LoopProgress.Store.Lines

namespace LoopProgress

variable {outlet : Type}

/-- These calls have offered the lines in order, and none behind a line that was refused. -/
inductive Offered : List String → List (Call outlet) → Except Failure Unit → Prop where
  | done : Offered [] [] (.ok ())
  | refused {call : Call outlet} {rest : List String} {failure : Failure}
      (refused : call.outcome = .error failure) :
      Offered (call.line :: rest) [call] (.error failure)
  | accepted {call : Call outlet} {rest : List String} {calls : List (Call outlet)}
      {outcome : Except Failure Unit} (accepted : call.outcome = .ok ())
      (behind : Offered rest calls outcome) :
      Offered (call.line :: rest) (call :: calls) outcome

namespace Offered

variable {lines : List String} {calls : List (Call outlet)} {outcome : Except Failure Unit}

theorem lines_of_ok (offered : Offered lines calls outcome) (ended : outcome = .ok ()) :
    calls.map Call.line = lines ∧ ∀ call ∈ calls, call.outcome = .ok () := by
  induction offered with
  | done => exact ⟨rfl, nofun⟩
  | refused => cases ended
  | accepted accepted _ inductionHypothesis =>
      obtain ⟨lines, outcomes⟩ := inductionHypothesis ended
      exact ⟨congrArg (_ :: ·) lines, List.forall_mem_cons.mpr ⟨accepted, outcomes⟩⟩

/-- The lines before the refused one were accepted, and those behind it were not offered. -/
theorem split_of_error {failure : Failure} (offered : Offered lines calls outcome)
    (ended : outcome = .error failure) :
    ∃ accepted last unread, calls = accepted ++ [last] ∧
      lines = accepted.map Call.line ++ last.line :: unread ∧ last.outcome = .error failure ∧
      ∀ call ∈ accepted, call.outcome = .ok () := by
  induction offered with
  | done => cases ended
  | @refused last rest _ refused => exact ⟨[], last, rest, rfl, rfl, refused.trans ended, nofun⟩
  | @accepted call _ _ _ accepted _ inductionHypothesis =>
      obtain ⟨before, last, unread, rfl, rfl, refused, outcomes⟩ := inductionHypothesis ended
      exact ⟨call :: before, last, unread, rfl, rfl, refused,
        List.forall_mem_cons.mpr ⟨accepted, outcomes⟩⟩

/-- The call that was refused is the last one, and its line is still among those to be offered. -/
theorem last_of_error {failure : Failure} (offered : Offered lines calls outcome)
    (ended : outcome = .error failure) :
    ∃ accepted last, calls = accepted ++ [last] ∧ last.outcome = .error failure ∧
      (∀ call ∈ accepted, call.outcome = .ok ()) ∧ accepted.length < lines.length := by
  obtain ⟨accepted, last, unread, calls, rfl, refused, outcomes⟩ := offered.split_of_error ended
  refine ⟨accepted, last, calls, refused, outcomes, ?_⟩
  rw [List.length_append, List.length_map, List.length_cons]
  omega

end Offered

/-- Calls lead from one outlet to another if each of them is made where the one before it ended, and
if the outlet answers as the call says. -/
inductive Leads [Outlet outlet] : outlet → List (Call outlet) → outlet → Prop where
  | stay {start : outlet} : Leads start [] start
  | call {start next last : outlet} {line : String} {outcome : Except Failure Unit}
      {calls : List (Call outlet)}
      (made : (putLine line : OutletM outlet Unit).on start = (outcome, next))
      (behind : Leads next calls last) :
      Leads start (⟨line, outcome, start, next⟩ :: calls) last

namespace Recorder

variable [Outlet outlet]

/-- This call is made if the recorder is offered the line. -/
def call (recorder : Recorder outlet) (line : String) : Call outlet :=
  let (outcome, after) := (LoopProgress.putLine line : OutletM outlet Unit).on recorder.inner
  ⟨line, outcome, recorder.inner, after⟩

def note (recorder : Recorder outlet) (call : Call outlet) : Recorder outlet :=
  { recorder with inner := call.after, calls := recorder.calls ++ [call] }

/-- Behind a call that is accepted the other lines are offered too. -/
theorem putLines_cons_on (line : String) (rest : List String) (recorder : Recorder outlet) :
    (putLines (line :: rest) : OutletM (Recorder outlet) Unit).on recorder =
      match (recorder.call line).outcome with
      | .ok _ =>
          (putLines rest : OutletM (Recorder outlet) Unit).on (recorder.note (recorder.call line))
      | .error failure => (.error failure, recorder.note (recorder.call line)) := by
  have called : (LoopProgress.putLine line : OutletM (Recorder outlet) Unit).on recorder =
      ((recorder.call line).outcome, recorder.note (recorder.call line)) := rfl
  rw [putLines_cons, OutletM.on_bind, called]
  cases (recorder.call line).outcome <;> rfl

/-- A recorder shows by its new calls how lines were offered and where that led. It notes no finish
with them. -/
theorem putLines_on (lines : List String) (recorder : Recorder outlet) :
    ∃ calls outcome last,
      (putLines lines : OutletM (Recorder outlet) Unit).on recorder =
          (outcome, ⟨last, recorder.calls ++ calls, recorder.finishes⟩) ∧
        Offered lines calls outcome ∧ Leads recorder.inner calls last := by
  induction lines generalizing recorder with
  | nil => exact ⟨[], .ok (), recorder.inner, by simp, .done, .stay⟩
  | cons line rest inductionHypothesis =>
      rw [putLines_cons_on]
      cases answer : (recorder.call line).outcome with
      | error failure =>
          exact ⟨[recorder.call line], .error failure, (recorder.call line).after, rfl,
            .refused answer, .call rfl .stay⟩
      | ok _ =>
          obtain ⟨calls, outcome, last, ran, offered, leads⟩ :=
            inductionHypothesis (recorder.note (recorder.call line))
          refine ⟨recorder.call line :: calls, outcome, last, ?_, .accepted answer offered,
            .call rfl leads⟩
          rw [List.append_cons]
          exact ran

theorem putLines_offered (lines : List String) (recorder : Recorder outlet) :
    ∃ calls,
      Offered lines calls ((putLines lines : OutletM (Recorder outlet) Unit).on recorder).1 ∧
      ((putLines lines : OutletM (Recorder outlet) Unit).on recorder).2.calls =
        recorder.calls ++ calls := by
  obtain ⟨calls, outcome, last, ran, offered, -⟩ := recorder.putLines_on lines
  rw [ran]
  exact ⟨calls, offered, rfl⟩

end Recorder

/-- These lines were accepted by the calls. -/
def acceptedLines (calls : List (Call outlet)) : List String :=
  (calls.filter fun call => call.outcome.isOk).map Call.line

theorem acceptedLines_append (first second : List (Call outlet)) :
    acceptedLines (first ++ second) = acceptedLines first ++ acceptedLines second := by
  simp [acceptedLines]

theorem acceptedLines_singleton (call : Call outlet) :
    acceptedLines [call] =
      match call.outcome with
      | .ok _ => [call.line]
      | .error _ => [] := by
  cases outcome : call.outcome <;>
    simp [acceptedLines, outcome, Except.isOk, Except.toBool]

theorem acceptedLines_of_accepted {calls : List (Call outlet)}
    (accepted : ∀ call ∈ calls, call.outcome = .ok ()) :
    acceptedLines calls = calls.map Call.line := by
  rw [acceptedLines, List.filter_eq_self.mpr]
  intro call listed
  rw [accepted call listed]
  rfl

/-- An outlet has room for so many lines if it accepts as many, whatever they say, and refuses the
next. All the while it can be finished. -/
def HasRoom [Outlet outlet] : Nat → outlet → Prop
  | 0, start =>
      ((finish : OutletM outlet Unit).on start).1 = .ok () ∧
        ∀ line, ∃ failure, ((putLine line : OutletM outlet Unit).on start).1 = .error failure
  | room + 1, start =>
      ((finish : OutletM outlet Unit).on start).1 = .ok () ∧
        ∀ line, ((putLine line : OutletM outlet Unit).on start).1 = .ok () ∧
          HasRoom room ((putLine line : OutletM outlet Unit).on start).2

namespace HasRoom

variable [Outlet outlet] {room : Nat}

theorem finish {start : outlet} (hasRoom : HasRoom room start) :
    ((finish : OutletM outlet Unit).on start).1 = .ok () := by
  cases room with
  | zero => exact hasRoom.1
  | succ room => exact hasRoom.1

/-- What fits of the lines is accepted, and the outlet is finished if all of them do. -/
theorem putLines {recorder : Recorder outlet} (hasRoom : HasRoom room recorder.inner)
    (lines : List String) :
    acceptedLines ((LoopProgress.putLines lines : OutletM (Recorder outlet) Unit).on
        recorder).2.calls = acceptedLines recorder.calls ++ lines.take room ∧
      (((do LoopProgress.putLines lines; LoopProgress.finish :
          OutletM (Recorder outlet) Unit).on recorder).1 = .ok () ↔ lines.length ≤ room) := by
  induction lines generalizing room recorder with
  | nil =>
      have finished : recorder.finish.1 = .ok () := hasRoom.finish
      exact ⟨by simp, fun _ => Nat.zero_le _, fun _ => finished⟩
  | cons line rest inductionHypothesis =>
      have noted : (recorder.note (recorder.call line)).calls =
          recorder.calls ++ [recorder.call line] := rfl
      rw [OutletM.on_bind, Recorder.putLines_cons_on]
      -- The room shrinks by one with each line, and without room the next line ends it all.
      cases room with
      | zero =>
          obtain ⟨failure, refused⟩ := hasRoom.2 line
          replace refused : (recorder.call line).outcome = .error failure := refused
          simp [refused, noted, acceptedLines_append, acceptedLines_singleton]
      | succ room =>
          obtain ⟨accepted, behind⟩ := hasRoom.2 line
          replace accepted : (recorder.call line).outcome = .ok () := accepted
          obtain ⟨lines, ended⟩ :=
            @inductionHypothesis room (recorder.note (recorder.call line)) behind
          rw [noted, acceptedLines_append, acceptedLines_singleton, accepted] at lines
          rw [OutletM.on_bind] at ended
          rw [accepted]
          exact ⟨lines.trans (List.append_assoc ..), ended.trans Nat.succ_le_succ_iff.symm⟩

end HasRoom

namespace LineStore

/-- A line store has room for as many lines as its limit leaves, and for none above it. -/
theorem hasRoom {store : LineStore} {limit : Nat} (limited : store.settings.limit = some limit)
    (finishes : store.settings.finishFailure = none) :
    HasRoom (limit - store.lines.length) store := by
  induction left : limit - store.lines.length generalizing store with
  | zero =>
      have finished : store.finish.1 = .ok () := by rw [finish, finishes]
      have full : store.settings.full store.lines.length = true := by
        simp only [LineSettings.full, limited, Option.any_some, decide_eq_true_eq]
        omega
      refine ⟨finished, fun line => ⟨store.settings.failure, ?_⟩⟩
      change (store.putLine line).1 = _
      rw [putLine, LineSettings.take, if_pos full]
  | succ room inductionHypothesis =>
      have finished : store.finish.1 = .ok () := by rw [finish, finishes]
      have free : ¬ store.settings.full store.lines.length = true := by
        simp only [LineSettings.full, limited, Option.any_some, decide_eq_true_eq]
        omega
      refine ⟨finished, fun line => ?_⟩
      change (store.putLine line).1 = _ ∧ HasRoom room (store.putLine line).2
      rw [putLine, LineSettings.take, if_neg free]
      refine ⟨rfl, inductionHypothesis limited finishes ?_⟩
      rw [List.length_append, List.length_singleton]
      omega

/-- A line store holds the accepted lines behind those from before. -/
theorem interchangeable_held (origin : List String) :
    Interchangeable fun one other : Recorder LineStore =>
      one = other ∧ one.inner.lines = origin ++ acceptedLines one.calls := by
  apply interchangeable_of_kept
  · intro line recorder held
    have called : (recorder.putLine line).2.calls =
        recorder.calls ++ [recorder.call line] := rfl
    have kept : (recorder.putLine line).2.inner.lines =
        match (recorder.call line).outcome with
        | .ok _ => recorder.inner.lines ++ [line]
        | .error _ => recorder.inner.lines := putLine_lines line recorder.inner
    change (recorder.putLine line).2.inner.lines =
      origin ++ acceptedLines (recorder.putLine line).2.calls
    rw [kept, called, acceptedLines_append, acceptedLines_singleton, ← List.append_assoc, ← held]
    cases (recorder.call line).outcome with
    | ok _ => rfl
    | error failure => exact (List.append_nil _).symm
  · intro recorder held
    have kept : recorder.inner.finish.2.lines = recorder.inner.lines := by
      rw [finish]
      split <;> rfl
    exact kept.trans held

end LineStore

end LoopProgress
