import LoopProgress.Proofs.ErrorLines
import LoopProgress.Proofs.Invocation

namespace LoopProgress.Program

/-- The user is told of a kind that is requested twice, or else of an output that is full. -/
def complaint? (blocks : List Kind) (output : StandardOutput) : Option Failure :=
  match firstRepeat? blocks with
  | some kind => some (.configuration s!"block '{kind}' given more than once")
  | none => if output = .full then some (.output (.system .noSpace)) else none

theorem complaint?_eq_none_iff (blocks : List Kind) (output : StandardOutput) :
    complaint? blocks output = none ↔ blocks.Nodup ∧ output ≠ .full := by
  rw [complaint?, ← firstRepeat?_eq_none_iff_nodup]
  cases firstRepeat? blocks with
  | none => by_cases full : output = .full <;> simp [full]
  | some kind => simp

namespace Notice

theorem recognizable_notice (level : Level) (message : String) :
    (notice level message).Recognizable :=
  List.prefix_rfl

theorem recognizable_opening (options : Options) :
    ∀ notice ∈ opening options, notice.Recognizable := by
  intro notice listed
  rcases List.mem_cons.mp listed with rfl | detailed
  · exact recognizable_notice ..
  · split at detailed
    · cases List.mem_singleton.mp detailed
      exact recognizable_notice ..
    · cases detailed

theorem recognizable_event (event : RunEvent) : (logged event.logEvent).Recognizable := by
  change "loop_demo".toList <+: RunEvent.target.toList
  decide

theorem recognizable_userMessage {blocks : List Kind} {output : StandardOutput}
    {failure : Failure} (complaint : complaint? blocks output = some failure) :
    (told failure.userMessage).Recognizable := by
  refine ⟨?_, isLogged_userMessage failure⟩
  rw [complaint?] at complaint
  split at complaint
  · next kind _ =>
      cases complaint
      cases kind <;> decide +kernel
  · split at complaint
    · cases complaint
      decide +kernel
    · cases complaint

theorem recognizable_report {blocks : List Kind} {output : StandardOutput} {failure : Failure}
    (complaint : complaint? blocks output = some failure) (heading : String) :
    ∀ notice ∈ report heading failure, notice.Recognizable := by
  intro notice listed
  rcases List.mem_pair.mp listed with rfl | rfl
  · exact recognizable_notice ..
  · exact recognizable_userMessage complaint

end Notice

/-- Remarks are what follows the opening, which alone depends on the verbose flag. The user is told of
the complaint in them and of nothing else. -/
structure Remarks (blocks : List Kind) (output : StandardOutput) (remarks : List Notice) : Prop where
  notices (verbose : Bool) :
    (perform { blocks, verbose } output).notices = opening { blocks, verbose } ++ remarks
  recognizable : ∀ remark ∈ remarks, remark.Recognizable
  userLines :
    remarks.flatMap Notice.userLines = (complaint? blocks output).toList.map Failure.userMessage

theorem remarks_of_repeat {blocks : List Kind} {kind : Kind}
    (repeated : firstRepeat? blocks = some kind) (output : StandardOutput) :
    ∃ remarks, Remarks blocks output remarks := by
  let failure : Failure := .configuration s!"block '{kind}' given more than once"
  have complaint : complaint? blocks output = some failure := by
    simp only [complaint?, repeated, failure]
  have refused (verbose : Bool) : Options.check { blocks, verbose } = .error failure := by
    simp only [Options.check, requireDistinct, repeated]
    cases kind <;> rfl
  refine ⟨report "Configuration validation failed: " failure, ?_,
    Notice.recognizable_report complaint _, ?_⟩
  · intro verbose
    rw [perform, refused]
  · rw [complaint]
    rfl

/-- The run is over without a complaint unless its output is full. -/
theorem remarks_of_run {blocks : List Kind} (distinct : firstRepeat? blocks = none)
    (output : StandardOutput) : ∃ remarks, Remarks blocks output remarks := by
  let options : Options := { blocks }
  let run := (Plan.ofSelection options.selection : Plan ByteWriter).runOn output.writer
  let events : List Notice := run.events.map fun event => .logged event.logEvent
  have outcome : run.outcome = _ := runOn_standardOutput_outcome options output
  have passed (verbose : Bool) : Options.check { blocks, verbose } = .ok () := by
    simp only [Options.check, requireDistinct, distinct]
  refine ⟨events ++ closing run.outcome, ?_, ?_, ?_⟩
  · intro verbose
    rw [perform, passed]
    exact List.append_assoc ..
  · intro notice listed
    rcases List.mem_append.mp listed with told | closed
    · obtain ⟨event, -, rfl⟩ := List.mem_map.mp told
      exact Notice.recognizable_event event
    · rw [outcome] at closed
      cases output with
      | pipe => cases closed
      | full =>
          have complaint : complaint? blocks .full = some (.output (.system .noSpace)) := by
            simp [complaint?, distinct]
          exact Notice.recognizable_report complaint _ notice closed
      | closed =>
          cases List.mem_singleton.mp closed
          exact Notice.recognizable_notice ..
  · have silent : events.flatMap Notice.userLines = [] := by
      simp [events, List.flatMap_map, Notice.userLines]
    rw [List.flatMap_append, silent, List.nil_append, outcome, complaint?, distinct]
    cases output <;> rfl

theorem exists_remarks (blocks : List Kind) (output : StandardOutput) :
    ∃ remarks, Remarks blocks output remarks := by
  cases repeats : firstRepeat? blocks with
  | none => exact remarks_of_run repeats output
  | some kind => exact remarks_of_repeat repeats output

namespace Remarks

variable {blocks : List Kind} {output : StandardOutput} {remarks : List Notice}

theorem recognizable_notices (remarked : Remarks blocks output remarks) (verbose : Bool) :
    ∀ notice ∈ (perform { blocks, verbose } output).notices, notice.Recognizable := by
  rw [remarked.notices]
  intro notice listed
  rcases List.mem_append.mp listed with opened | remark
  · exact Notice.recognizable_opening _ notice opened
  · exact remarked.recognizable notice remark

/-- The opening says nothing to the user. -/
theorem unlogged_errorLines (remarked : Remarks blocks output remarks) (verbose : Bool)
    (filter : Filter) :
    (((perform { blocks, verbose } output).filtered filter).errorLines.filter
        fun line => !isLogged line) =
      (complaint? blocks output).toList.map Failure.userMessage := by
  rw [Outcome.unlogged_errorLines (remarked.recognizable_notices verbose), remarked.notices,
    List.flatMap_append, remarked.userLines]
  cases verbose <;> rfl

/-- The quiet filter stops the whole opening, so it makes no difference which one it was. -/
theorem errorLines_quiet (remarked : Remarks blocks output remarks) (verbose : Bool) :
    ((perform { blocks, verbose } output).filtered (Filter.standard false)).errorLines =
      remarks.flatMap (Notice.passedLines (Filter.standard false)) := by
  have stopped (level : Level) (message : String)
      (detailed : (Threshold.upTo .warn).admits level = false) :
      (notice level message).passedLines (Filter.standard false) = [] := by
    have hidden := (Filter.admits_standard false (Notice.recognizable_notice level message)).trans
      detailed
    exact if_neg (Bool.eq_false_iff.mp hidden)
  have nothing : (opening { blocks, verbose }).flatMap
      (Notice.passedLines (Filter.standard false)) = [] := by
    cases verbose <;> simp [opening, stopped, Threshold.admits, Threshold.detail, Level.detail]
  rw [Outcome.errorLines_filtered, remarked.notices, List.flatMap_append, nothing, List.nil_append]

end Remarks

end LoopProgress.Program
