import LoopProgress.Program
import Mathlib.Data.String.Basic

namespace LoopProgress

/-- Without a newline in what is left, the search for one reads on to the end. -/
theorem splitOnAux_newline (read rest : List Char) (absent : '\n' ∉ rest) :
    (String.ofList (read ++ rest)).splitOnAux "\n" 0 ⟨String.utf8Len read⟩ 0 [] =
      [String.ofList (read ++ rest)] := by
  induction rest generalizing read with
  | nil =>
      have whole := String.extract_of_valid [] read []
      rw [List.nil_append, String.utf8Len_nil, Nat.zero_add, List.append_nil] at whole
      rw [String.splitOnAux, if_pos ((String.atEnd_of_valid ..).mpr rfl), List.append_nil]
      exact congrArg ([·]) whole
  | cons character rest inductionHypothesis =>
      have more : ¬ String.Pos.Raw.atEnd (String.ofList (read ++ character :: rest))
          ⟨String.utf8Len read⟩ = true := by
        rw [String.atEnd_of_valid]
        nofun
      have found : String.Pos.Raw.get (String.ofList (read ++ character :: rest))
          ⟨String.utf8Len read⟩ = character := String.get_of_valid ..
      have next : String.Pos.Raw.next (String.ofList (read ++ character :: rest))
          ⟨String.utf8Len read⟩ = ⟨String.utf8Len (read ++ [character])⟩ := by
        rw [String.next_of_valid, String.utf8Len_append, String.utf8Len_cons, String.utf8Len_nil,
          Nat.zero_add]
      have different : ¬ (character == String.Pos.Raw.get "\n" 0) = true := by
        intro same
        have newline : String.Pos.Raw.get "\n" 0 = '\n' := rfl
        rw [newline, beq_iff_eq] at same
        exact absent (by simp [same])
      have behind := inductionHypothesis (read ++ [character])
        fun later => absent (.tail _ later)
      rw [List.append_assoc, List.singleton_append] at behind
      rw [String.splitOnAux, if_neg more, found, if_neg different]
      change String.splitOnAux _ _ _ (String.Pos.Raw.next _ ⟨String.utf8Len read⟩) _ _ = _
      rw [next]
      exact behind

/-- A text without a newline is a single line. -/
theorem splitOn_newline {text : String} (absent : '\n' ∉ text.toList) :
    text.splitOn "\n" = [text] := by
  have alone := splitOnAux_newline [] text.toList absent
  rwa [List.nil_append, String.ofList_toList] at alone

namespace Level

def all : List Level := [.error, .warn, .info, .debug, .trace]

theorem mem_all (level : Level) : level ∈ all := by
  cases level <;> simp [all]

/-- A line of the log opens with the name of its level. -/
def opens (level : Level) (line : String) : Bool :=
  (level.name ++ " ").toList.isPrefixOf line.toList

/-- The names of the levels tell each other apart. -/
theorem opens_line (level : Level) (event : LogEvent) :
    level.opens event.line = decide (level = event.level) := by
  have line : event.line.toList = (event.level.name ++ " ").toList ++ event.message.toList := by
    simp [LogEvent.line]
  rw [opens, line]
  cases level <;> cases event.level <;> rfl

end Level

/-- For the program's own events only the first directive of a standard filter counts. -/
theorem Filter.deciding?_standard (verbose : Bool) {event : LogEvent}
    (own : "loop_demo".toList <+: event.target.toList) :
    (standard verbose).deciding? event =
      some { target := "loop_demo", threshold := .upTo (if verbose then .debug else .warn) } := by
  have applies (threshold : Threshold) :
      Directive.appliesTo { target := "loop_demo", threshold } event = true := by
    simpa [Directive.appliesTo] using own
  cases verbose with
  | false => simp [standard, deciding?, prefer, applies]
  | true =>
      have longer : ¬ Directive.specificity { target := "loop_demo", threshold := .upTo .debug } ≤
          Directive.specificity { threshold := .upTo .info } := by decide
      simp [standard, deciding?, prefer, applies, longer]

theorem Filter.admits_standard (verbose : Bool) {event : LogEvent}
    (own : "loop_demo".toList <+: event.target.toList) :
    (standard verbose).admits event =
      (Threshold.upTo (if verbose then .debug else .warn)).admits event.level := by
  rw [admits, deciding?_standard verbose own]
  rfl

namespace Program

/-- Standard error shows the lines of every notice. -/
def Outcome.errorLines (outcome : Outcome) : List String :=
  outcome.notices.flatMap Notice.lines

def isLogged (line : String) : Bool :=
  Level.all.any fun level => level.opens line

/-- These lines of the log tell of progress and not of trouble. -/
def isProgress (line : String) : Bool :=
  Level.debug.opens line || Level.info.opens line

namespace Notice

/-- The log says nothing to the user. -/
def userLines : Notice → List String
  | .logged _ => []
  | .told text => [text]

/-- A notice is recognizable if it is an event of the program's own, or else a single line that
cannot be taken for one. -/
def Recognizable : Notice → Prop
  | .logged event => "loop_demo".toList <+: event.target.toList
  | .told text => '\n' ∉ text.toList ∧ isLogged text = false

theorem isLogged_line (event : LogEvent) : isLogged event.line = true :=
  List.any_eq_true.mpr ⟨event.level, event.level.mem_all, by simp [Level.opens_line]⟩

/-- What the user is told of a failure does not open like a line of the log. -/
theorem isLogged_userMessage (failure : Failure) : isLogged failure.userMessage = false := by
  cases failure with
  | output fault =>
      have text : (Failure.output fault).userMessage.toList =
          "Could not write to standard output: ".toList ++ fault.text.toList :=
        String.toList_append
      simp only [isLogged, Level.opens, text]
      rfl
  | configuration message =>
      have text : (Failure.configuration message).userMessage.toList =
          "Invalid options: ".toList ++ message.toList :=
        String.toList_append
      simp only [isLogged, Level.opens, text]
      rfl

theorem isProgress_line (event : LogEvent) :
    isProgress event.line = (decide (event.level = .debug) || decide (event.level = .info)) := by
  simp only [isProgress, Level.opens_line, eq_comm]

theorem isProgress_of_not_isLogged {text : String} (unlogged : isLogged text = false) :
    isProgress text = false := by
  have opens (level : Level) : level.opens text = false :=
    Bool.eq_false_iff.mpr (List.any_eq_false.mp unlogged level level.mem_all)
  rw [isProgress, opens, opens]
  rfl

theorem unlogged_lines {notice : Notice} (recognizable : notice.Recognizable) :
    notice.lines.filter (fun line => !isLogged line) = notice.userLines := by
  cases notice with
  | logged event => simp [lines, userLines, isLogged_line]
  | told text =>
      obtain ⟨single, unlogged⟩ := recognizable
      simp [lines, userLines, splitOn_newline single, unlogged]

/-- These lines of a notice get through the filter. -/
def passedLines (filter : Filter) (notice : Notice) : List String :=
  if notice.passes filter then notice.lines else []

/-- No filter hides what the user is told. -/
theorem unlogged_passedLines {notice : Notice} (recognizable : notice.Recognizable)
    (filter : Filter) :
    (notice.passedLines filter).filter (fun line => !isLogged line) = notice.userLines := by
  rw [passedLines]
  split
  · exact unlogged_lines recognizable
  · next stopped =>
      cases notice with
      | logged event => rfl
      | told text => exact absurd rfl stopped

/-- Of what gets through the verbose filter, the quiet one stops the lines that tell of progress. -/
theorem passedLines_quiet {notice : Notice} (recognizable : notice.Recognizable) :
    notice.passedLines (Filter.standard false) =
      (notice.passedLines (Filter.standard true)).filter fun line => !isProgress line := by
  cases notice with
  | logged event =>
      simp only [passedLines, passes, lines, Filter.admits_standard _ recognizable]
      cases level : event.level <;>
        simp [isProgress_line, level, Threshold.admits, Threshold.detail, Level.detail]
  | told text =>
      obtain ⟨single, unlogged⟩ := recognizable
      simp [passedLines, passes, lines, splitOn_newline single,
        isProgress_of_not_isLogged unlogged]

end Notice

theorem Outcome.errorLines_filtered (outcome : Outcome) (filter : Filter) :
    (outcome.filtered filter).errorLines =
      outcome.notices.flatMap (Notice.passedLines filter) := by
  rw [errorLines, filtered]
  simp only
  induction outcome.notices with
  | nil => rfl
  | cons notice rest inductionHypothesis =>
      rw [List.filter_cons, List.flatMap_cons, ← inductionHypothesis, Notice.passedLines]
      split <;> rfl

theorem Outcome.unlogged_errorLines {outcome : Outcome}
    (recognizable : ∀ notice ∈ outcome.notices, notice.Recognizable) (filter : Filter) :
    ((outcome.filtered filter).errorLines.filter fun line => !isLogged line) =
      outcome.notices.flatMap Notice.userLines := by
  rw [errorLines_filtered, List.filter_flatMap]
  apply List.flatMap_congr
  intro notice listed
  exact Notice.unlogged_passedLines (recognizable notice listed) filter

theorem Outcome.errorLines_quiet {outcome : Outcome}
    (recognizable : ∀ notice ∈ outcome.notices, notice.Recognizable) :
    (outcome.filtered (Filter.standard false)).errorLines =
      (outcome.filtered (Filter.standard true)).errorLines.filter fun line => !isProgress line := by
  rw [errorLines_filtered, errorLines_filtered, List.filter_flatMap]
  apply List.flatMap_congr
  intro notice listed
  exact Notice.passedLines_quiet (recognizable notice listed)

end Program

end LoopProgress
