import LoopProgress.Program
import LoopProgress.Proofs.Delivery
import LoopProgress.Proofs.Selection

namespace LoopProgress

namespace Kind

/-- Each requested kind occurs once in the canonical order, and every kind if none is requested. -/
def requested (blocks : List Kind) : List Kind :=
  all.filter fun kind => blocks = [] ∨ kind ∈ blocks

theorem requested_ne_nil (blocks : List Kind) : requested blocks ≠ [] := by
  intro empty
  have absent := List.filter_eq_nil_iff.mp empty
  cases blocks with
  | nil => exact absent .nested (mem_all _) (by simp)
  | cons kind rest => exact absent kind kind.mem_all (by simp)

/-- The requested kinds are shown by these bytes, line by line. -/
def demonstration (blocks : List Kind) : List UInt8 :=
  (requested blocks).flatMap fun kind => kind.lines.flatMap lineBytes

example :
    demonstration [.guarded, .guarded] =
      Utf8.encode "count = 1\ncount = 2\ncount = 3\nWhile loop finished\n" := by
  decide +kernel

theorem lines_ne_nil (kind : Kind) : kind.lines ≠ [] := by
  cases kind <;> simp [lines, accumulateLines, guardedLines, nestedLines]

/-- Whatever is requested, there is something to show. -/
theorem demonstration_ne_nil (blocks : List Kind) : demonstration blocks ≠ [] := by
  intro empty
  obtain ⟨kind, listed⟩ := List.exists_mem_of_ne_nil _ (requested_ne_nil blocks)
  obtain ⟨line, written⟩ := List.exists_mem_of_ne_nil _ kind.lines_ne_nil
  have nothing := List.flatMap_eq_nil_iff.mp (List.flatMap_eq_nil_iff.mp empty kind listed) line written
  simp [lineBytes] at nothing

end Kind

/-- The scripts of the requested kinds offer the demonstration. -/
theorem Kind.bytes_requested (blocks : List Kind) :
    (Script.linesOf ((requested blocks).map script)).flatMap lineBytes = demonstration blocks := by
  rw [Script.linesOf_kinds, demonstration, List.flatMap_assoc]

/-- The plan behind a command line runs each requested kind once. -/
theorem Plan.ofSelection_requested {outlet : Type} [Outlet outlet] (options : Options) :
    (ofSelection options.selection : Plan outlet).blocks =
      ((Kind.requested options.blocks).map Kind.script).map Script.block := by
  have kinds : (Kind.all.filter fun kind =>
      options.blocks.isEmpty || options.blocks.contains kind) = Kind.requested options.blocks := by
    apply List.filter_congr
    intro kind _
    rw [Bool.eq_iff_iff]
    simp
  rw [ofSelection_selection, ofSelection_blocks, kinds]

namespace StandardOutput

/-- Only a reader receives anything. -/
def received (output : StandardOutput) (bytes : List UInt8) : List UInt8 :=
  match output with
  | .pipe => bytes
  | .full => []
  | .closed => []

theorem writer_chunk (output : StandardOutput) : output.writer.chunk ≠ some 0 := by
  cases output <;> simp [writer]

theorem writer_fittingPart (output : StandardOutput) (bytes : List UInt8) :
    output.writer.held ++ output.writer.fittingPart bytes = output.received bytes := by
  cases output <;> simp [writer, ByteWriter.fittingPart, received]

/-- A standard output that is written to without a reader refuses something. -/
theorem writer_fits_iff (output : StandardOutput) {bytes : List UInt8} (present : bytes ≠ []) :
    output.writer.Fits bytes ↔ output = .pipe := by
  cases output <;> simp [writer, ByteWriter.Fits, present]

end StandardOutput

namespace Program

/-- A run of the requested blocks succeeds before a reader, and otherwise fails as its output does. -/
theorem runOn_standardOutput_outcome (options : Options) (output : StandardOutput) :
    ((Plan.ofSelection options.selection : Plan ByteWriter).runOn output.writer).outcome =
      match output with
      | .pipe => .ok ⟨(Kind.requested options.blocks).map Kind.report⟩
      | .full => .error (.output (.system .noSpace))
      | .closed => .error (.output (.system .brokenPipe)) := by
  obtain ⟨-, outcome⟩ :=
    Plan.runOn_writer (Plan.ofSelection_requested options) output.writer output.writer_chunk
  rw [Kind.bytes_requested, Script.endingOf_kinds] at outcome
  have fits := output.writer_fits_iff (Kind.demonstration_ne_nil options.blocks)
  rw [outcome]
  cases output with
  | pipe => rw [if_pos (fits.mpr rfl)]; rfl
  | full => rw [if_neg (mt fits.mp nofun)]; rfl
  | closed => rw [if_neg (mt fits.mp nofun)]; rfl

/-- A run of the requested blocks shows them to a reader. Only an output that is full makes the
invocation fail. -/
theorem runOn_standardOutput (options : Options) (output : StandardOutput) :
    let run := (Plan.ofSelection options.selection : Plan ByteWriter).runOn output.writer
    run.outlet.held = output.received (Kind.demonstration options.blocks) ∧
      exitCode run.outcome = if output = .full then 1 else 0 := by
  intro run
  obtain ⟨held, -⟩ :=
    Plan.runOn_writer (Plan.ofSelection_requested options) output.writer output.writer_chunk
  rw [Kind.bytes_requested] at held
  have outcome : run.outcome = _ := runOn_standardOutput_outcome options output
  refine ⟨held.trans (output.writer_fittingPart _), ?_⟩
  rw [outcome]
  cases output <;> rfl

/-- The exit code and the output of an invocation follow from how its command line is read and from
where its output leads. Help and a successful run count as success, and so does a run whose reader
has gone. -/
def promise (parsed : Except CommandLine.Stop Options) (output : StandardOutput) :
    Nat × List UInt8 :=
  match parsed with
  | .error (.help detail) => (0, output.received (Utf8.encode detail.text))
  | .error _ => (2, [])
  | .ok options =>
      if options.blocks.Nodup then
        (if output = .full then 1 else 0, output.received (Kind.demonstration options.blocks))
      else (2, [])

theorem stopped_promise (stop : CommandLine.Stop) (output : StandardOutput) :
    ((stopped stop output).exitCode, (stopped stop output).output) =
      promise (.error stop) output := by
  cases stop with
  | help detail =>
      obtain ⟨takes, -⟩ :=
        ByteWriter.writeAll_takes (Utf8.encode detail.text) output.writer output.writer_chunk
      have held := takes.held
      rw [ByteWriter.take_room, output.writer_fittingPart] at held
      exact Prod.ext rfl held
  | _ => rfl

theorem perform_promise (options : Options) (output : StandardOutput) :
    ((perform options output).exitCode, (perform options output).output) =
      promise (.ok options) output := by
  obtain ⟨held, exitCode⟩ := runOn_standardOutput options output
  by_cases distinct : options.blocks.Nodup
  · have checked := options.check_eq_ok_iff.mpr distinct
    simp only [perform, checked, promise, if_pos distinct]
    exact Prod.ext exitCode held
  · have refused := mt options.check_eq_ok_iff.mp distinct
    rw [promise, if_neg distinct, perform]
    cases checked : options.check with
    | ok _ => exact absurd checked refused
    | error failure =>
        obtain ⟨message, rfl⟩ := requireDistinct_error checked
        rfl

/-- Only a write that fails without a reader having gone leads to exit code 1. -/
theorem promise_eq_one_iff (parsed : Except CommandLine.Stop Options) (output : StandardOutput) :
    (promise parsed output).1 = 1 ↔
      ∃ options, parsed = .ok options ∧ options.blocks.Nodup ∧ output = .full := by
  cases parsed with
  | error stop => cases stop <;> simp [promise]
  | ok options => by_cases distinct : options.blocks.Nodup <;> simp [promise, distinct]

/-- Only a command line that cannot be followed leads to exit code 2. -/
theorem promise_eq_two_iff (parsed : Except CommandLine.Stop Options) (output : StandardOutput) :
    (promise parsed output).1 = 2 ↔
      (∃ stop, parsed = .error stop ∧ ∀ detail, stop ≠ .help detail) ∨
        ∃ options, parsed = .ok options ∧ ¬ options.blocks.Nodup := by
  cases parsed with
  | error stop => cases stop <;> simp [promise]
  | ok options =>
      by_cases distinct : options.blocks.Nodup
      · by_cases full : output = .full <;> simp [promise, distinct, full]
      · simp [promise, distinct]

end Program

end LoopProgress
