import LoopProgress.CommandLine.Parser
import LoopProgress.Log.Filter
import LoopProgress.Plan
import LoopProgress.Store.Writer

namespace LoopProgress

/-- Standard output leads to a reader, to a device without space, or to a reader that has gone. -/
inductive StandardOutput where
  | pipe
  | full
  | closed
deriving DecidableEq

/-- A standard output that cannot be written to fails with the first byte. -/
def StandardOutput.writer : StandardOutput → ByteWriter
  | .pipe => {}
  | .full => { settings := { limit := some 0, refusal := .fails (.system .noSpace) } }
  | .closed => { settings := { limit := some 0, refusal := .fails (.system .brokenPipe) } }

namespace Program

/-- A notice goes to standard error, either through the log or straight to the user. -/
inductive Notice where
  | logged (event : LogEvent)
  | told (text : String)
deriving DecidableEq

namespace Notice

/-- Only the log is subject to the filter. -/
def passes (filter : Filter) : Notice → Bool
  | .logged event => filter.admits event
  | .told _ => true

/-- A notice to the user may take several lines. -/
def lines : Notice → List String
  | .logged event => [event.line]
  | .told text => text.splitOn "\n"

end Notice

/-- The program ends with what it wrote to either side and with an exit code. -/
structure Outcome where
  output : List UInt8
  notices : List Notice
  exitCode : Nat
deriving DecidableEq

/-- The filter takes out the log events that it does not admit. -/
def Outcome.filtered (outcome : Outcome) (filter : Filter) : Outcome :=
  { outcome with notices := outcome.notices.filter (Notice.passes filter) }

/-- The program's own events come from this target. -/
def notice (level : Level) (message : String) : Notice :=
  .logged ⟨"loop_demo", level, message⟩

/-- The log opens with the start and, in detail, with the options. -/
def opening (options : Options) : List Notice :=
  notice .info "Starting loop-demo" ::
    if options.verbose then [notice .debug ("CLI config: " ++ options.describe)] else []

/-- The user is told of a failure below its place in the log. -/
def report (heading : String) (failure : Failure) : List Notice :=
  [notice .error (heading ++ failure.message), .told failure.userMessage]

/-- The end of a run is told only to the log if the reader has gone. -/
def closing : Except Failure Summary → List Notice
  | .ok _ => []
  | .error failure =>
      if failure.isBrokenPipe then [notice .debug "Standard output closed early"]
      else report "Run failed: " failure

def exitCode : Except Failure Summary → Nat
  | .ok _ => 0
  | .error failure => failure.exitCode

/-- This function runs the selected blocks and logs at every level. -/
def perform (options : Options) (output : StandardOutput) : Outcome :=
  match options.check with
  | .error failure =>
      ⟨[], opening options ++ report "Configuration validation failed: " failure,
        failure.exitCode⟩
  | .ok _ =>
      let plan : Plan ByteWriter := Plan.ofSelection options.selection
      let run := plan.runOn output.writer
      ⟨run.outlet.held,
        opening options ++ run.events.map (fun event => .logged event.logEvent) ++
          closing run.outcome,
        exitCode run.outcome⟩

/-- Help goes to standard output, where a failure to write it goes unnoticed. Any other stop is
told to the user. -/
def stopped (stop : CommandLine.Stop) (output : StandardOutput) : Outcome :=
  match stop with
  | .help detail =>
      ⟨(output.writer.writeAll (Utf8.encode detail.text)).2.held, [], stop.exitCode⟩
  | _ => ⟨[], [.told stop.notice], stop.exitCode⟩

/-- An invocation fixes all that the program depends on. -/
structure Invocation where
  arguments : List CommandLine.Argument
  filter : Option String
  output : StandardOutput

/-- The command line is read first. Only then does the log begin. -/
def run (invocation : Invocation) : Outcome :=
  match CommandLine.parse invocation.arguments with
  | .error stop => stopped stop invocation.output
  | .ok options =>
      (perform options invocation.output).filtered
        (Filter.choose invocation.filter options.verbose)

end Program

end LoopProgress
