import LoopProgress.CommandLine.Help
import LoopProgress.Text.Terminal

namespace LoopProgress.CommandLine

/-- These options take no value. -/
inductive Flag where
  | verbose
  | help
deriving DecidableEq

def Flag.shown : Flag → String
  | .verbose => "--verbose"
  | .help => "--help"

/-- A command line that gives no options stops for one of these reasons. -/
inductive Stop where
  | unknownArgument (shown : String)
  | unexpectedValue (flag : Flag) (shown : String)
  | missingValue
  | invalidValue (shown : String)
  | repeatedVerbose
  | help (detail : HelpDetail)
deriving DecidableEq

namespace Stop

/-- A value that is missing or invalid is answered with the values that are possible. -/
def possibleValues : String := "\n  " ++ kindNames

/-- The wording is fixed but for the way in which an argument is shown. -/
def wording (clean : String → String) : Stop → String
  | .unknownArgument shown => s!"error: unexpected argument '{clean shown}' found"
  | .unexpectedValue flag shown =>
      s!"error: unexpected value '{clean shown}' for '{flag.shown}' found; no more were expected"
  | .missingValue =>
      "error: a value is required for '--block <BLOCKS>' but none was supplied" ++ possibleValues
  | .invalidValue shown =>
      s!"error: invalid value '{clean shown}' for '--block <BLOCKS>'" ++ possibleValues
  | .repeatedVerbose => "error: the argument '--verbose' cannot be used multiple times"
  | .help detail => detail.text

/-- A message keeps what is visible of an argument. -/
def message : Stop → String :=
  wording Terminal.visible

/-- A message that goes straight to a stream is cleaned as a stream. -/
def notice : Stop → String :=
  wording Terminal.streamed

/-- Only a request for help counts as success. -/
def exitCode : Stop → Nat
  | .help _ => 0
  | _ => 2

end Stop

end LoopProgress.CommandLine
