import LoopProgress.Kind

namespace LoopProgress.CommandLine

/-- Help comes as a summary or in full. -/
inductive HelpDetail where
  | summary
  | full
deriving DecidableEq

/-- Both help texts open with the purpose and the usage. -/
def helpOpening : List String :=
  ["Prints the progress of a counted, a guarded and a nested loop",
    "",
    "Usage: loop-demo [OPTIONS]",
    "",
    "Options:"]

/-- The summary names every kind in one line. -/
def kindNames : String :=
  "[possible values: " ++ ", ".intercalate (Kind.all.map Kind.name) ++ "]"

/-- The full text explains every kind in a line of its own. The phrases start in one column. -/
def kindLine (kind : Kind) : String :=
  "          - " ++ String.ofList ((kind.name ++ ":").toList.rightpad 12 ' ') ++ kind.help

def HelpDetail.lines : HelpDetail → List String
  | .summary =>
      helpOpening ++
        ["      --block <BLOCKS>  Run only the given blocks (default: all, in order) " ++ kindNames,
          "  -v, --verbose         Enable verbose output",
          "  -h, --help            Print help (see more with '--help')"]
  | .full =>
      helpOpening ++
        ["      --block <BLOCKS>",
          "          Run only the given blocks (default: all, in order)",
          "",
          "          Possible values:"] ++
        Kind.all.map kindLine ++
        ["",
          "  -v, --verbose",
          "          Enable verbose output",
          "",
          "  -h, --help",
          "          Print help (see a summary with '-h')"]

/-- Every line of a help text ends with a newline. -/
def HelpDetail.text (detail : HelpDetail) : String :=
  String.join (detail.lines.map (· ++ "\n"))

end LoopProgress.CommandLine
