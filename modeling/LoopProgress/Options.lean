import LoopProgress.Distinct
import LoopProgress.Kind

namespace LoopProgress

/-- The options say which blocks to run and whether to log in detail. -/
structure Options where
  blocks : List Kind := []
  verbose : Bool := false
deriving DecidableEq

namespace Options

/-- The selection sorts the requested kinds and drops neighbours that repeat. No request at all
selects every kind. -/
def selection (options : Options) : List Kind :=
  if options.blocks.isEmpty then Kind.all
  else (options.blocks.mergeSort fun first second => first.rank ≤ second.rank).eraseReps

/-- A kind may be requested once. -/
def check (options : Options) : Except Failure Unit :=
  requireDistinct "block" options.blocks

/-- This form shows both options. -/
def describe (options : Options) : String :=
  "CliConfig \x7b blocks: [" ++ ", ".intercalate (options.blocks.map Kind.label) ++
    "], verbose: " ++ toString options.verbose ++ " \x7d"

end Options

end LoopProgress
