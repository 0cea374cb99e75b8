import LoopProgress.Log.Directive

namespace LoopProgress

/-- A filter is a list of directives. Later ones come first among equals. -/
abbrev Filter := List Directive

namespace Filter

/-- Directives stand between commas, and an empty one says nothing. One that cannot be read spoils
the whole filter. -/
def ofText? (text : String) : Option Filter :=
  ((text.splitOn ",").filter (! ·.isEmpty)).mapM fun piece => Directive.ofText? piece.toList

/-- The more specific directive decides. Of two equal ones the later decides. -/
def prefer (event : LogEvent) (best : Option Directive) (directive : Directive) :
    Option Directive :=
  if directive.appliesTo event ∧ best.all fun best => best.specificity ≤ directive.specificity then
    some directive
  else best

def deciding? (filter : Filter) (event : LogEvent) : Option Directive :=
  filter.foldl (prefer event) none

/-- An event passes if a directive decides and its threshold admits the level. -/
def admits (filter : Filter) (event : LogEvent) : Bool :=
  (filter.deciding? event).any fun directive => directive.threshold.admits event.level

/-- Without a filter of the user's own only trouble is logged, or with the verbose flag the
progress too. -/
def standard (verbose : Bool) : Filter :=
  if verbose then
    [{ target := "loop_demo", threshold := .upTo .debug }, { threshold := .upTo .info }]
  else [{ target := "loop_demo", threshold := .upTo .warn }]

/-- A text that cannot be read counts as none. -/
def choose (text : Option String) (verbose : Bool) : Filter :=
  (text.bind ofText?).getD (standard verbose)

end Filter

end LoopProgress
