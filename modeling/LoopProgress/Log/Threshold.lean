import LoopProgress.Log.Level
import LoopProgress.Text.Number

namespace LoopProgress

/-- A threshold lets levels through up to one detail, or none at all. -/
inductive Threshold where
  | off
  | upTo (level : Level)
deriving DecidableEq

namespace Threshold

/-- The thresholds are numbered from zero in this order. -/
def all : List Threshold :=
  [.off, .upTo .error, .upTo .warn, .upTo .info, .upTo .debug, .upTo .trace]

def detail : Threshold → Nat
  | .off => 0
  | .upTo level => level.detail

def name : Threshold → String
  | .off => "off"
  | .upTo level => level.name.toLower

def admits (threshold : Threshold) (level : Level) : Bool :=
  level.detail ≤ threshold.detail

/-- A threshold is written as its name in any case or as its number. -/
def ofText? (text : List Char) : Option Threshold :=
  all.find? fun threshold =>
    threshold.name.toList = text.map Char.toLower ||
      Number.natural? text = some threshold.detail

end Threshold

end LoopProgress
