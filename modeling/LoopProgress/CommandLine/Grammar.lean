import LoopProgress.CommandLine.Parser

namespace LoopProgress.CommandLine

/-- An accepted command line is built from these items. A value names at least one kind. -/
inductive Item where
  | verboseShort
  | verboseLong
  | blockJoined (first : Kind) (others : List Kind)
  | blockSeparate (first : Kind) (others : List Kind)

namespace Item

/-- The names of a value are joined by single commas. -/
def value (first : Kind) (others : List Kind) : Argument :=
  others.foldl (fun written kind => written ++ 44 :: Utf8.encode kind.name)
    (Utf8.encode first.name)

/-- Each item is written as one argument or two. -/
def arguments : Item → List Argument
  | .verboseShort => [Utf8.encode "-v"]
  | .verboseLong => [Utf8.encode "--verbose"]
  | .blockJoined first others => [Utf8.encode "--block=" ++ value first others]
  | .blockSeparate first others => [Utf8.encode "--block", value first others]

def kinds : Item → List Kind
  | .verboseShort => []
  | .verboseLong => []
  | .blockJoined first others => first :: others
  | .blockSeparate first others => first :: others

def isVerbose : Item → Bool
  | .verboseShort => true
  | .verboseLong => true
  | .blockJoined _ _ => false
  | .blockSeparate _ _ => false

end Item

/-- A sentence is a list of items, with the separator behind them or not. -/
structure Sentence where
  items : List Item
  separated : Bool

namespace Sentence

def arguments (sentence : Sentence) : List Argument :=
  sentence.items.flatMap Item.arguments ++ if sentence.separated then [Utf8.encode "--"] else []

/-- The verbose flag occurs at most once. -/
def WellFormed (sentence : Sentence) : Prop :=
  sentence.items.countP Item.isVerbose ≤ 1

/-- The meaning of a sentence keeps every kind in order. -/
def options (sentence : Sentence) : Options where
  blocks := sentence.items.flatMap Item.kinds
  verbose := sentence.items.any Item.isVerbose

end Sentence

end LoopProgress.CommandLine
