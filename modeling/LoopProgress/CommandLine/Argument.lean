import LoopProgress.Text.Utf8

namespace LoopProgress.CommandLine

/-- An argument is a list of bytes, which need not encode a text. -/
abbrev Argument := List UInt8

/-- Messages show an argument with every unreadable part replaced. -/
def Argument.shown (argument : Argument) : String :=
  String.ofList (Utf8.decodeLossy argument)

/-- A token is the separator, an option by its long name, a cluster of short flags, or anything
else. -/
inductive Token where
  | separator
  | long (name : Argument) (value : Option Argument)
  | short (flags : Argument)
  | plain (value : Argument)
deriving DecidableEq

/-- A long name ends at the first equals sign, and what follows is its value. -/
def Token.ofLong (text : Argument) : Token :=
  .long (text.takeWhile (· ≠ 61)) (text.dropWhile (· ≠ 61)).tail?

/-- Two dashes introduce a long name and one dash introduces short flags. A dash alone is plain. -/
def Token.ofArgument : Argument → Token
  | [45, 45] => .separator
  | 45 :: 45 :: text => .ofLong text
  | [45] => .plain [45]
  | 45 :: flags => .short flags
  | value => .plain value

end LoopProgress.CommandLine
