import LoopProgress.CommandLine.Argument
import LoopProgress.CommandLine.Stop
import LoopProgress.Options
import LoopProgress.Text.Pieces

namespace LoopProgress.CommandLine

/-- The block option waits for its value, or holds one that has not been read yet. -/
inductive Pending where
  | nothing
  | awaiting
  | held (value : Argument)
deriving DecidableEq

/-- The state keeps the options so far, the open value, and whether the separator has passed. -/
structure State where
  options : Options := {}
  pending : Pending := .nothing
  separated : Bool := false
deriving DecidableEq

/-- One piece of a value must be the exact name of a kind. -/
def kindOf (piece : Argument) : Except Stop Kind :=
  if piece.isEmpty then .error .missingValue
  else
    match Kind.all.find? fun kind => Utf8.encode kind.name == piece with
    | some kind => .ok kind
    | none => .error (.invalidValue piece.shown)

/-- A value names one or more kinds between commas. The first bad piece counts. -/
def kindsOf (value : Argument) : Except Stop (List Kind) :=
  (pieces 44 value).mapM kindOf

namespace State

/-- The kinds of a value go behind those already requested. -/
def addBlocks (state : State) (value : Argument) : Except Stop State := do
  let kinds ← kindsOf value
  return { state with
    options := { state.options with blocks := state.options.blocks ++ kinds }
    pending := .nothing }

/-- An open value is read when the next option is met, or at the end. -/
def settle (state : State) : Except Stop State :=
  match state.pending with
  | .nothing => .ok state
  | .awaiting => .error .missingValue
  | .held value => state.addBlocks value

/-- The verbose flag may be given once. -/
def turnVerbose (state : State) : Except Stop State := do
  let settled ← state.settle
  if settled.options.verbose then
    throw .repeatedVerbose
  return { settled with options := { settled.options with verbose := true } }

/-- A request for help stops the reading once the open value is in order. -/
def askHelp (state : State) (detail : HelpDetail) : Except Stop State := do
  let _ ← state.settle
  throw (.help detail)

/-- A value after the equals sign is read at once. -/
def openBlock (state : State) (value : Option Argument) : Except Stop State := do
  let settled ← state.settle
  match value with
  | some value => settled.addBlocks value
  | none => return { settled with pending := .awaiting }

/-- A flag refuses a value before the open value is looked at. -/
def takeLong (state : State) (name : Argument) (value : Option Argument) : Except Stop State :=
  if name = Utf8.encode "block" then state.openBlock value
  else if name = Utf8.encode "verbose" then
    match value with
    | some value => .error (.unexpectedValue .verbose value.shown)
    | none => state.turnVerbose
  else if name = Utf8.encode "help" then
    match value with
    | some value => .error (.unexpectedValue .help value.shown)
    | none => state.askHelp .full
  else .error (.unknownArgument ("--" ++ name.shown))

/-- An unknown flag is shown as its character, or with all that follows if it is unreadable. -/
def flagShown (byte : UInt8) (rest : Argument) : String :=
  match (Utf8.next byte rest).1 with
  | some flag => "-" ++ flag.toString
  | none => "-" ++ Argument.shown (byte :: rest)

/-- The flags of a cluster count one by one. -/
def takeShort (state : State) : Argument → Except Stop State
  | [] => .ok state
  | byte :: rest =>
      if byte = 118 then do
        let next ← state.turnVerbose
        next.takeShort rest
      else if byte = 104 then state.askHelp .summary
      else .error (.unknownArgument (flagShown byte rest))

/-- A plain argument has a place only as the value that is awaited. -/
def takePlain (state : State) (value : Argument) : Except Stop State :=
  match state.pending with
  | .awaiting => .ok { state with pending := .held value }
  | _ => .error (.unknownArgument value.shown)

/-- Nothing is accepted after the separator. -/
def take (state : State) (argument : Argument) : Except Stop State :=
  if state.separated then .error (.unknownArgument argument.shown)
  else
    match Token.ofArgument argument with
    | .separator => .ok { state with separated := true }
    | .long name value => state.takeLong name value
    | .short flags => state.takeShort flags
    | .plain value => state.takePlain value

/-- The arguments are taken from left to right until one of them stops the reading. -/
def takeAll (state : State) (arguments : List Argument) : Except Stop State :=
  arguments.foldlM take state

theorem takeAll_append (state : State) (first second : List Argument) :
    state.takeAll (first ++ second) = (do (← state.takeAll first).takeAll second) := by
  simp [takeAll]

end State

/-- The options are complete once the last open value is in order. -/
def parse (arguments : List Argument) : Except Stop Options := do
  let last ← State.takeAll {} arguments
  let settled ← last.settle
  return settled.options

end LoopProgress.CommandLine
