import LoopProgress.Text.Pattern.Modes
import LoopProgress.Text.Pattern.Nesting

namespace LoopProgress.Pattern

/-- An atom is read outside of all classes, as an item of a class, or as the end of a range. -/
inductive Site where
  | outside
  | item
  | rangeEnd (first : Char)
deriving DecidableEq

/-- The place of a reader decides what the next character means. -/
inductive Place where
  | atom (site : Site)
  | escaped (site : Site)
  | numbered (site : Site) (byTwoDigits : Bool) (missing : Nat) (number : Nat)
  | repeated
  | groupHead
  | groupMark
  | groupSecondMark
  | groupName (name : List Char)
  | groupFlags (flags : List Char)
  | classHead
  | classStart
  | classDashes
  | classAfter (first : Option Char)
deriving DecidableEq

/-- In the spaced mode a pattern can be laid out freely at these places. -/
def Place.isLoose : Place → Bool
  | .atom _ | .numbered _ _ _ _ | .groupHead => true
  | .classHead | .classStart | .classDashes | .classAfter _ => true
  | _ => false

/-- A reader keeps the open group and those around it with their modes, the open classes from the
inside out, and the names of all groups. It passes over the characters that it has read ahead. -/
structure Reader where
  place : Place := .atom .outside
  inComment : Bool := false
  ahead : Nat := 0
  modes : Modes := {}
  group : Group := {}
  outer : List (Modes × Group) := []
  classes : List Class := []
  names : List String := []
deriving DecidableEq

namespace Reader

def moveTo (reader : Reader) (place : Place) : Reader :=
  { reader with place }

def addPart (reader : Reader) (part : Part) : Reader :=
  { reader with place := .atom .outside, group := reader.group.add part }

def addItem (reader : Reader) (depth : Nat) : Reader :=
  { reader with place := .atom .item, classes := reader.classes.modifyHead (·.add depth) }

/-- An item may turn out to be the start of a range, and a range runs upwards. -/
def accept (reader : Reader) (site : Site) (atom : Atom) : Option Reader :=
  match site, atom with
  | .outside, atom => if reader.modes.allows atom then some (reader.addPart (.nested 0)) else none
  | .item, .character first _ =>
      if reader.modes.allowsInClass atom then
        some ((reader.addItem 0).moveTo (.classAfter (some first)))
      else none
  | .item, atom =>
      if reader.modes.allowsInClass atom then
        some ((reader.addItem 0).moveTo (.classAfter none))
      else none
  | .rangeEnd first, .character last _ =>
      if reader.modes.allowsInClass atom ∧ first ≤ last then some (reader.moveTo (.atom .item))
      else none
  | .rangeEnd _, _ => none

end Reader

end LoopProgress.Pattern
