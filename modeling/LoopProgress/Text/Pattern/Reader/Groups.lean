import LoopProgress.Text.Alphanumeric
import LoopProgress.Text.Pattern.Reader.Classes

namespace LoopProgress.Pattern.Reader

/-- A group has modes of its own, and the modes around it come back at its end. -/
def openGroup (reader : Reader) (modes : Modes) : Reader :=
  { reader with
    place := .atom .outside
    modes
    group := {}
    outer := (reader.modes, reader.group) :: reader.outer }

def closeGroup (reader : Reader) : Option Reader :=
  match reader.outer with
  | [] => none
  | (modes, group) :: outer =>
      some { reader with
        place := .atom .outside
        modes
        group := group.add (.nested (reader.group.depth + 1))
        outer }

/-- A repetition needs something to repeat. A pattern holds no closing brace, so a count in braces
never ends. -/
def stepOutside (reader : Reader) (character : Char) : Option Reader :=
  match character with
  | '(' => some (reader.moveTo .groupHead)
  | ')' => reader.closeGroup
  | '|' => some { reader with group := reader.group.endBranch }
  | '[' => some reader.openClass
  | '{' => none
  | '*' | '+' | '?' => do
      return { reader with place := .repeated, group := ← reader.group.repeated? }
  | '\\' => some (reader.moveTo (.escaped .outside))
  | '.' => reader.accept .outside .any
  | '^' | '$' => reader.accept .outside .edge
  | _ => reader.accept .outside (.character character false)

/-- A name starts with a letter or an underscore. -/
def isNameStart (character : Char) : Bool :=
  character = '_' || CharacterClass.alphabetic.contains character

def isNameCharacter (character : Char) : Bool :=
  character ∈ ['_', '.', '[', ']'] || CharacterClass.isAlphanumeric character

/-- The name of a group must be new. -/
def stepName (reader : Reader) (name : List Char) (character : Char) : Option Reader :=
  if character = '>' then
    if name.isEmpty || reader.names.contains (String.ofList name) then none
    else some { reader.openGroup reader.modes with names := String.ofList name :: reader.names }
  else if isNameStart character || !name.isEmpty && isNameCharacter character then
    some (reader.moveTo (.groupName (name ++ [character])))
  else none

/-- No flag is given twice, and a dash comes before a flag. Flags without a group change the modes
for the rest of the group around them. -/
def stepFlags (reader : Reader) (flags : List Char) (character : Char) : Option Reader :=
  if character = ':' then
    if flags.getLast? = some '-' then none else some (reader.openGroup (reader.modes.apply flags))
  else if character = ')' then
    if flags.isEmpty || flags.getLast? = some '-' then none
    else some ({ reader with modes := reader.modes.apply flags }.addPart .modes)
  else if character ∈ '-' :: Modes.letters ∧ character ∉ flags then
    some (reader.moveTo (.groupFlags (flags ++ [character])))
  else none

end LoopProgress.Pattern.Reader
