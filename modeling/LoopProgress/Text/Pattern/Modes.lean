import LoopProgress.Text.CharacterClass

namespace LoopProgress.Pattern

/-- An atom of a pattern stands for a character, for one of many characters, or for a place between
two characters. -/
inductive Atom where
  | character (character : Char) (byTwoDigits : Bool)
  | any
  | kind (negated : Bool)
  | edge
  | wordEdge
deriving DecidableEq

/-- In the spaced mode a pattern can be laid out with white space and comments. The other two modes
ignore case and look at whole characters instead of plain ones. -/
structure Modes where
  spaced : Bool := false
  anyCase : Bool := false
  wide : Bool := true
deriving DecidableEq

namespace Modes

/-- These letters name the modes. The last ones change nothing about what can be read. -/
def letters : List Char :=
  ['x', 'i', 'u', 'm', 's', 'U', 'R']

def set (on : Bool) (modes : Modes) : Char → Modes
  | 'x' => { modes with spaced := on }
  | 'i' => { modes with anyCase := on }
  | 'u' => { modes with wide := on }
  | _ => modes

/-- Letters before the dash turn modes on, and letters after it turn modes off. -/
def apply (modes : Modes) (flags : List Char) : Modes :=
  (flags.dropWhile (· ≠ '-')).foldl (set false) ((flags.takeWhile (· ≠ '-')).foldl (set true) modes)

/-- No table of cases, of words or of kinds of characters covers all scripts. So a wide pattern
cannot ask for them. A pattern that is not wide must not match parts of a character. -/
def allows (modes : Modes) : Atom → Bool
  | .character character byTwoDigits =>
      if modes.wide then !modes.anyCase else !(byTwoDigits && 0x80 ≤ character.toNat)
  | .any => modes.wide
  | .kind negated => !modes.wide && !negated
  | .edge => true
  | .wordEdge => !modes.wide

/-- A class holds no places. One that is not wide holds plain characters only. -/
def allowsInClass (modes : Modes) : Atom → Bool
  | .character character _ =>
      if modes.wide then !modes.anyCase else character.toNat < 0x80
  | .kind negated => !modes.wide && !negated
  | _ => false

/-- The opposite of a plain class has members that are not plain. -/
def allowsNamed (modes : Modes) (negated : Bool) : Bool :=
  if modes.wide then !modes.anyCase else !negated

def skipBlanks (modes : Modes) (text : List Char) : List Char :=
  if modes.spaced then text.dropWhile CharacterClass.blank.contains else text

/-- The next character of a spaced pattern is looked for past the blanks and past one comment sign.
The look does not pass over the comment. -/
def following? (modes : Modes) (text : List Char) : Option Char :=
  match modes.skipBlanks text with
  | '#' :: comment => if modes.spaced then (modes.skipBlanks comment).head? else some '#'
  | rest => rest.head?

end Modes

end LoopProgress.Pattern
