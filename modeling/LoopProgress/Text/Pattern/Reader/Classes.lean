import LoopProgress.Text.Pattern.Reader

namespace LoopProgress.Pattern.Reader

def openClass (reader : Reader) : Reader :=
  { reader with place := .classHead, classes := {} :: reader.classes }

/-- A class inside a class is an item of it. -/
def closeClass (reader : Reader) : Option Reader :=
  match reader.classes with
  | [] => none
  | [last] => some ({ reader with classes := [] }.addPart (.nested (last.depth + 1)))
  | inner :: classes => some ({ reader with classes }.addItem (inner.depth + 1))

/-- These classes have names. -/
def classNames : List String :=
  ["alnum", "alpha", "ascii", "blank", "cntrl", "digit", "graph", "lower", "print", "punct",
    "space", "upper", "word", "xdigit"]

/-- A named class stands between brackets with colons, and a circumflex before the name negates
it. The number counts the characters that follow the opening bracket. -/
def namedClass? : List Char → Option (Bool × Nat)
  | ':' :: rest =>
      let negated := rest.head? = some '^'
      let rest := if negated then rest.tail else rest
      let name := rest.takeWhile (· ≠ ':')
      let closed := [':', ']'].isPrefixOf (rest.drop name.length)
      if closed && classNames.contains (String.ofList name) then
        some (negated, name.length + if negated then 4 else 3)
      else none
  | _ => none

/-- A doubled sign is an operator between two sides. -/
def isOperator (character : Char) (rest : List Char) : Bool :=
  character ∈ ['&', '-', '~'] && rest.head? = some character

/-- An item of a class is a class or a character. -/
def stepItem (reader : Reader) (character : Char) (rest : List Char) : Option Reader :=
  match character with
  | '[' =>
      match namedClass? rest with
      | some (negated, length) =>
          if reader.modes.allowsNamed negated then some { reader.addItem 0 with ahead := length }
          else none
      | none => some reader.openClass
  | ']' => reader.closeClass
  | '\\' => some (reader.moveTo (.escaped .item))
  | _ =>
      if isOperator character rest then
        some { reader with
          place := .atom .item
          classes := reader.classes.modifyHead Class.endSide
          ahead := 1 }
      else reader.accept .item (.character character false)

/-- A dash makes no range before the end of a class or before another dash. -/
def stepAfter (reader : Reader) (first : Option Char) (character : Char) (rest : List Char) :
    Option Reader :=
  if character = '-' ∧ reader.modes.following? rest ∉ [some ']', some '-'] then do
    return reader.moveTo (.atom (.rangeEnd (← first)))
  else reader.stepItem character rest

/-- A dash or a closing bracket at the start of a class is a character. -/
def stepHead (reader : Reader) (character : Char) (rest : List Char) : Option Reader :=
  if character = '-' then
    (reader.accept .item (.character '-' false)).map (·.moveTo .classDashes)
  else if character = ']' then
    (reader.accept .item (.character ']' false)).map (·.moveTo (.atom .item))
  else reader.stepItem character rest

end LoopProgress.Pattern.Reader
