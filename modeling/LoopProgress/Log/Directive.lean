import LoopProgress.Log.Event
import LoopProgress.Log.Threshold
import LoopProgress.Text.Pattern.WellFormed
import LoopProgress.Text.Utf8

namespace LoopProgress

/-- A field is asked for by its name, or with a value too. -/
structure RequiredField where
  name : String
  value : Option String := none
deriving DecidableEq

namespace RequiredField

/-- A value is a pattern. A number with a plus sign is no pattern but counts as well. -/
def isValue (text : List Char) : Bool :=
  Number.isNumber text || Pattern.isWellFormed text

/-- The value stands between the first equals sign and the second. -/
def ofText? (text : List Char) : Option RequiredField :=
  let name := String.ofList (text.takeWhile (· ≠ '='))
  match text.dropWhile (· ≠ '=') with
  | [] => if text.isEmpty then none else some { name }
  | _ :: rest =>
      let value := rest.takeWhile (· ≠ '=')
      if isValue value then some { name, value := some (String.ofList value) } else none

end RequiredField

/-- A directive sets the threshold for every target that starts with its own. It can be narrowed to
a span and to events with a field. -/
structure Directive where
  target : String := ""
  span : Option String := none
  field : Option RequiredField := none
  threshold : Threshold
deriving DecidableEq

namespace Directive

/-- A directive is read without the blanks around it, but its parts are copied from the whole text.
Every byte that is read comes with the byte at the same distance from the start of the whole text.
The bytes past the last of them are left over. -/
structure Source where
  columns : List (UInt8 × UInt8)
  leftover : List UInt8

namespace Source

def ofText (text : List Char) : Source :=
  let whole := Utf8.encode (String.ofList text)
  let read := Utf8.encode (String.ofList (CharacterClass.trim text))
  ⟨read.zip whole, whole.drop read.length⟩

def startsWith (source : Source) (sign : Char) : Bool :=
  source.columns.head?.any fun column => column.1 = sign.toUInt8

def tail (source : Source) : Source :=
  { source with columns := source.columns.tail }

def stops (signs : List Char) (column : UInt8 × UInt8) : Bool :=
  signs.any fun sign => column.1 = sign.toUInt8

/-- A part ends before the first of the signs. One that would split a character cannot be read. -/
def upTo? (source : Source) (signs : List Char) : Option (List Char) :=
  Utf8.decode? ((source.columns.takeWhile fun column => !stops signs column).map Prod.snd)

def startingAt (source : Source) (signs : List Char) : Source :=
  { source with columns := source.columns.dropWhile fun column => !stops signs column }

/-- The last part takes in what is left over. -/
def toEnd? (source : Source) : Option (List Char) :=
  Utf8.decode? (source.columns.map Prod.snd ++ source.leftover)

/-- A missing threshold lets everything through. -/
def threshold? (source : Source) : Option Threshold := do
  let text ← source.toEnd?
  if text.isEmpty then return .upTo .trace else Threshold.ofText? text

/-- What follows the brackets is nothing, or an equals sign with a threshold. -/
def ending? (source : Source) : Option Threshold :=
  if source.startsWith '=' then source.tail.threshold?
  else if source.columns.isEmpty then some (.upTo .trace)
  else none

/-- A field ends at the closing brace, and the closing bracket comes next. -/
def field? (source : Source) : Option (RequiredField × Source) := do
  let field ← RequiredField.ofText? (← source.upTo? ['}'])
  let rest := (source.startingAt ['}']).tail
  if rest.startsWith ']' then return (field, rest.tail) else none

/-- The brackets hold the name of a span, a field in braces, or the one before the other. -/
def narrowed? (source : Source) (target : String) : Option Directive := do
  let name := String.ofList (← source.upTo? [']', '{'])
  let rest := source.startingAt [']', '{']
  if rest.startsWith ']' then
    return { target, span := some name, threshold := ← rest.tail.ending? }
  else if rest.startsWith '{' then
    let (field, rest) ← rest.tail.field?
    return {
      target
      span := if name.isEmpty then none else some name
      field := some field
      threshold := ← rest.ending? }
  else none

/-- A target ends at an equals sign or at an opening bracket. -/
def targeted? (source : Source) : Option Directive := do
  let target := String.ofList (← source.upTo? ['=', '['])
  let rest := source.startingAt ['=', '[']
  if rest.startsWith '=' then return { target, threshold := ← rest.tail.threshold? }
  else rest.tail.narrowed? target

end Source

/-- A target starts with a letter, a digit or one of these signs. -/
def isStart (character : Char) : Bool :=
  CharacterClass.isAlphanumeric character || character ∈ ['-', ':', '_']

/-- A text without signs is a threshold, or else a target that everything is let through for. -/
def ofPlain (text : List Char) : Directive :=
  match Threshold.ofText? text with
  | some threshold => { threshold }
  | none => { target := String.ofList text, threshold := .upTo .trace }

/-- A directive opens with the brackets, with a target, or is plain. -/
def ofText? (text : List Char) : Option Directive := do
  let first ← (CharacterClass.trim text).head?
  let source := Source.ofText text
  if first = '[' then source.tail.narrowed? ""
  else if isStart first then
    if source.columns.any (Source.stops ['=', '[']) then source.targeted?
    else return ofPlain text
  else none

/-- An event carries no field but its message, and happens inside no span. -/
def appliesTo (directive : Directive) (event : LogEvent) : Bool :=
  directive.target.toList.isPrefixOf event.target.toList && directive.span = none &&
    directive.field.all fun field => field = { name := "message" }

/-- The longer target is the more specific one. Among equal ones a field counts. -/
def specificity (directive : Directive) : Nat :=
  2 * directive.target.length + if directive.field.isSome then 1 else 0

end Directive

end LoopProgress
