import LoopProgress.Text.Pattern.Reader.Escapes
import LoopProgress.Text.Pattern.Reader.Groups

namespace LoopProgress.Pattern

namespace Reader

/-- Only a question mark right after a repetition belongs to it. -/
def settle (reader : Reader) (character : Char) : Reader :=
  if reader.place = .repeated ∧ character ≠ '?' then reader.moveTo (.atom .outside) else reader

def stepPlace (reader : Reader) (character : Char) (rest : List Char) : Option Reader :=
  match reader.place with
  | .atom .outside => reader.stepOutside character
  | .atom .item => reader.stepItem character rest
  | .atom (.rangeEnd first) =>
      if character = '\\' then some (reader.moveTo (.escaped (.rangeEnd first)))
      else reader.accept (.rangeEnd first) (.character character false)
  | .escaped site => reader.stepEscaped site character
  | .numbered site byTwoDigits missing number =>
      reader.stepNumbered site byTwoDigits missing number character
  | .repeated => some (reader.moveTo (.atom .outside))
  | .groupHead =>
      if character = '?' then some (reader.moveTo .groupMark)
      else (reader.openGroup reader.modes).stepOutside character
  | .groupMark =>
      if character = '<' then some (reader.moveTo (.groupName []))
      else if character = 'P' then some (reader.moveTo .groupSecondMark)
      else reader.stepFlags [] character
  | .groupSecondMark => if character = '<' then some (reader.moveTo (.groupName [])) else none
  | .groupName name => reader.stepName name character
  | .groupFlags flags => reader.stepFlags flags character
  | .classHead =>
      if character = '^' then
        if reader.modes.wide then some (reader.moveTo .classStart) else none
      else reader.stepHead character rest
  | .classStart => reader.stepHead character rest
  | .classDashes =>
      if character = '-' then reader.stepHead character rest else reader.stepItem character rest
  | .classAfter first => reader.stepAfter first character rest

/-- A comment runs from its sign to the end of the line. -/
def step (reader : Reader) (character : Char) (rest : List Char) : Option Reader :=
  let reader := reader.settle character
  let loose := reader.modes.spaced && reader.place.isLoose
  if reader.ahead > 0 then some { reader with ahead := reader.ahead - 1 }
  else if reader.inComment then some { reader with inComment := character ≠ '\n' }
  else if loose && CharacterClass.blank.contains character then some reader
  else if loose && character = '#' then some { reader with inComment := true }
  else reader.stepPlace character rest

def run (reader : Reader) : List Char → Option Reader
  | [] => some reader
  | character :: rest => do (← reader.step character rest).run rest

/-- At the end everything must be closed. -/
def isComplete (reader : Reader) : Bool :=
  reader.outer.isEmpty && (reader.place = .atom .outside || reader.place = .repeated) &&
    reader.group.depth ≤ depthLimit

end Reader

/-- A pattern is well formed if every character of it can be read. -/
def isWellFormed (text : List Char) : Bool :=
  (Reader.run {} text).any Reader.isComplete

end LoopProgress.Pattern
