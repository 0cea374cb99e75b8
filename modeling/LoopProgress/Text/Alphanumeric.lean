import LoopProgress.Text.Alphabetic
import LoopProgress.Text.Numeric

namespace LoopProgress.CharacterClass

/-- A number that is written as a letter belongs to both classes. -/
def isAlphanumeric (character : Char) : Bool :=
  alphabetic.contains character || numeric.contains character

end LoopProgress.CharacterClass
