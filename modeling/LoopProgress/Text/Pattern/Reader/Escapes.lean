import LoopProgress.Text.Pattern.Reader

namespace LoopProgress.Pattern.Reader

def hexDigit? (digit : Char) : Option Nat :=
  if digit.isDigit then some (digit.toNat - 48)
  else if 'a' ≤ digit ∧ digit ≤ 'f' then some (digit.toNat - 87)
  else if 'A' ≤ digit ∧ digit ≤ 'F' then some (digit.toNat - 55)
  else none

/-- The last digit completes the number of a character. -/
def stepNumbered (reader : Reader) (site : Site) (byTwoDigits : Bool) (missing number : Nat)
    (digit : Char) : Option Reader := do
  let number := 16 * number + (← hexDigit? digit)
  if missing > 1 then return reader.moveTo (.numbered site byTwoDigits (missing - 1) number)
  else if number.isValidChar then reader.accept site (.character (Char.ofNat number) byTwoDigits)
  else none

/-- These letters stand for control characters. -/
def controls : List (Char × Char) :=
  [('a', '\x07'), ('f', '\x0C'), ('t', '\t'), ('n', '\n'), ('r', '\r'), ('v', '\x0B')]

/-- After a backslash a letter must have a meaning, and a plain sign stands for itself. -/
def stepEscaped (reader : Reader) (site : Site) (character : Char) : Option Reader :=
  match character with
  | 'x' => some (reader.moveTo (.numbered site true 2 0))
  | 'u' => some (reader.moveTo (.numbered site false 4 0))
  | 'U' => some (reader.moveTo (.numbered site false 8 0))
  | 'd' | 's' | 'w' => reader.accept site (.kind false)
  | 'D' | 'S' | 'W' => reader.accept site (.kind true)
  | 'A' | 'z' => reader.accept site .edge
  | 'b' | 'B' | '<' | '>' => reader.accept site .wordEdge
  | _ =>
      match controls.lookup character with
      | some control => reader.accept site (.character control false)
      | none =>
          if character.isAlphanum ∨ 0x80 ≤ character.toNat then none
          else reader.accept site (.character character false)

end LoopProgress.Pattern.Reader
