namespace LoopProgress.Number

/-- A natural number may start with a plus sign and with zeros. -/
def natural? (text : List Char) : Option Nat :=
  let digits := if text.head? = some '+' then text.tail else text
  if digits ≠ [] ∧ digits.all Char.isDigit then
    some (digits.foldl (fun number digit => 10 * number + (digit.toNat - 48)) 0)
  else none

/-- A sign of either kind may stand before a number. -/
def unsigned : List Char → List Char
  | '+' :: text => text
  | '-' :: text => text
  | text => text

/-- An exponent may be missing. -/
def isExponent : List Char → Bool
  | [] => true
  | mark :: text =>
      (mark = 'e' || mark = 'E') && unsigned text ≠ [] && (unsigned text).all Char.isDigit

/-- A decimal has a digit on at least one side of its point. -/
def isDecimal (text : List Char) : Bool :=
  let whole := text.takeWhile Char.isDigit
  match text.dropWhile Char.isDigit with
  | '.' :: rest =>
      let fraction := rest.takeWhile Char.isDigit
      whole ++ fraction ≠ [] && isExponent (rest.dropWhile Char.isDigit)
  | rest => whole ≠ [] && isExponent rest

/-- The infinite numbers and the number that is none are written in any case. -/
def isNumber (text : List Char) : Bool :=
  let magnitude := unsigned text
  isDecimal magnitude || magnitude.map Char.toLower ∈ ["inf", "infinity", "nan"].map String.toList

end LoopProgress.Number
