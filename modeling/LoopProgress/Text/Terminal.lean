import LoopProgress.Text.Utf8

namespace LoopProgress.Terminal

/-- A terminal stands between characters, or inside an escape sequence of some kind. -/
inductive Mode where
  | ground
  | escape
  | escapeIntermediate
  | control
  | deviceEntry
  | deviceParameter
  | deviceIntermediate
  | controlString
  | systemCommand
deriving DecidableEq

/-- The bytes from 64 to 126 end most sequences. -/
def isFinal (byte : UInt8) : Bool :=
  0x40 ≤ byte && byte ≤ 0x7E

def isIntermediate (byte : UInt8) : Bool :=
  0x20 ≤ byte && byte ≤ 0x2F

/-- The byte after an escape selects the kind of sequence, or is all of it. -/
def Mode.selected (byte : UInt8) : Mode :=
  if byte = 0x50 then .deviceEntry
  else if byte = 0x5B then .control
  else if byte = 0x5D then .systemCommand
  else if byte = 0x58 ∨ byte = 0x5E ∨ byte = 0x5F then .controlString
  else if isIntermediate byte then .escapeIntermediate
  else if 0x30 ≤ byte ∧ byte ≤ 0x7E then .ground
  else .escape

/-- Every mode reacts in the same way to the bytes that cancel a sequence and to a new escape. A
byte that means nothing to a mode leaves it as it is. -/
def Mode.after (mode : Mode) (byte : UInt8) : Mode :=
  if byte = 0x18 ∨ byte = 0x1A then .ground
  else if byte = 0x1B then .escape
  else
    match mode with
    | .ground => .ground
    | .escape => .selected byte
    | .escapeIntermediate => if 0x30 ≤ byte ∧ byte ≤ 0x7E then .ground else .escapeIntermediate
    | .control => if isFinal byte then .ground else .control
    | .deviceEntry =>
        if isFinal byte then .controlString
        else if isIntermediate byte then .deviceIntermediate
        else if 0x30 ≤ byte ∧ byte ≤ 0x3F then .deviceParameter
        else .deviceEntry
    | .deviceParameter =>
        if 0x3C ≤ byte ∧ byte ≤ 0x7E then .controlString
        else if isIntermediate byte then .deviceIntermediate
        else .deviceParameter
    | .deviceIntermediate =>
        if 0x30 ≤ byte ∧ byte ≤ 0x7E then .controlString else .deviceIntermediate
    | .controlString => if byte = 0x9C then .ground else .controlString
    | .systemCommand => if byte = 0x07 then .ground else .systemCommand

def isPrintable (byte : UInt8) : Bool :=
  0x20 ≤ byte && byte ≤ 0x7E

/-- The vertical tab does not count here. -/
def isWhiteControl (byte : UInt8) : Bool :=
  byte = 0x09 || byte = 0x0A || byte = 0x0C || byte = 0x0D

/-- These bytes start a character of more than one byte. -/
def isLead (byte : UInt8) : Bool :=
  0xC2 ≤ byte && byte ≤ 0xF4

/-- White space is shown inside the short sequences too. -/
def Mode.shows (mode : Mode) (byte : UInt8) : Bool :=
  match mode with
  | .ground => isPrintable byte || isWhiteControl byte || isLead byte
  | .escape | .escapeIntermediate | .control => isWhiteControl byte
  | _ => false

/-- The shown bytes come in runs. A run goes on as between the sequences, and takes in every byte of
a longer character. Such a character ends the sequence around the run. Without one, either the
sequence resumes after the run or the run itself has ended it. -/
def shownBytes (resumes : Bool) : Mode → Bool → List UInt8 → List UInt8
  | _, _, [] => []
  | mode, true, byte :: rest =>
      if 0x80 ≤ byte then byte :: shownBytes resumes .ground true rest
      else if Mode.ground.shows byte then byte :: shownBytes resumes mode true rest
      else shownBytes resumes (mode.after byte) false rest
  | mode, false, byte :: rest =>
      if mode.shows byte then
        byte :: shownBytes resumes (if resumes then mode.after byte else .ground) true rest
      else shownBytes resumes (mode.after byte) false rest

def shown (resumes : Bool) (text : String) : String :=
  String.ofList (Utf8.decodeLossy (shownBytes resumes .ground true (Utf8.encode text)))

/-- A text is left without its escape sequences and controls. -/
def visible : String → String := shown false

/-- A stream loses the same, and a sequence in it resumes. -/
def streamed : String → String := shown true

end LoopProgress.Terminal
