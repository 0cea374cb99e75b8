namespace LoopProgress

/-- A class of characters is given by ranges of their numbers, with both ends included. -/
structure CharacterClass where
  ranges : List (Nat × Nat)

namespace CharacterClass

def contains (members : CharacterClass) (character : Char) : Bool :=
  members.ranges.any fun range =>
    range.1 ≤ character.toNat && character.toNat ≤ range.2

/-- These are the white space characters of all scripts. -/
def blank : CharacterClass :=
  ⟨[(0x9, 0xD), (0x20, 0x20), (0x85, 0x85), (0xA0, 0xA0), (0x1680, 0x1680), (0x2000, 0x200A),
    (0x2028, 0x2029), (0x202F, 0x202F), (0x205F, 0x205F), (0x3000, 0x3000)]⟩

/-- The blanks at both ends are taken off. -/
def trim (text : List Char) : List Char :=
  let withoutLeading := text.dropWhile blank.contains
  (withoutLeading.reverse.dropWhile blank.contains).reverse

end CharacterClass

end LoopProgress
