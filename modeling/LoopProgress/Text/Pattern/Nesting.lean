namespace LoopProgress.Pattern

/-- A pattern must not be nested more deeply. -/
def depthLimit : Nat := 250

/-- Parts that stand together are held by a level of their own. A single part needs none. -/
def joinedDepth : List Nat → Nat
  | [] => 0
  | [depth] => depth
  | depths => depths.foldl Nat.max 0 + 1

/-- A part of a group is a change of modes, which nothing can repeat, or is nested to a depth. -/
inductive Part where
  | modes
  | nested (depth : Nat)
deriving DecidableEq

def Part.depth : Part → Nat
  | .modes => 0
  | .nested depth => depth

/-- A group holds the depths of its finished branches and the parts of the open one. The last part
comes first. -/
structure Group where
  branches : List Nat := []
  parts : List Part := []
deriving DecidableEq

namespace Group

def add (group : Group) (part : Part) : Group :=
  { group with parts := part :: group.parts }

def branchDepth (group : Group) : Nat :=
  joinedDepth (group.parts.map Part.depth)

def endBranch (group : Group) : Group :=
  { branches := group.branchDepth :: group.branches }

def depth (group : Group) : Nat :=
  joinedDepth (group.branchDepth :: group.branches)

/-- A repetition takes the place of the last part. -/
def repeated? (group : Group) : Option Group :=
  match group.parts with
  | .nested depth :: parts => some { group with parts := .nested (depth + 1) :: parts }
  | _ => none

end Group

/-- A class holds the depths of its items, and of what stands before its last operator. -/
structure Class where
  left : Option Nat := none
  items : List Nat := []
deriving DecidableEq

namespace Class

def add (members : Class) (depth : Nat) : Class :=
  { members with items := depth :: members.items }

/-- An operator is a level above both its sides. -/
def depth (members : Class) : Nat :=
  match members.left with
  | none => joinedDepth members.items
  | some left => Nat.max left (joinedDepth members.items) + 1

/-- What stands before an operator is its left side. -/
def endSide (members : Class) : Class :=
  { left := some members.depth }

end Class

end LoopProgress.Pattern
