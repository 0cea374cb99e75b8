import LoopProgress.Store

namespace LoopProgress

/-- These settings say how many lines a store takes, and how it fails beyond them. -/
structure LineSettings where
  limit : Option Nat := none
  failure : Failure := .output .readerClosed
  finishFailure : Option Failure := none
deriving DecidableEq

namespace LineSettings

/-- A full store has reached its limit or lies above it. -/
def full (settings : LineSettings) (held : Nat) : Bool :=
  settings.limit.any fun limit => limit ≤ held

/-- A line is kept behind the others, unless they fill the store. -/
def take (settings : LineSettings) (line : String) (lines : List String) :
    Except Failure Unit × List String :=
  if settings.full lines.length then (.error settings.failure, lines) else (.ok (), lines ++ [line])

end LineSettings

/-- This store keeps lines and counts how often it was finished. -/
structure LineStore where
  lines : List String := []
  settings : LineSettings := {}
  finishes : Nat := 0

namespace LineStore

def putLine (line : String) (store : LineStore) : Except Failure Unit × LineStore :=
  let (outcome, lines) := store.settings.take line store.lines
  (outcome, { store with lines })

/-- A line is kept exactly if it was taken. -/
theorem putLine_lines (line : String) (store : LineStore) :
    (store.putLine line).2.lines =
      match (store.putLine line).1 with
      | .ok _ => store.lines ++ [line]
      | .error _ => store.lines := by
  rw [putLine, LineSettings.take]
  cases store.settings.full store.lines.length <;> rfl

def finish (store : LineStore) : Except Failure Unit × LineStore :=
  match store.settings.finishFailure with
  | some failure => (.error failure, store)
  | none => (.ok (), { store with finishes := store.finishes + 1 })

instance : Store LineStore LineSettings String where
  putLine line := .ofEffect (LineStore.putLine line)
  finish := .ofEffect LineStore.finish
  contents := lines
  configure settings store := { store with settings }
  handOut? _ := none
  emptied store := store
  finishes? store := some store.finishes

end LineStore

/-- This store keeps lines and has nothing to do when it is finished. -/
structure PlainStore where
  lines : List String := []
  settings : LineSettings := {}

namespace PlainStore

def putLine (line : String) (store : PlainStore) : Except Failure Unit × PlainStore :=
  let (outcome, lines) := store.settings.take line store.lines
  (outcome, { store with lines })

instance : Store PlainStore LineSettings String where
  putLine line := .ofEffect (PlainStore.putLine line)
  contents := lines
  configure settings store := { store with settings }
  handOut? _ := none
  emptied store := store
  finishes? _ := none

end PlainStore

end LoopProgress
