import LoopProgress.Store

namespace LoopProgress

/-- A call keeps a line that was offered, the answer, and the outlet on both sides of it. -/
structure Call (outlet : Type) where
  line : String
  outcome : Except Failure Unit
  before : outlet
  after : outlet

/-- A recorder stands in front of an outlet and notes every call that reaches it. -/
structure Recorder (outlet : Type) where
  inner : outlet
  calls : List (Call outlet) := []
  finishes : List (Except Failure Unit) := []

namespace Recorder

variable {outlet : Type}

def putLine [Outlet outlet] (line : String) (recorder : Recorder outlet) :
    Except Failure Unit × Recorder outlet :=
  let (outcome, after) := (LoopProgress.putLine line : OutletM outlet Unit).on recorder.inner
  (outcome,
    { recorder with
      inner := after
      calls := recorder.calls ++ [⟨line, outcome, recorder.inner, after⟩] })

def finish [Outlet outlet] (recorder : Recorder outlet) :
    Except Failure Unit × Recorder outlet :=
  let (outcome, after) := (LoopProgress.finish : OutletM outlet Unit).on recorder.inner
  (outcome, { recorder with inner := after, finishes := recorder.finishes ++ [outcome] })

instance [Outlet outlet] : Outlet (Recorder outlet) where
  putLine line := .ofEffect (Recorder.putLine line)
  finish := .ofEffect Recorder.finish

/-- The inner outlet answers as if it were alone. -/
theorem putLine_inner [Outlet outlet] (line : String) (recorder : Recorder outlet) :
    ((recorder.putLine line).1, (recorder.putLine line).2.inner) =
      (LoopProgress.putLine line : OutletM outlet Unit).on recorder.inner := rfl

theorem finish_inner [Outlet outlet] (recorder : Recorder outlet) :
    (recorder.finish.1, recorder.finish.2.inner) =
      (LoopProgress.finish : OutletM outlet Unit).on recorder.inner := rfl

instance {settings item : Type} [Store outlet settings item] :
    Store (Recorder outlet) settings item where
  contents recorder := Store.contents recorder.inner
  configure settings recorder :=
    { recorder with inner := Store.configure settings recorder.inner }
  handOut? recorder := Store.handOut? recorder.inner
  emptied recorder := { recorder with inner := Store.emptied recorder.inner }
  finishes? recorder := Store.finishes? recorder.inner

end Recorder

end LoopProgress
