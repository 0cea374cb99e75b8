import LoopProgress.Request
import LoopProgress.Store

namespace LoopProgress.Session

/-- A session takes these steps on one store. Blocks of any role take part, and requested ones unless
others are named. To take leaves a copy behind, and to drain leaves nothing. -/
inductive Step (settings : Type) (role : Type := BlockRequest) where
  | putLine (line : String)
  | finish
  | block (role : role)
  | run (request : PlanRequest role)
  | configure (settings : settings)
  | take
  | drain

/-- Each step is answered by what it returned. -/
inductive Reply (item : Type) where
  | done (outcome : Except Failure Unit)
  | reported (outcome : Except Failure Report)
  | ran (kinds : List Kind) (outcome : Except Failure Summary) (events : List RunEvent)
  | taken (contents : Option (List item))

/-- A snapshot shows what has arrived since the last one, and how much the store holds. -/
structure Snapshot (item : Type) where
  arrived : List item
  size : Nat
  finishes? : Option Nat

/-- An entry pairs the reply to a step with the snapshot after it. -/
structure Entry (item : Type) where
  reply : Reply item
  snapshot : Snapshot item

variable {store settings item role : Type} [Store store settings item] [Role role]

/-- This function takes one step. A failure is part of the reply and leaves the store in place. -/
def Step.perform (step : Step settings role) (start : store) : Reply item × store :=
  match step with
  | .putLine line =>
      let (outcome, after) := (LoopProgress.putLine line : OutletM store Unit).on start
      (.done outcome, after)
  | .finish =>
      let (outcome, after) := (LoopProgress.finish : OutletM store Unit).on start
      (.done outcome, after)
  | .block role =>
      let (outcome, after) := (Role.block role : Block store).run.on start
      (.reported outcome, after)
  | .run request =>
      let plan : Plan store := request.plan
      let run := plan.runOn start
      (.ran plan.kinds run.outcome run.events, run.outlet)
  | .configure settings => (.done (.ok ()), Store.configure settings start)
  | .take => (.taken (Store.handOut? start), start)
  | .drain => (.taken (Store.handOut? start), Store.emptied start)

/-- What was already there does not arrive again. -/
def snapshot (before after : store) : Snapshot item where
  arrived := (Store.contents after).drop (Store.contents before).length
  size := (Store.contents after).length
  finishes? := Store.finishes? after

/-- The steps follow one another whether they fail or not. -/
def run : List (Step settings role) → store → List (Entry item) × store
  | [], start => ([], start)
  | step :: rest, start =>
      let (reply, after) := step.perform start
      let (entries, last) := run rest after
      (⟨reply, snapshot start after⟩ :: entries, last)

end LoopProgress.Session
