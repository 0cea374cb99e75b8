import LoopProgress.Proofs.ScriptsInRow

namespace LoopProgress

variable {outlet role α : Type}

namespace OutletM

/-- This action passes on the answer to another one, and does not fail itself. -/
def answer (action : OutletM outlet α) : OutletM outlet (Except Failure α) :=
  .ofEffect fun start => (.ok (action.on start).1, (action.on start).2)

end OutletM

/-- A dialogue decides from the answers so far which line it offers next, whether it finishes the
outlet, and how it ends. It may go on after a failure. -/
inductive Dialogue (α : Type) where
  | ends (outcome : Except Failure α)
  | offers (line : String) (next : Except Failure Unit → Dialogue α)
  | finishes (next : Except Failure Unit → Dialogue α)

namespace Dialogue

/-- This action holds a dialogue with an outlet. -/
def hold [Outlet outlet] : Dialogue α → OutletM outlet α
  | .ends outcome => .ofEffect fun start => (outcome, start)
  | .offers line next => do (next (← (putLine line : OutletM outlet Unit).answer)).hold
  | .finishes next => do (next (← (finish : OutletM outlet Unit).answer)).hold

/-- A dialogue only writes if it never finishes the outlet, whatever the answers are. -/
inductive OnlyWrites : Dialogue α → Prop where
  | ends (outcome : Except Failure α) : OnlyWrites (.ends outcome)
  | offers {line : String} {next : Except Failure Unit → Dialogue α}
      (behind : ∀ answer, OnlyWrites (next answer)) : OnlyWrites (.offers line next)

/-- A dialogue that only writes keeps what every offered line keeps. -/
theorem OnlyWrites.keeps [Outlet outlet] {dialogue : Dialogue α} (writes : dialogue.OnlyWrites)
    (kept : outlet → Prop)
    (putLine : ∀ line start, kept start →
      kept ((LoopProgress.putLine line : OutletM outlet Unit).on start).2)
    {start : outlet} (good : kept start) : kept ((dialogue.hold : OutletM outlet α).on start).2 := by
  induction writes generalizing start with
  | ends outcome => exact good
  | @offers line next _ inductionHypothesis =>
      rw [hold, OutletM.on_bind]
      exact inductionHypothesis _ (putLine line start good)

/-- These lines are offered as long as they are accepted, and then the dialogue ends. -/
def ofLines : List String → Except Failure α → Dialogue α
  | [], ending => .ends ending
  | line :: rest, ending =>
      .offers line fun
        | .ok _ => ofLines rest ending
        | .error failure => .ends (.error failure)

theorem ofLines_onlyWrites (lines : List String) (ending : Except Failure α) :
    (ofLines lines ending).OnlyWrites := by
  induction lines with
  | nil => exact .ends ending
  | cons line rest inductionHypothesis =>
      apply OnlyWrites.offers
      intro answer
      cases answer with
      | ok _ => exact inductionHypothesis
      | error failure => exact .ends (.error failure)

theorem hold_ofLines [Outlet outlet] (lines : List String) (ending : Except Failure α)
    (start : outlet) :
    ((ofLines lines ending).hold : OutletM outlet α).on start =
      match (putLines lines : OutletM outlet Unit).on start with
      | (.ok _, written) => (ending, written)
      | (.error failure, stopped) => (.error failure, stopped) := by
  induction lines generalizing start with
  | nil => rfl
  | cons line rest inductionHypothesis =>
      rw [ofLines, hold, OutletM.on_bind, OutletM.answer, OutletM.on_ofEffect, putLines_cons,
        OutletM.on_bind]
      rcases (putLine line : OutletM outlet Unit).on start with ⟨failure | ⟨⟩, next⟩
      · rfl
      · exact inductionHypothesis next

end Dialogue

/-- Any block holds a dialogue of its own. -/
structure Actor where
  kind : Kind
  dialogue : Dialogue Report

def Actor.block [Outlet outlet] (actor : Actor) : Block outlet where
  kind := actor.kind
  run := actor.dialogue.hold

instance : Role Actor where
  block := Actor.block

/-- This actor finishes the outlet between two lines, and goes on after a line that was refused. -/
def Actor.restless : Actor :=
  ⟨.nested, .offers "ab" fun _ => .finishes fun _ => .offers "c" fun answer =>
    .ends (answer.map fun _ => ⟨.guarded, 0, 0⟩)⟩

/-- An actor can learn any script. -/
def Script.actor (script : Script) : Actor :=
  ⟨script.kind, .ofLines script.lines script.ending⟩

namespace Script

theorem actor_block [Outlet outlet] (script : Script) :
    (script.actor.block : Block outlet) = script.block := by
  have run : (script.actor.block : Block outlet).run = (script.block : Block outlet).run := by
    ext1 start
    exact (Dialogue.hold_ofLines ..).trans (script.block_run_on start).symm
  exact congrArg (Block.mk script.kind) run

theorem actor_onlyWrites (script : Script) : script.actor.dialogue.OnlyWrites :=
  Dialogue.ofLines_onlyWrites script.lines script.ending

end Script

/-- A requested block is an actor that only writes. -/
theorem BlockRequest.block_eq_actor [Outlet outlet] (request : BlockRequest) :
    (request.block : Block outlet) = request.script.actor.block := by
  rw [request.block_eq_script, request.script.actor_block]

/-- A role is acted if one actor plays it on every outlet. So its blocks see nothing of an outlet but
the answers to their calls. -/
class ActedRole (role : Type) [Role role] where
  actor : role → Actor
  block_eq_actor {outlet : Type} [Outlet outlet] (role : role) :
    (Role.block role : Block outlet) = (actor role).block

instance : ActedRole Actor where
  actor actor := actor
  block_eq_actor _ := rfl

instance : ActedRole Kind where
  actor kind := kind.script.actor
  block_eq_actor kind := BlockRequest.block_eq_actor (.standard kind)

instance : ActedRole BlockRequest where
  actor request := request.script.actor
  block_eq_actor request := request.block_eq_actor

namespace Plan

/-- This plan runs these actors in turn. -/
def ofActors [Outlet outlet] (actors : List Actor) : Plan outlet :=
  ⟨actors.map Actor.block⟩

@[simp] theorem kinds_ofActors [Outlet outlet] (actors : List Actor) :
    (ofActors actors : Plan outlet).kinds = actors.map Actor.kind :=
  List.map_map

/-- These actors know the scripts of a selection, in the canonical order. -/
def actorsOf (selection : List Kind) : List Actor :=
  (Kind.all.filter fun kind => selection.isEmpty || selection.contains kind).map
    fun kind => kind.script.actor

theorem ofSelection_eq_actors [Outlet outlet] (selection : List Kind) :
    (ofSelection selection : Plan outlet) = ofActors (actorsOf selection) := by
  rw [ofSelection, ofActors, actorsOf, List.map_map]
  apply congrArg Plan.mk
  apply List.map_congr_left
  intro kind _
  exact ActedRole.block_eq_actor kind

theorem actorsOf_onlyWrites (selection : List Kind) :
    ∀ actor ∈ actorsOf selection, actor.dialogue.OnlyWrites := by
  intro actor listed
  obtain ⟨kind, -, rfl⟩ := List.mem_map.mp listed
  exact kind.script.actor_onlyWrites

end Plan

namespace PlanRequest

variable [Role role] [ActedRole role]

/-- A plan that is asked for in any way is run by these actors. -/
def actors : PlanRequest role → List Actor
  | .standard => Plan.actorsOf []
  | .selection kinds => Plan.actorsOf kinds
  | .blocks roles => roles.map ActedRole.actor

theorem plan_eq_actors [Outlet outlet] (request : PlanRequest role) :
    (request.plan : Plan outlet) = Plan.ofActors request.actors := by
  cases request with
  | standard => exact Plan.ofSelection_eq_actors []
  | selection kinds => exact Plan.ofSelection_eq_actors kinds
  | blocks roles =>
      rw [plan, actors, Plan.ofActors, List.map_map]
      exact congrArg Plan.mk (List.map_congr_left fun role _ => ActedRole.block_eq_actor role)

/-- Nobody in a plan of requested blocks finishes the outlet. -/
theorem actors_onlyWrites (request : PlanRequest) :
    ∀ actor ∈ request.actors, actor.dialogue.OnlyWrites := by
  cases request with
  | standard => exact Plan.actorsOf_onlyWrites []
  | selection kinds => exact Plan.actorsOf_onlyWrites kinds
  | blocks requests =>
      intro actor listed
      obtain ⟨request, -, rfl⟩ := List.mem_map.mp listed
      exact request.script.actor_onlyWrites

/-- A plan shows the kinds of its actors, on every outlet. -/
theorem kinds_plan [Outlet outlet] (request : PlanRequest role) :
    (request.plan : Plan outlet).kinds = request.actors.map Actor.kind := by
  rw [request.plan_eq_actors, Plan.kinds_ofActors]

end PlanRequest

end LoopProgress
