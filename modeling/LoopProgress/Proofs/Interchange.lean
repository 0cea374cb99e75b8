import LoopProgress.Proofs.Dialogue
import LoopProgress.Recorder
import LoopProgress.Session

namespace LoopProgress

variable {first second role α β : Type}

namespace OutletM

/-- Two actions agree if from related outlets they come to one outcome and leave related outlets. -/
def Agree (related : first → second → Prop) (left : OutletM first α) (right : OutletM second α) :
    Prop :=
  ∀ one other, related one other →
    (left.on one).1 = (right.on other).1 ∧ related (left.on one).2 (right.on other).2

variable {related : first → second → Prop}

theorem agree_pure (value : α) :
    Agree related (pure value : OutletM first α) (pure value : OutletM second α) :=
  fun _ _ start => ⟨rfl, start⟩

theorem Agree.bind {left : OutletM first α} {right : OutletM second α}
    {next : α → OutletM first β} {following : α → OutletM second β}
    (head : Agree related left right)
    (tail : ∀ value, Agree related (next value) (following value)) :
    Agree related (left >>= next) (right >>= following) := by
  intro one other start
  obtain ⟨same, between⟩ := head one other start
  rw [on_bind, on_bind]
  rcases leftRan : left.on one with ⟨leftOutcome, middle⟩
  rcases rightRan : right.on other with ⟨rightOutcome, between'⟩
  simp only [leftRan, rightRan] at same between
  subst same
  cases leftOutcome with
  | error failure => exact ⟨rfl, between⟩
  | ok value => exact tail value middle between' between

theorem Agree.answer {left : OutletM first α} {right : OutletM second α}
    (same : Agree related left right) : Agree related left.answer right.answer := by
  intro one other start
  obtain ⟨outcome, after⟩ := same one other start
  exact ⟨congrArg Except.ok outcome, after⟩

end OutletM

/-- Blocks that agree one by one agree in a row. -/
theorem Plan.runBlocks_agree {ι : Type} {related : first → second → Prop} {items : List ι}
    {left : ι → Block first} {right : ι → Block second}
    (kinds : ∀ item ∈ items, (left item).kind = (right item).kind)
    (agree : ∀ item ∈ items, OutletM.Agree related (left item).run (right item).run)
    {one : first} {other : second} (start : related one other) :
    let ran := runBlocks (items.map left) one
    let alsoRan := runBlocks (items.map right) other
    ran.1 = alsoRan.1 ∧ related ran.2.1 alsoRan.2.1 ∧ ran.2.2 = alsoRan.2.2 := by
  induction items generalizing one other with
  | nil => exact ⟨rfl, start, rfl⟩
  | cons item rest inductionHypothesis =>
      have kind := kinds item (.head _)
      obtain ⟨same, between⟩ := agree item (.head _) one other start
      rcases leftRan : (left item).run.on one with ⟨outcome, next⟩
      rcases rightRan : (right item).run.on other with ⟨outcome', next'⟩
      simp only [leftRan, rightRan] at same between
      subst same
      cases outcome with
      | error failure => simp [runBlocks, leftRan, rightRan, kind, between]
      | ok report =>
          obtain ⟨outcomes, last, events⟩ := inductionHypothesis
            (fun other listed => kinds other (.tail _ listed))
            (fun other listed => agree other (.tail _ listed)) between
          simp only [List.map_cons, runBlocks, leftRan, rightRan, kind, outcomes, events]
          exact ⟨trivial, last, trivial⟩

/-- Outlets are interchangeable under a relation if every call keeps it and is answered alike. -/
structure Interchangeable [Outlet first] [Outlet second] (related : first → second → Prop) :
    Prop where
  putLine (line : String) :
    OutletM.Agree related (putLine line : OutletM first Unit) (putLine line : OutletM second Unit)
  finish : OutletM.Agree related (finish : OutletM first Unit) (finish : OutletM second Unit)

/-- What every call keeps is a relation between equal outlets. -/
theorem interchangeable_of_kept [Outlet first] {kept : first → Prop}
    (putLine : ∀ line start, kept start →
      kept ((LoopProgress.putLine line : OutletM first Unit).on start).2)
    (finish : ∀ start, kept start → kept ((LoopProgress.finish : OutletM first Unit).on start).2) :
    Interchangeable fun one other : first => one = other ∧ kept one where
  putLine line := by
    rintro one _ ⟨rfl, start⟩
    exact ⟨rfl, rfl, putLine line one start⟩
  finish := by
    rintro one _ ⟨rfl, start⟩
    exact ⟨rfl, rfl, finish one start⟩

/-- A recorder changes nothing of what its outlet answers. -/
theorem Recorder.interchangeable_inner [Outlet first] :
    Interchangeable fun (recorder : Recorder first) (inner : first) => recorder.inner = inner where
  putLine line := by
    rintro recorder _ rfl
    exact Prod.mk.inj (recorder.putLine_inner line)
  finish := by
    rintro recorder _ rfl
    exact Prod.mk.inj recorder.finish_inner

section

variable [Outlet first] [Outlet second] {related : first → second → Prop}

/-- A dialogue sees nothing of an outlet but the answers to its calls. -/
theorem Dialogue.hold_agree (outlets : Interchangeable related) (dialogue : Dialogue α) :
    OutletM.Agree related (dialogue.hold : OutletM first α) (dialogue.hold : OutletM second α) := by
  induction dialogue with
  | ends outcome => exact fun _ _ start => ⟨rfl, start⟩
  | offers line next inductionHypothesis =>
      exact (outlets.putLine line).answer.bind inductionHypothesis
  | finishes next inductionHypothesis =>
      exact outlets.finish.answer.bind inductionHypothesis

theorem Actor.block_agree (outlets : Interchangeable related) (actor : Actor) :
    OutletM.Agree related (actor.block : Block first).run (actor.block : Block second).run :=
  actor.dialogue.hold_agree outlets

namespace Interchangeable

theorem putLines (outlets : Interchangeable related) (lines : List String) :
    OutletM.Agree related (putLines lines : OutletM first Unit)
      (putLines lines : OutletM second Unit) := by
  induction lines with
  | nil => exact OutletM.agree_pure ()
  | cons line rest inductionHypothesis =>
      exact (outlets.putLine line).bind fun _ => inductionHypothesis

variable [Role role] [ActedRole role]

/-- A block sees nothing of an outlet but the answers to its calls. -/
theorem block (outlets : Interchangeable related) (role : role) :
    OutletM.Agree related (Role.block role : Block first).run
      (Role.block role : Block second).run := by
  rw [ActedRole.block_eq_actor, ActedRole.block_eq_actor]
  exact (ActedRole.actor role).block_agree outlets

theorem runBlocks (outlets : Interchangeable related) (actors : List Actor) {one : first}
    {other : second} (start : related one other) :
    let left := Plan.runBlocks (actors.map Actor.block) one
    let right := Plan.runBlocks (actors.map Actor.block) other
    left.1 = right.1 ∧ related left.2.1 right.2.1 ∧ left.2.2 = right.2.2 := by
  apply Plan.runBlocks_agree _ _ start
  · intro actor _
    rfl
  · intro actor _
    exact actor.block_agree outlets

/-- A run sees nothing of an outlet but the answers to its calls. -/
theorem plan (outlets : Interchangeable related) (request : PlanRequest role) {one : first}
    {other : second} (start : related one other) :
    let left := (request.plan : Plan first).runOn one
    let right := (request.plan : Plan second).runOn other
    left.outcome = right.outcome ∧ related left.outlet right.outlet ∧
      left.events = right.events := by
  rw [request.plan_eq_actors, request.plan_eq_actors]
  obtain ⟨same, between, events⟩ := outlets.runBlocks request.actors start
  rcases leftRan : Plan.runBlocks (request.actors.map Actor.block) one with ⟨outcome, next, told⟩
  rcases rightRan : Plan.runBlocks (request.actors.map Actor.block) other
    with ⟨outcome', next', told'⟩
  simp only [leftRan, rightRan] at same between events
  subst same events
  have length : (request.actors.map Actor.block : List (Block first)).length =
      (request.actors.map Actor.block : List (Block second)).length := by simp
  rw [Plan.ofActors, Plan.ofActors]
  cases outcome with
  | error failure =>
      rw [Plan.runOn_of_blocks_fail leftRan, Plan.runOn_of_blocks_fail rightRan, length]
      exact ⟨rfl, between, rfl⟩
  | ok reports =>
      obtain ⟨same, last⟩ := outlets.finish next next' between
      rcases leftEnded : (LoopProgress.finish : OutletM first Unit).on next with ⟨ended, closed⟩
      rcases rightEnded : (LoopProgress.finish : OutletM second Unit).on next' with
        ⟨ended', closed'⟩
      simp only [leftEnded, rightEnded] at same last
      subst same
      cases ended with
      | error failure =>
          rw [Plan.runOn_of_finish_fails leftRan leftEnded,
            Plan.runOn_of_finish_fails rightRan rightEnded, length]
          exact ⟨rfl, last, rfl⟩
      | ok _ =>
          rw [Plan.runOn_of_finished leftRan leftEnded,
            Plan.runOn_of_finished rightRan rightEnded, length]
          exact ⟨rfl, last, rfl⟩

end Interchangeable

end

/-- Stores are interchangeable if their other operations keep the relation too, and if related stores
look alike. -/
structure InterchangeableStores {settings item : Type} [Store first settings item]
    [Store second settings item] (related : first → second → Prop) : Prop
    extends Interchangeable related where
  configure (settings : settings) {one : first} {other : second} :
    related one other → related (Store.configure settings one) (Store.configure settings other)
  emptied {one : first} {other : second} :
    related one other → related (Store.emptied one) (Store.emptied other)
  handOut? {one : first} {other : second} :
    related one other → Store.handOut? one = Store.handOut? other
  contents {one : first} {other : second} :
    related one other → Store.contents one = Store.contents other
  finishes? {one : first} {other : second} :
    related one other → Store.finishes? one = Store.finishes? other

namespace Session

variable {settings item : Type} [Store first settings item] [Store second settings item]
  [Role role] [ActedRole role] {related : first → second → Prop}

theorem perform_agree (stores : InterchangeableStores related) (step : Step settings role)
    {one : first} {other : second} (start : related one other) :
    (step.perform one : Reply item × first).1 = (step.perform other : Reply item × second).1 ∧
      related (step.perform one : Reply item × first).2
        (step.perform other : Reply item × second).2 := by
  cases step with
  | putLine line =>
      obtain ⟨same, after⟩ := stores.putLine line one other start
      exact ⟨congrArg Reply.done same, after⟩
  | finish =>
      obtain ⟨same, after⟩ := stores.finish one other start
      exact ⟨congrArg Reply.done same, after⟩
  | block role =>
      obtain ⟨same, after⟩ := stores.block role one other start
      exact ⟨congrArg Reply.reported same, after⟩
  | run request =>
      obtain ⟨same, after, events⟩ := stores.plan request start
      refine ⟨?_, after⟩
      simp only [Step.perform, request.kinds_plan, same, events]
  | configure settings => exact ⟨rfl, stores.configure settings start⟩
  | take => exact ⟨congrArg Reply.taken (stores.handOut? start), start⟩
  | drain => exact ⟨congrArg Reply.taken (stores.handOut? start), stores.emptied start⟩

/-- A session on interchangeable stores shows the same on both. -/
theorem run_agree (stores : InterchangeableStores related) (steps : List (Step settings role))
    {one : first} {other : second} (start : related one other) :
    (run steps one : List (Entry item) × first).1 =
        (run steps other : List (Entry item) × second).1 ∧
      related (run steps one : List (Entry item) × first).2
        (run steps other : List (Entry item) × second).2 := by
  induction steps generalizing one other with
  | nil => exact ⟨rfl, start⟩
  | cons step rest inductionHypothesis =>
      obtain ⟨reply, after⟩ := perform_agree stores step start
      obtain ⟨entries, last⟩ := inductionHypothesis after
      refine ⟨?_, last⟩
      simp only [run, reply, entries, snapshot, stores.contents start, stores.contents after,
        stores.finishes? after]

end Session

end LoopProgress
