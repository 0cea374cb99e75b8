import LoopProgress.Proofs.FinishCount
import LoopProgress.Proofs.Interchange
import Mathlib.Algebra.GroupWithZero.Nat

namespace LoopProgress

variable {outlet : Type}

/-- Alike outlets answer every line alike and stay so. To finish one of them always succeeds, and
leaves it as much alike to the other as it was. -/
structure FinishesQuietly [Outlet outlet] (alike : outlet → outlet → Prop) : Prop where
  symm {one other : outlet} : alike one other → alike other one
  putLine (line : String) :
    OutletM.Agree alike (putLine line : OutletM outlet Unit) (putLine line : OutletM outlet Unit)
  finish {one other : outlet} : alike one other →
    ((finish : OutletM outlet Unit).on one).1 = .ok () ∧
      alike ((finish : OutletM outlet Unit).on one).2 other

theorem FinishesQuietly.interchangeable [Outlet outlet] {alike : outlet → outlet → Prop}
    (quiet : FinishesQuietly alike) : Interchangeable alike where
  putLine := quiet.putLine
  finish := by
    intro one other start
    obtain ⟨left, onlyLeft⟩ := quiet.finish start
    obtain ⟨right, both⟩ := quiet.finish (quiet.symm onlyLeft)
    exact ⟨left.trans right.symm, quiet.symm both⟩

/-- These summaries count as one that holds the reports of them all. -/
def Summary.joined (summaries : List Summary) : Summary :=
  ⟨summaries.flatMap Summary.reports⟩

namespace Summary

theorem totalLines_joined (summaries : List Summary) :
    (joined summaries).totalLines = (summaries.map totalLines).sum := by
  induction summaries with
  | nil => rfl
  | cons summary rest inductionHypothesis =>
      rw [joined, List.flatMap_cons, totalLines_append, List.map_cons, List.sum_cons,
        ← inductionHypothesis]
      rfl

theorem report?_joined (summaries : List Summary) (kind : Kind) :
    (joined summaries).report? kind = summaries.findSome? fun summary => summary.report? kind :=
  List.find?_flatMap ..

end Summary

/-- Runs in turn come to the same as one run if they leave their outlets alike and fail alike, and if
the one summary holds what theirs hold. -/
structure SameInTurn (alike : outlet → outlet → Prop) (whole : Run outlet)
    (turns : Except Failure (List Summary) × outlet) : Prop where
  outlets : alike whole.outlet turns.2
  failure (failure : Failure) : whole.outcome = .error failure ↔ turns.1 = .error failure
  summary (summary : Summary) (summaries : List Summary) :
    whole.outcome = .ok summary → turns.1 = .ok summaries →
      summary.reports = summaries.flatMap Summary.reports ∧
      summary.totalLines = (summaries.map Summary.totalLines).sum ∧
      ∀ kind, summary.report? kind = summaries.findSome? fun summary => summary.report? kind

theorem sameInTurn_of_joined {alike : outlet → outlet → Prop} {whole : Run outlet}
    {turns : Except Failure (List Summary) × outlet} (outlets : alike whole.outlet turns.2)
    (outcome : whole.outcome = turns.1.map Summary.joined) : SameInTurn alike whole turns where
  outlets := outlets
  failure failure := by
    rw [outcome]
    rcases turns with ⟨early | summaries, last⟩ <;> simp [Except.map]
  summary summary summaries succeeded inTurn := by
    rw [outcome, inTurn] at succeeded
    cases succeeded
    exact ⟨rfl, Summary.totalLines_joined summaries, Summary.report?_joined summaries⟩

namespace Plan

/-- Blocks behind others run from where those succeeded. -/
theorem runBlocks_append (first second : List (Block outlet)) (start : outlet) :
    runBlocks (first ++ second) start =
      match runBlocks first start with
      | (.error failure, stopped, events) => (.error failure, stopped, events)
      | (.ok reports, middle, events) =>
          let (others, last, told) := runBlocks second middle
          (others.map (reports ++ ·), last, events ++ told) := by
  induction first generalizing start with
  | nil =>
      rcases ran : runBlocks second start with ⟨failure | others, last, told⟩ <;>
        simp [runBlocks, ran, Except.map]
  | cons block rest inductionHypothesis =>
      rw [List.cons_append, runBlocks, runBlocks]
      rcases block.run.on start with ⟨failure | report, next⟩
      · rfl
      · dsimp only
        rw [inductionHypothesis]
        rcases runBlocks rest next with ⟨failure | reports, middle, events⟩
        · rfl
        · rcases ran : runBlocks second middle with ⟨failure | others, last, told⟩ <;>
            simp [ran, Except.map]

variable [Outlet outlet] {alike : outlet → outlet → Prop}

/-- On a quiet outlet the blocks behind a group do not notice that it was finished between. -/
theorem runBlocks_flatten (quiet : FinishesQuietly alike) {groups : List (List (Block outlet))}
    (agree : ∀ group ∈ groups, ∀ block ∈ group, OutletM.Agree alike block.run block.run)
    {one other : outlet} (start : alike one other) :
    let ran := runBlocks groups.flatten one
    let turns := runInTurn (groups.map mk) other
    alike ran.2.1 turns.2 ∧ ran.1 = (turns.1.map Summary.joined).map Summary.reports := by
  induction groups generalizing one other with
  | nil => exact ⟨start, rfl⟩
  | cons group rest inductionHypothesis =>
      have same := @runBlocks_agree outlet outlet (Block outlet) alike group id id (fun _ _ => rfl)
        (agree group (.head _)) one other start
      have ended := (mk group).runOn_eq other
      rw [List.flatten_cons, runBlocks_append, List.map_cons, runInTurn]
      simp only [List.map_id] at same
      rcases first : runBlocks group one with ⟨outcome, middle, events⟩
      rcases second : runBlocks group other with ⟨outcome', middle', events'⟩
      rcases turn : (mk group).runOn other with ⟨ending, next, told⟩
      simp only [first, second, turn] at same ended
      obtain ⟨rfl, between, -⟩ := same
      cases outcome with
      | error failure =>
          obtain ⟨rfl, rfl⟩ := Prod.mk.inj ended
          exact ⟨between, rfl⟩
      | ok reports =>
          -- Only the turns finish the outlet here.
          obtain ⟨succeeded, after⟩ := quiet.finish (quiet.symm between)
          obtain ⟨rfl, rfl⟩ := Prod.mk.inj ended
          obtain ⟨outlets, outcome⟩ := inductionHypothesis
            (fun group listed => agree group (.tail _ listed)) (quiet.symm after)
          rw [succeeded]
          refine ⟨outlets, ?_⟩
          simp only [outcome, Except.map]
          cases (runInTurn (rest.map mk) ((LoopProgress.finish : OutletM outlet Unit).on middle').2).1 <;>
            rfl

theorem runOn_flatten (quiet : FinishesQuietly alike) {groups : List (List (Block outlet))}
    (agree : ∀ group ∈ groups, ∀ block ∈ group, OutletM.Agree alike block.run block.run)
    {one other : outlet} (start : alike one other) :
    SameInTurn alike ((mk groups.flatten).runOn one) (runInTurn (groups.map mk) other) := by
  obtain ⟨outlets, outcome⟩ := runBlocks_flatten quiet agree start
  have ended := (mk groups.flatten).runOn_eq one
  rcases ran : runBlocks groups.flatten one with ⟨ending, written, events⟩
  rcases turns : runInTurn (groups.map mk) other with ⟨failure | summaries, last⟩
  · simp only [ran, turns, Except.map] at outlets outcome ended
    subst outcome
    obtain ⟨whole, stopped⟩ := Prod.mk.inj ended
    exact sameInTurn_of_joined (stopped ▸ outlets) whole
  · simp only [ran, turns, Except.map] at outlets outcome ended
    subst outcome
    obtain ⟨succeeded, after⟩ := quiet.finish outlets
    obtain ⟨whole, finished⟩ := Prod.mk.inj ended
    rw [succeeded] at whole
    exact sameInTurn_of_joined (finished ▸ after) whole

/-- Groups of blocks regroup if one run over them all comes to the same as one run for each group in
turn. -/
def Regroups (alike : outlet → outlet → Prop) (groups : List (List (Block outlet)))
    (start : outlet) : Prop :=
  SameInTurn alike ((mk groups.flatten).runOn start) (runInTurn (groups.map mk) start)

end Plan

/-- An outlet on which a finish does nothing at all is quiet. -/
theorem finishesQuietly_of_idle [Outlet outlet]
    (idle : ∀ start : outlet, (finish : OutletM outlet Unit).on start = (.ok (), start)) :
    FinishesQuietly (@Eq outlet) where
  symm := Eq.symm
  putLine line := by
    intro one other same
    subst same
    exact ⟨rfl, rfl⟩
  finish := by
    intro one other same
    rw [idle, same]
    exact ⟨rfl, rfl⟩

/-- Stores of lines that finish without failure are alike if they differ in the finishes alone. -/
def LineStore.Alike (one other : LineStore) : Prop :=
  one.settings.finishFailure = none ∧ ∃ finishes, other = { one with finishes }

theorem LineStore.finishesQuietly : FinishesQuietly LineStore.Alike where
  symm := by
    intro one other alike
    obtain ⟨succeeds, finishes, rfl⟩ := alike
    exact ⟨succeeds, one.finishes, rfl⟩
  putLine line := by
    intro one other alike
    obtain ⟨succeeds, finishes, rfl⟩ := alike
    exact ⟨rfl, succeeds, finishes, rfl⟩
  finish := by
    intro one other alike
    obtain ⟨succeeds, finishes, rfl⟩ := alike
    change one.finish.1 = .ok () ∧ Alike one.finish.2 _
    rw [finish, succeeds]
    exact ⟨rfl, succeeds, finishes, rfl⟩

/-- Writers that flush without failure are alike if they differ in the flushes alone. -/
def ByteWriter.Alike (one other : ByteWriter) : Prop :=
  one.settings.flushFault = none ∧ ∃ flushes, other = { one with flushes }

theorem ByteWriter.finishesQuietly : FinishesQuietly ByteWriter.Alike where
  symm := by
    intro one other alike
    obtain ⟨succeeds, flushes, rfl⟩ := alike
    exact ⟨succeeds, one.flushes, rfl⟩
  putLine line := by
    intro one other alike
    obtain ⟨succeeds, flushes, rfl⟩ := alike
    have same : putLine line { one with flushes } = _ :=
      putLine_flushing line one flushes one.settings.flushFault
    have kept : (one.putLine line).2.settings.flushFault = one.settings.flushFault :=
      congrArg (fun ran => ran.2.settings.flushFault)
        (putLine_flushing line one one.flushes one.settings.flushFault)
    change (one.putLine line).1 = (putLine line { one with flushes }).1 ∧
      Alike (one.putLine line).2 (putLine line { one with flushes }).2
    rw [same, ← kept]
    exact ⟨rfl, kept.trans succeeds, flushes, rfl⟩
  finish := by
    intro one other alike
    obtain ⟨succeeds, flushes, rfl⟩ := alike
    change one.flush.1 = .ok () ∧ Alike one.flush.2 _
    rw [flush, WriterSettings.flush, succeeds]
    exact ⟨rfl, succeeds, flushes, rfl⟩

/-- Actors see nothing of an outlet but the answers, so their groups regroup on a quiet one. -/
theorem Actor.regroups [Outlet outlet] {alike : outlet → outlet → Prop}
    (quiet : FinishesQuietly alike) (groups : List (List Actor)) {start : outlet}
    (alone : alike start start) :
    Plan.Regroups alike (groups.map fun group => group.map Actor.block) start := by
  apply Plan.runOn_flatten quiet _ alone
  intro group listed block present
  obtain ⟨actors, -, rfl⟩ := List.mem_map.mp listed
  obtain ⟨actor, -, rfl⟩ := List.mem_map.mp present
  exact actor.block_agree quiet.interchangeable

namespace Plan

/-- A run may be cut anywhere. Actors are told by nothing how the blocks were grouped, as long as a
finish is quiet. Where it does nothing at all the blocks may even look into the outlet. -/
theorem runs_regroup :
    (∀ (outlet : Type) [Outlet outlet] (alike : outlet → outlet → Prop), FinishesQuietly alike →
      ∀ (groups : List (List Actor)) (start : outlet), alike start start →
        Regroups alike (groups.map fun group => group.map Actor.block) start) ∧
    (∀ (outlet : Type) [Outlet outlet],
      (∀ start : outlet, (finish : OutletM outlet Unit).on start = (.ok (), start)) →
        ∀ (groups : List (List (Block outlet))) (start : outlet), Regroups Eq groups start) ∧
    (∀ (groups : List (List Actor)) (start : LineStore), start.settings.finishFailure = none →
      Regroups LineStore.Alike (groups.map fun group => group.map Actor.block) start) ∧
    ∀ (groups : List (List Actor)) (start : ByteWriter), start.settings.flushFault = none →
      Regroups ByteWriter.Alike (groups.map fun group => group.map Actor.block) start := by
  refine ⟨?_, ?_, ?_, ?_⟩
  · intro outlet _ alike quiet groups start alone
    exact Actor.regroups quiet groups alone
  · intro outlet _ idle groups start
    apply runOn_flatten (finishesQuietly_of_idle idle) _ rfl
    intro group _ block _ one other same
    subst same
    exact ⟨rfl, rfl⟩
  · intro groups start succeeds
    exact Actor.regroups LineStore.finishesQuietly groups ⟨succeeds, start.finishes, rfl⟩
  · intro groups start succeeds
    exact Actor.regroups ByteWriter.finishesQuietly groups ⟨succeeds, start.flushes, rfl⟩

/-- One run flushes this writer once, and three runs flush it three times. The store is full before the
last group ends, and the runs in turn fail there too. -/
theorem runs_regroup_around_nothing :
    let groups : List (List Actor) :=
      [[Kind.accumulate.script.actor], [], [Kind.guarded.script.actor, Kind.nested.script.actor]]
    let writer : ByteWriter := { chunk := some 3, flushes := 2 }
    let store : PlainStore := { settings := { limit := some 9 } }
    Regroups ByteWriter.Alike (groups.map fun group => group.map Actor.block) writer ∧
      ((ofActors groups.flatten).runOn writer).outcome.isOk ∧
      ((ofActors groups.flatten).runOn writer).outlet.flushes = 3 ∧
      (runInTurn (groups.map ofActors) writer).2.flushes = 5 ∧
      Regroups Eq (groups.map fun group => group.map Actor.block) store ∧
      (runInTurn (groups.map ofActors) store).1.isOk = false ∧
      (runInTurn (groups.map ofActors) store).2.lines.length = 9 := by
  obtain ⟨ofQuiet, ofIdle, -, -⟩ := runs_regroup
  intro groups writer store
  refine ⟨?_, by decide +kernel, by decide +kernel, by decide +kernel, ?_, by decide +kernel,
    by decide +kernel⟩
  · exact ofQuiet _ _ ByteWriter.finishesQuietly groups writer ⟨rfl, 2, rfl⟩
  · exact ofIdle _ (fun _ => rfl) _ store

end Plan

end LoopProgress
