import LoopProgress.Proofs.Dialogue
import LoopProgress.Recorder
import LoopProgress.Session
import LoopProgress.Store.Lines
import LoopProgress.Store.Writer

namespace LoopProgress

variable {outlet store settings item : Type}

namespace ByteWriter

/-- This writer is another one but for its count of flushes and for how it fails to flush. -/
def flushing (count : Nat) (flushFault : Option Fault) (writer : ByteWriter) : ByteWriter :=
  { writer with flushes := count, settings := { writer.settings with flushFault } }

/-- How a writer flushes plays no part in a call, and a call leaves it alone. -/
theorem write_flushing (bytes : List UInt8) (writer : ByteWriter) (count : Nat)
    (flushFault : Option Fault) :
    write bytes (writer.flushing count flushFault) =
      ((writer.write bytes).1, (writer.write bytes).2.flushing count flushFault) := by
  have interruptions : (writer.flushing count flushFault).interruptions = writer.interruptions := rfl
  have held : (writer.flushing count flushFault).held = writer.held := rfl
  have room : room (writer.flushing count flushFault) = writer.room := rfl
  have refusal : (writer.flushing count flushFault).settings.refusal = writer.settings.refusal := rfl
  simp only [write, interruptions, held, room, refusal]
  split
  · rfl
  · split
    · split <;> rfl
    · rfl

theorem writeAll_flushing (bytes : List UInt8) (writer : ByteWriter) (count : Nat)
    (flushFault : Option Fault) :
    writeAll bytes (writer.flushing count flushFault) =
      ((writer.writeAll bytes).1, (writer.writeAll bytes).2.flushing count flushFault) := by
  fun_induction writeAll bytes writer with
  | case1 writer => rw [writeAll, if_pos rfl]
  | case2 bytes writer present after called inductionHypothesis =>
      have same := write_flushing bytes writer count flushFault
      rw [called] at same
      rw [writeAll, if_neg present, same]
      exact inductionHypothesis
  | case3 bytes writer present fault lasting after called =>
      have same := write_flushing bytes writer count flushFault
      rw [called] at same
      rw [writeAll, if_neg present, same]
  | case4 bytes writer present after called =>
      have same := write_flushing bytes writer count flushFault
      rw [called] at same
      rw [writeAll, if_neg present, same]
  | case5 bytes writer present taken after called inductionHypothesis =>
      have same := write_flushing bytes writer count flushFault
      rw [called] at same
      rw [writeAll, if_neg present, same]
      exact inductionHypothesis

theorem putLine_flushing (line : String) (writer : ByteWriter) (count : Nat)
    (flushFault : Option Fault) :
    putLine line (writer.flushing count flushFault) =
      ((writer.putLine line).1, (writer.putLine line).2.flushing count flushFault) := by
  rw [putLine, putLine, writeAll_flushing]
  rcases writer.writeAll (Utf8.encode line) with ⟨fault | ⟨⟩, after⟩
  · rfl
  · simp only [writeAll_flushing]

end ByteWriter

/-- A store counts its finishes if one that succeeds adds one, and nothing else changes the count. -/
structure CountsFinishes [Store store settings item] (count : store → Nat) : Prop where
  putLine (line : String) (start : store) :
    count ((putLine line : OutletM store Unit).on start).2 = count start
  finish (start : store) :
    count ((finish : OutletM store Unit).on start).2 =
      count start + ((finish : OutletM store Unit).on start).1.isOk.toNat
  configure (settings : settings) (start : store) :
    count (Store.configure settings start) = count start
  emptied (start : store) : count (Store.emptied start) = count start

theorem LineStore.countsFinishes : CountsFinishes LineStore.finishes where
  putLine _ _ := rfl
  finish start := by
    change start.finish.2.finishes = start.finishes + start.finish.1.isOk.toNat
    rw [finish]
    split <;> rfl
  configure _ _ := rfl
  emptied _ := rfl

theorem ByteWriter.countsFinishes : CountsFinishes ByteWriter.flushes where
  putLine line start := by
    have same := putLine_flushing line start start.flushes start.settings.flushFault
    exact congrArg (fun ran => ran.2.flushes) same
  finish start := by
    change start.flush.2.flushes = start.flushes + start.flush.1.isOk.toNat
    rw [flush, WriterSettings.flush]
    cases start.settings.flushFault <;> rfl
  configure _ _ := rfl
  emptied _ := rfl

namespace Plan

variable [Outlet outlet]

/-- Actors who only write keep what every offered line keeps. -/
theorem runBlocks_keeps {actors : List Actor}
    (writes : ∀ actor ∈ actors, actor.dialogue.OnlyWrites) (kept : outlet → Prop)
    (putLine : ∀ line start, kept start →
      kept ((LoopProgress.putLine line : OutletM outlet Unit).on start).2)
    {start : outlet} (good : kept start) :
    kept (runBlocks (actors.map Actor.block) start).2.1 := by
  induction actors generalizing start with
  | nil => exact good
  | cons actor rest inductionHypothesis =>
      have after : kept ((actor.block : Block outlet).run.on start).2 :=
        (writes actor (.head _)).keeps kept putLine good
      rw [List.map_cons, runBlocks]
      rcases ran : (actor.block : Block outlet).run.on start with ⟨failure | report, next⟩
      · rwa [ran] at after
      · rw [ran] at after
        exact inductionHypothesis (fun other listed => writes other (.tail _ listed)) after

/-- A run by actors who only write fails before the finish, or comes to it with what they keep. -/
theorem runOn_keeps {actors : List Actor} (writes : ∀ actor ∈ actors, actor.dialogue.OnlyWrites)
    (kept : outlet → Prop)
    (putLine : ∀ line start, kept start →
      kept ((LoopProgress.putLine line : OutletM outlet Unit).on start).2)
    {start : outlet} (good : kept start) :
    let ran := (runBlocks (actors.map Actor.block) start).1
    let run := (ofActors actors).runOn start
    (∃ failure, ran = .error failure ∧ run.outcome = .error failure ∧ kept run.outlet) ∨
    ∃ reports written, ran = .ok reports ∧ kept written ∧
      run.outcome = ((finish : OutletM outlet Unit).on written).1.map (fun _ => ⟨reports⟩) ∧
      run.outlet = ((finish : OutletM outlet Unit).on written).2 := by
  have after := runBlocks_keeps writes kept putLine good
  have ended := (ofActors actors).runOn_eq start
  rw [ofActors] at ended ⊢
  rcases blocks : runBlocks (actors.map Actor.block) start with
    ⟨failure | reports, written, events⟩
  · simp only [blocks, Prod.mk.injEq] at after ended
    exact .inl ⟨failure, rfl, ended.1, ended.2 ▸ after⟩
  · simp only [blocks, Prod.mk.injEq] at after ended
    exact .inr ⟨reports, written, rfl, after, ended⟩

end Plan

namespace Recorder

variable [Outlet outlet]

/-- A plan finishes a recorder if all its blocks succeed, and then once, and the run ends as this
finish does. -/
def FinishedBy (recorder : Recorder outlet) (plan : Plan (Recorder outlet)) : Prop :=
  let run := plan.runOn recorder
  match (Plan.runBlocks plan.blocks recorder).1 with
  | .error failure => run.outcome = .error failure ∧ run.outlet.finishes = recorder.finishes
  | .ok reports => ∃ ended, run.outlet.finishes = recorder.finishes ++ [ended] ∧
      run.outcome = ended.map fun _ => ⟨reports⟩

/-- A recorder is finished by no line and by no block that only writes. A run by actors who only write
finishes it if all of them succeed, and then once, and the run ends as this finish does. So it is
with requested blocks and plans, which only write.

A block that finishes the outlet itself is left out, since the recorder notes that finish too. -/
structure FinishedByRuns (recorder : Recorder outlet) : Prop where
  putLine (line : String) : (recorder.putLine line).2.finishes = recorder.finishes
  block (actor : Actor) : actor.dialogue.OnlyWrites →
    ((actor.block : Block (Recorder outlet)).run.on recorder).2.finishes = recorder.finishes
  run (actors : List Actor) : (∀ actor ∈ actors, actor.dialogue.OnlyWrites) →
    recorder.FinishedBy (.ofActors actors)
  requestedBlock (request : BlockRequest) :
    ((request.block : Block (Recorder outlet)).run.on recorder).2.finishes = recorder.finishes
  requestedRun (request : PlanRequest) : recorder.FinishedBy request.plan

theorem finishes_block (recorder : Recorder outlet) {actor : Actor}
    (writes : actor.dialogue.OnlyWrites) :
    ((actor.block : Block (Recorder outlet)).run.on recorder).2.finishes = recorder.finishes :=
  writes.keeps (fun after : Recorder outlet => after.finishes = recorder.finishes)
    (fun _ _ same => same) rfl

theorem finishedBy_ofActors (recorder : Recorder outlet) {actors : List Actor}
    (writes : ∀ actor ∈ actors, actor.dialogue.OnlyWrites) :
    recorder.FinishedBy (.ofActors actors) := by
  have ends := Plan.runOn_keeps writes
    (fun after : Recorder outlet => after.finishes = recorder.finishes) (fun _ _ same => same)
    (rfl : recorder.finishes = recorder.finishes)
  rw [FinishedBy, Plan.ofActors]
  rcases ends with ⟨failure, ran, outcome, kept⟩ | ⟨reports, written, ran, kept, outcome, last⟩
  · simp only [ran]
    exact ⟨outcome, kept⟩
  · simp only [ran]
    refine ⟨written.finish.1, ?_, outcome⟩
    rw [← kept]
    exact congrArg Recorder.finishes last

theorem finishedByRuns (recorder : Recorder outlet) : recorder.FinishedByRuns where
  putLine _ := rfl
  block _ writes := recorder.finishes_block writes
  run _ writes := recorder.finishedBy_ofActors writes
  requestedBlock request := by
    rw [request.block_eq_actor]
    exact recorder.finishes_block request.script.actor_onlyWrites
  requestedRun request := by
    rw [request.plan_eq_actors]
    exact recorder.finishedBy_ofActors request.actors_onlyWrites

end Recorder

/-- One step leads from a store to another, and may finish it with success on its way. The settings
change in any way. Any requested block takes part, and so do any actors who only write. A block that
finishes the store itself is left out, since no step stands for that finish. -/
inductive Advance [Store store settings item] : store → Bool → store → Prop where
  | putLine (line : String) (start : store) :
      Advance start false ((LoopProgress.putLine line : OutletM store Unit).on start).2
  | finish (start : store) :
      Advance start ((LoopProgress.finish : OutletM store Unit).on start).1.isOk
        ((LoopProgress.finish : OutletM store Unit).on start).2
  | block {actor : Actor} (writes : actor.dialogue.OnlyWrites) (start : store) :
      Advance start false ((actor.block : Block store).run.on start).2
  | run {actors : List Actor} (writes : ∀ actor ∈ actors, actor.dialogue.OnlyWrites)
      (start : store) :
      Advance start ((Plan.ofActors actors).runOn start).outcome.isOk
        ((Plan.ofActors actors).runOn start).outlet
  | requestedBlock (request : BlockRequest) (start : store) :
      Advance start false ((request.block : Block store).run.on start).2
  | requestedRun (request : PlanRequest) (start : store) :
      Advance start ((request.plan : Plan store).runOn start).outcome.isOk
        ((request.plan : Plan store).runOn start).outlet
  | configure (settings : settings) (start : store) :
      Advance start false (Store.configure settings start)
  | take (start : store) : Advance start false start
  | drain (start : store) : Advance start false (Store.emptied start)

/-- Steps lead from a store to another, and so many of them finish it with success. -/
inductive History [Store store settings item] : store → Nat → store → Prop where
  | nil {start : store} : History start 0 start
  | cons {start next last : store} {finished : Bool} {others : Nat}
      (head : Advance start finished next) (tail : History next others last) :
      History start (finished.toNat + others) last

namespace CountsFinishes

variable [Store store settings item] {count : store → Nat}

/-- A run by actors who only write is counted if it succeeds. -/
theorem run (counts : CountsFinishes count) {actors : List Actor}
    (writes : ∀ actor ∈ actors, actor.dialogue.OnlyWrites) (start : store) :
    count ((Plan.ofActors actors).runOn start).outlet =
      count start + ((Plan.ofActors actors).runOn start).outcome.isOk.toNat := by
  have ends := Plan.runOn_keeps writes (fun after : store => count after = count start)
    (fun line after same => (counts.putLine line after).trans same)
    (rfl : count start = count start)
  rcases ends with ⟨failure, -, outcome, kept⟩ | ⟨reports, written, -, kept, outcome, last⟩
  · rw [outcome, kept]
    rfl
  · rw [outcome, last, counts.finish, kept]
    cases ((LoopProgress.finish : OutletM store Unit).on written).1 <;> rfl

/-- A block that only writes is not counted. -/
theorem block (counts : CountsFinishes count) {actor : Actor} (writes : actor.dialogue.OnlyWrites)
    (start : store) : count ((actor.block : Block store).run.on start).2 = count start :=
  writes.keeps (fun after => count after = count start)
    (fun line after same => (counts.putLine line after).trans same) rfl

theorem advance (counts : CountsFinishes count) {start last : store} {finished : Bool}
    (advance : Advance start finished last) : count last = count start + finished.toNat := by
  cases advance with
  | putLine line => exact counts.putLine line start
  | finish => exact counts.finish start
  | block writes => exact counts.block writes start
  | run writes => exact counts.run writes start
  | requestedBlock request =>
      rw [request.block_eq_actor]
      exact counts.block request.script.actor_onlyWrites start
  | requestedRun request =>
      rw [request.plan_eq_actors]
      exact counts.run request.actors_onlyWrites start
  | configure settings => exact counts.configure settings start
  | take => rfl
  | drain => exact counts.emptied start

theorem history (counts : CountsFinishes count) {start last : store} {finished : Nat}
    (history : History start finished last) : count last = count start + finished := by
  induction history with
  | nil => rfl
  | cons head _ inductionHypothesis =>
      rw [inductionHypothesis, counts.advance head, Nat.add_assoc]

end CountsFinishes

namespace Session

variable [Store store settings item]

/-- A step has finished the store if it was to finish or to run and was answered with success. -/
def Step.finished (step : Step settings) (reply : Reply item) : Bool :=
  match step, reply with
  | .finish, .done outcome => outcome.isOk
  | .run _, .ran _ outcome _ => outcome.isOk
  | _, _ => false

theorem perform_advance (step : Step settings) (start : store) :
    Advance start (step.finished (step.perform start : Reply item × store).1)
      (step.perform start : Reply item × store).2 := by
  cases step with
  | putLine line => exact .putLine line start
  | finish => exact .finish start
  | block request => exact .requestedBlock request start
  | run request => exact .requestedRun request start
  | configure settings => exact .configure settings start
  | take => exact .take start
  | drain => exact .drain start

/-- These steps of a session have finished the store. -/
def finishes (steps : List (Step settings)) (entries : List (Entry item)) : Nat :=
  (steps.zip entries).countP fun (step, entry) => step.finished entry.reply

theorem finishes_cons (step : Step settings) (steps : List (Step settings)) (entry : Entry item)
    (entries : List (Entry item)) :
    finishes (step :: steps) (entry :: entries) =
      (step.finished entry.reply).toNat + finishes steps entries := by
  rw [finishes, List.zip_cons_cons, List.countP_cons, Nat.add_comm, finishes]
  change (if step.finished entry.reply = true then 1 else 0) + _ = _
  cases step.finished entry.reply <;> rfl

/-- A session is a history in which the steps finish the store that say so. -/
theorem run_history (steps : List (Step settings)) (start : store) :
    History start (finishes steps (run steps start : List (Entry item) × store).1)
      (run steps start : List (Entry item) × store).2 := by
  induction steps generalizing start with
  | nil => exact .nil
  | cons step rest inductionHypothesis =>
      rw [run, finishes_cons]
      exact .cons (perform_advance step start) (inductionHypothesis _)

/-- A store that counts its finishes counts those of every history, and so of every session, and no
others. A recorder shows which steps can finish an outlet at all. -/
theorem histories_count_finishes :
    CountsFinishes LineStore.finishes ∧ CountsFinishes ByteWriter.flushes ∧
    (∀ (store settings item : Type) [Store store settings item] (count : store → Nat),
      CountsFinishes count →
        (∀ (start last : store) (finished : Nat), History start finished last →
          count last = count start + finished) ∧
        ∀ (steps : List (Step settings)) (start : store),
          let (entries, last) := (run steps start : List (Entry item) × store)
          count last = count start + finishes steps entries) ∧
    ∀ (outlet : Type) [Outlet outlet] (recorder : Recorder outlet), recorder.FinishedByRuns := by
  refine ⟨LineStore.countsFinishes, ByteWriter.countsFinishes, ?_, ?_⟩
  · intro store settings item _ count counts
    constructor
    · intro start last finished history
      exact counts.history history
    · intro steps start
      exact counts.history (run_history steps start)
  · intro outlet _ recorder
    exact recorder.finishedByRuns

/-- This actor goes on after a line that was refused. -/
def stubborn : Actor :=
  ⟨.guarded, .offers "first" fun _ => .offers "second" fun _ => .ends (.ok ⟨.nested, 0, 0⟩)⟩

theorem stubborn_onlyWrites : stubborn.dialogue.OnlyWrites :=
  .offers fun _ => .offers fun _ => .ends _

/-- In this session a run fails in a block, another when the writer is flushed, and a run without any
block succeeds. The same writer refuses a line of an actor who succeeds. -/
theorem histories_count_finishes_of_failures :
    let writer : ByteWriter := { settings := { limit := some 12 }, flushes := 4 }
    let steps : List (Step WriterSettings) :=
      [.run (.selection [.guarded]), .finish, .configure { flushFault := some .readerClosed },
        .run .standard, .finish, .putLine "x", .configure {}, .run (.blocks []), .finish]
    let (entries, last) := (run steps writer : List (Entry UInt8) × ByteWriter)
    let ended := ((Plan.ofActors [stubborn]).runOn writer).outlet
    CountsFinishes ByteWriter.flushes ∧ finishes steps entries = 3 ∧ last.flushes = 7 ∧
      History writer 1 ended ∧ ended.held.length = 12 ∧ ended.flushes = 5 := by
  intro writer steps
  have said : finishes steps (run steps writer : List (Entry UInt8) × ByteWriter).1 = 3 := by
    decide +kernel
  have succeeded : ((Plan.ofActors [stubborn]).runOn writer).outcome.isOk.toNat = 1 := by
    decide +kernel
  have history : History writer 1 ((Plan.ofActors [stubborn]).runOn writer).outlet := by
    have writes : ∀ actor ∈ [stubborn], actor.dialogue.OnlyWrites := by
      simp [stubborn_onlyWrites]
    have whole := History.cons (.run writes writer) .nil
    rwa [succeeded] at whole
  obtain ⟨ofHistory, ofSession⟩ :=
    histories_count_finishes.2.2.1 _ _ _ _ histories_count_finishes.2.1
  exact ⟨histories_count_finishes.2.1, said, (ofSession steps writer).trans (congrArg (4 + ·) said),
    history, by decide +kernel, ofHistory _ _ _ history⟩

end Session

end LoopProgress
