import LoopProgress.Proofs.Offered
import LoopProgress.Proofs.ScriptsInRow

namespace LoopProgress

variable {outlet : Type}

namespace Kind

/-- These kinds show so many lines. -/
def lineTotal (kinds : List Kind) : Nat :=
  6 * kinds.count .accumulate + 4 * kinds.count .guarded + 7 * kinds.count .nested

theorem length_lines (kinds : List Kind) : (kinds.flatMap lines).length = lineTotal kinds := by
  induction kinds with
  | nil => rfl
  | cons kind rest inductionHypothesis =>
      rw [List.flatMap_cons, List.length_append, inductionHypothesis]
      cases kind <;> simp [lineTotal, lines, length_accumulateLines, length_guardedLines,
        length_nestedLines] <;> omega

/-- A block reports as many lines as it made calls. -/
theorem block_calls [Outlet outlet] (kind : Kind) (recorder : Recorder outlet) :
    ∃ calls, ((kind.block : Block (Recorder outlet)).run.on recorder).2.calls =
        recorder.calls ++ calls ∧
      ∀ report, ((kind.block : Block (Recorder outlet)).run.on recorder).1 = .ok report →
        report.lines = calls.length := by
  obtain ⟨calls, offered, noted⟩ := recorder.putLines_offered kind.lines
  have lines : kind.script.lines = kind.lines := rfl
  refine ⟨calls, ?_⟩
  rw [kind.block_eq_script, kind.script.block_run_on, lines]
  rcases written : (putLines kind.lines : OutletM (Recorder outlet) Unit).on recorder with
    ⟨failure | ⟨⟩, after⟩
  · rw [written] at noted
    exact ⟨noted, nofun⟩
  · rw [written] at noted offered
    refine ⟨noted, ?_⟩
    rintro report ⟨⟩
    exact congrArg List.length (offered.lines_of_ok rfl).1.symm |>.trans (List.length_map _)

end Kind

namespace Plan

/-- Each block that is started makes these calls, the last of them also if it fails. -/
def callsOfBlocks : List (Block (Recorder outlet)) → Recorder outlet → List (List (Call outlet))
  | [], _ => []
  | block :: rest, start =>
      match block.run.on start with
      | (.error _, stopped) => [stopped.calls.drop start.calls.length]
      | (.ok _, next) => next.calls.drop start.calls.length :: callsOfBlocks rest next

variable [Outlet outlet]

/-- This plan runs the blocks of these kinds in turn. -/
def ofKinds (kinds : List Kind) : Plan outlet :=
  ⟨kinds.map Kind.block⟩

theorem runBlocks_calls (kinds : List Kind) (recorder : Recorder outlet) :
    let blocks : List (Block (Recorder outlet)) := kinds.map Kind.block
    (runBlocks blocks recorder).2.1.calls =
        recorder.calls ++ (callsOfBlocks blocks recorder).flatten ∧
      ∀ reports, (runBlocks blocks recorder).1 = .ok reports →
        reports.map Report.lines = (callsOfBlocks blocks recorder).map List.length := by
  induction kinds generalizing recorder with
  | nil => exact ⟨(List.append_nil _).symm, by rintro _ ⟨⟩; rfl⟩
  | cons kind rest inductionHypothesis =>
      obtain ⟨calls, noted, reported⟩ := kind.block_calls recorder
      simp only [List.map_cons, runBlocks, callsOfBlocks]
      rcases ran : (kind.block : Block (Recorder outlet)).run.on recorder with
        ⟨failure | report, next⟩
      · -- A block that fails has made calls too, and they are the last ones.
        rw [ran] at noted
        simp only at noted
        simp [noted]
      · rw [ran] at noted reported
        simp only at noted
        obtain ⟨total, lines⟩ := inductionHypothesis next
        simp only [noted, List.drop_left]
        refine ⟨?_, ?_⟩
        · rw [total, noted, List.flatten_cons, List.append_assoc]
        · intro reports outcome
          cases tail : (runBlocks (rest.map Kind.block) next).1 with
          | error failure => simp [tail, Except.map] at outcome
          | ok others =>
              simp only [tail, Except.map, Except.ok.injEq] at outcome
              rw [← outcome, List.map_cons, List.map_cons, lines others tail, reported report rfl]

theorem ofKinds_blocks (kinds : List Kind) :
    (ofKinds kinds : Plan outlet).blocks = (kinds.map Kind.script).map Script.block := by
  simp [ofKinds, Function.comp_def, Kind.block_eq_script]

/-- A run of these kinds offers all their lines in a row, and then only the finish can fail. -/
theorem runOn_ofKinds (kinds : List Kind) (start : outlet) :
    let run := (ofKinds kinds : Plan outlet).runOn start
    (run.outcome, run.outlet) =
      match (putLines (kinds.flatMap Kind.lines) : OutletM outlet Unit).on start with
      | (.error failure, stopped) => (.error failure, stopped)
      | (.ok _, written) =>
          match (finish : OutletM outlet Unit).on written with
          | (.error failure, stopped) => (.error failure, stopped)
          | (.ok _, finished) =>
              (.ok ⟨kinds.map Kind.report⟩, finished) := by
  have ran := runOn_scripts (ofKinds_blocks kinds) start
  rw [Script.linesOf_kinds, Script.endingOf_kinds] at ran
  exact ran

/-- A run of these kinds gives their own reports once every line is taken and the outlet is
finished. -/
theorem outcome_ofKinds_eq_ok_iff (kinds : List Kind) (start : outlet) (summary : Summary) :
    ((ofKinds kinds : Plan outlet).runOn start).outcome = .ok summary ↔
      ((do putLines (kinds.flatMap Kind.lines); finish : OutletM outlet Unit).on start).1 = .ok () ∧
        summary = ⟨kinds.map Kind.report⟩ := by
  have outcome := congrArg Prod.fst (runOn_ofKinds kinds start)
  simp only at outcome
  rw [outcome, OutletM.on_bind]
  rcases (putLines (kinds.flatMap Kind.lines) : OutletM outlet Unit).on start with
    ⟨failure | ⟨⟩, written⟩
  · simp
  · simp only
    rcases (finish : OutletM outlet Unit).on written with ⟨failure | ⟨⟩, finished⟩
    · simp
    · simp [eq_comm]

theorem totalLines_ofKinds (kinds : List Kind) :
    (Summary.mk (kinds.map Kind.report)).totalLines = Kind.lineTotal kinds := by
  rw [← Kind.length_lines]
  induction kinds with
  | nil => rfl
  | cons kind rest inductionHypothesis =>
      rw [List.map_cons, Summary.totalLines_cons, inductionHypothesis, List.flatMap_cons,
        List.length_append, Kind.report]

/-- To finish is no call of a recorder. -/
theorem runOn_calls (plan : Plan (Recorder outlet)) (recorder : Recorder outlet) :
    (plan.runOn recorder).outlet.calls = (runBlocks plan.blocks recorder).2.1.calls ∧
      ∀ summary, (plan.runOn recorder).outcome = .ok summary →
        (runBlocks plan.blocks recorder).1 = .ok summary.reports := by
  rcases ran : runBlocks plan.blocks recorder with ⟨failure | reports, written, events⟩
  · rw [runOn_of_blocks_fail ran]
    exact ⟨rfl, nofun⟩
  · rcases ended : (finish : OutletM (Recorder outlet) Unit).on written with
      ⟨failure | ⟨⟩, last⟩
    · have kept : written.calls = last.calls := congrArg (fun ran => ran.2.calls) ended
      rw [runOn_of_finish_fails ran ended]
      exact ⟨kept.symm, nofun⟩
    · have kept : written.calls = last.calls := congrArg (fun ran => ran.2.calls) ended
      rw [runOn_of_finished ran ended]
      refine ⟨kept.symm, ?_⟩
      rintro _ ⟨⟩
      rfl

/-- These calls reach the outlet in a run of these kinds. -/
def callsOf (kinds : List Kind) (start : outlet) : List (Call outlet) :=
  ((ofKinds kinds).runOn ({ inner := start } : Recorder outlet)).outlet.calls

theorem callsOf_eq (kinds : List Kind) (start : outlet) :
    callsOf kinds start =
      ((putLines (kinds.flatMap Kind.lines) : OutletM (Recorder outlet) Unit).on
        { inner := start }).2.calls := by
  have stopped := (runBlocks_scripts (kinds.map Kind.script) ({ inner := start } : Recorder outlet)).2
  rw [← ofKinds_blocks, Script.linesOf_kinds] at stopped
  rw [callsOf, (runOn_calls _ _).1, stopped]

theorem callsOf_offered (kinds : List Kind) (start : outlet) :
    Offered (kinds.flatMap Kind.lines) (callsOf kinds start)
      ((putLines (kinds.flatMap Kind.lines) : OutletM (Recorder outlet) Unit).on
        { inner := start }).1 := by
  obtain ⟨calls, offered, noted⟩ :=
    Recorder.putLines_offered (kinds.flatMap Kind.lines) ({ inner := start } : Recorder outlet)
  have same : callsOf kinds start = calls := (callsOf_eq kinds start).trans noted
  rwa [same]

/-- A recorder in front of the outlet shows the same run. -/
theorem runOn_recorder (kinds : List Kind) (start : outlet) :
    let run := (ofKinds kinds : Plan outlet).runOn start
    let recorded := (ofKinds kinds).runOn ({ inner := start } : Recorder outlet)
    recorded.outcome = run.outcome ∧ recorded.outlet.inner = run.outlet ∧
      recorded.events = run.events := by
  have same : ({ inner := start } : Recorder outlet).inner = start := rfl
  exact Recorder.interchangeable_inner.plan (.blocks kinds) same

/-- A summary is honest if it counts for each block the calls that a recorder shows, and if all of
them were accepted. -/
structure Honest (kinds : List Kind) (start : outlet) (summary : Summary) : Prop where
  ofOwnKind : summary.reports.map Report.kind = kinds
  lines : summary.reports.map Report.lines =
    (callsOfBlocks (kinds.map Kind.block) ({ inner := start } : Recorder outlet)).map List.length
  accepted : ∀ call ∈ callsOf kinds start, call.outcome = .ok ()
  calls : summary.totalLines = (callsOf kinds start).length
  total : summary.totalLines = Kind.lineTotal kinds

theorem honest_of_ok {kinds : List Kind} {start : outlet} {summary : Summary}
    (ended : ((ofKinds kinds : Plan outlet).runOn start).outcome = .ok summary) :
    Honest kinds start summary := by
  have recorded := (runOn_recorder kinds start).1.trans ended
  obtain ⟨finished, reports⟩ := (outcome_ofKinds_eq_ok_iff ..).mp recorded
  obtain ⟨_, written⟩ := OutletM.ok_of_bind finished
  obtain ⟨lines, accepted⟩ := (callsOf_offered kinds start).lines_of_ok written
  have total : summary.totalLines = Kind.lineTotal kinds := by
    rw [reports, totalLines_ofKinds]
  have length : (callsOf kinds start).length = Kind.lineTotal kinds := by
    rw [← List.length_map Call.line, lines, Kind.length_lines]
  refine ⟨?_, ?_, accepted, total.trans length.symm, total⟩
  · simp [reports, Function.comp_def, Kind.report]
  · exact (runBlocks_calls kinds _).2 _ ((runOn_calls _ _).2 summary recorded)

/-- Behind a call that was refused there is no other. -/
theorem last_of_refused {kinds : List Kind} {start : outlet} {call : Call outlet}
    {failure : Failure} (listed : call ∈ callsOf kinds start)
    (refused : call.outcome = .error failure) :
    ∃ accepted, callsOf kinds start = accepted ++ [call] ∧
      (∀ earlier ∈ accepted, earlier.outcome = .ok ()) ∧
      accepted.length < Kind.lineTotal kinds := by
  have offered := callsOf_offered kinds start
  rw [← Kind.length_lines]
  cases outcome : ((putLines (kinds.flatMap Kind.lines) : OutletM (Recorder outlet) Unit).on
      { inner := start }).1 with
  | ok _ =>
      have accepted := (offered.lines_of_ok outcome).2 call listed
      exact nomatch refused.symm.trans accepted
  | error other =>
      obtain ⟨accepted, last, calls, -, outcomes, fewer⟩ := offered.last_of_error outcome
      rw [calls] at listed
      rcases List.mem_append.mp listed with early | late
      · exact nomatch refused.symm.trans (outcomes call early)
      · cases List.mem_singleton.mp late
        exact ⟨accepted, calls, outcomes, fewer⟩

theorem accepted_of_hasRoom (kinds : List Kind) {start : outlet} {room : Nat}
    (hasRoom : HasRoom room start) :
    ((∃ summary, ((ofKinds kinds : Plan outlet).runOn start).outcome = .ok summary) ↔
        Kind.lineTotal kinds ≤ room) ∧
      acceptedLines (callsOf kinds start) = (kinds.flatMap Kind.lines).take room := by
  have inner : HasRoom room ({ inner := start } : Recorder outlet).inner := hasRoom
  obtain ⟨lines, finished⟩ := inner.putLines (kinds.flatMap Kind.lines)
  constructor
  · rw [← (runOn_recorder kinds start).1, ← Kind.length_lines, ← finished]
    simp only [outcome_ofKinds_eq_ok_iff, exists_and_left, exists_eq, and_true]
  · rw [callsOf_eq]
    exact lines

/-- A run of these kinds reports honestly if its summary is honest. A recorder shows the calls, and
changes nothing. A call that was refused is the last one and comes before all lines are through. So
the run succeeds exactly if there is room for all the lines, and in any case the first lines are
accepted that there is room for. -/
structure ReportsHonestly (kinds : List Kind) (start : outlet) : Prop where
  planned : (ofKinds kinds : Plan outlet).kinds = kinds
  shadowed :
    let run := (ofKinds kinds : Plan outlet).runOn start
    let recorded := (ofKinds kinds).runOn ({ inner := start } : Recorder outlet)
    recorded.outcome = run.outcome ∧ recorded.outlet.inner = run.outlet ∧
      recorded.events = run.events
  calls : callsOf kinds start =
    (callsOfBlocks (kinds.map Kind.block) ({ inner := start } : Recorder outlet)).flatten
  honest (summary : Summary) :
    ((ofKinds kinds : Plan outlet).runOn start).outcome = .ok summary →
      Honest kinds start summary
  refused (call : Call outlet) (failure : Failure) : call ∈ callsOf kinds start →
    call.outcome = .error failure →
      ∃ accepted, callsOf kinds start = accepted ++ [call] ∧
        (∀ earlier ∈ accepted, earlier.outcome = .ok ()) ∧
        accepted.length < Kind.lineTotal kinds
  fits (room : Nat) : HasRoom room start →
    ((∃ summary, ((ofKinds kinds : Plan outlet).runOn start).outcome = .ok summary) ↔
        Kind.lineTotal kinds ≤ room) ∧
      acceptedLines (callsOf kinds start) = (kinds.flatMap Kind.lines).take room

end Plan

namespace LineStore

theorem runOn_lines (kinds : List Kind) (store : LineStore) :
    ((Plan.ofKinds kinds).runOn store).outlet.lines =
      store.lines ++ acceptedLines (Plan.callsOf kinds store) := by
  let recorder : Recorder LineStore := { inner := store }
  have opened : recorder.inner.lines = store.lines ++ acceptedLines recorder.calls :=
    (List.append_nil _).symm
  obtain ⟨-, ⟨-, held⟩, -⟩ :=
    (interchangeable_held store.lines).plan (.blocks kinds) ⟨rfl, opened⟩
  rw [← (Plan.runOn_recorder kinds store).2.1]
  exact held

end LineStore

namespace Plan

theorem reportsHonestly_ofKinds [Outlet outlet] (kinds : List Kind) (start : outlet) :
    ReportsHonestly kinds start where
  planned := by simp [Plan.kinds, ofKinds, Function.comp_def]
  shadowed := runOn_recorder kinds start
  calls := by
    rw [callsOf, (runOn_calls _ _).1, ofKinds, (runBlocks_calls kinds _).1]
    rfl
  honest _ := honest_of_ok
  refused _ _ := last_of_refused
  fits _ := accepted_of_hasRoom kinds

/-- Whatever kinds a plan runs and whatever its outlet answers, the reports are honest. A line store
keeps the first lines that its limit leaves room for, and the run succeeds if these are all. -/
theorem runOn_reports_honestly (kinds : List Kind) :
    (∀ (outlet : Type) [Outlet outlet] (start : outlet), ReportsHonestly kinds start) ∧
      ∀ (store : LineStore) (limit : Nat), store.settings.limit = some limit →
        store.settings.finishFailure = none →
          let run := (ofKinds kinds).runOn store
          let room := limit - store.lines.length
          ((∃ summary, run.outcome = .ok summary) ↔ Kind.lineTotal kinds ≤ room) ∧
            run.outlet.lines = store.lines ++ (kinds.flatMap Kind.lines).take room := by
  constructor
  · intro outlet _ start
    exact reportsHonestly_ofKinds kinds start
  · intro store limit limited finishes run room
    obtain ⟨succeeds, accepted⟩ := accepted_of_hasRoom kinds (LineStore.hasRoom limited finishes)
    have held : run.outlet.lines = _ := LineStore.runOn_lines kinds store
    exact ⟨succeeds, held.trans (congrArg _ accepted)⟩

/-- Of two stores that already hold a line, one has room for all fourteen lines, and the other for
one less. -/
theorem runOn_reports_honestly_one_short :
    let kinds : List Kind := [.guarded, .accumulate, .guarded]
    let enough : LineStore := { lines := ["held"], settings := { limit := some 15 } }
    let short : LineStore := { lines := ["held"], settings := { limit := some 14 } }
    (enough.settings.limit = some 15 ∧ enough.settings.finishFailure = none ∧
      ∃ summary, ((ofKinds kinds).runOn enough).outcome = .ok summary) ∧
    short.settings.limit = some 14 ∧ short.settings.finishFailure = none ∧
      (¬ ∃ summary, ((ofKinds kinds).runOn short).outcome = .ok summary) ∧
      ((ofKinds kinds).runOn short).outlet.lines =
        "held" :: (kinds.flatMap Kind.lines).take 13 := by
  intro kinds enough short
  have total : Kind.lineTotal kinds = 14 := by decide
  obtain ⟨succeeds, -⟩ := (runOn_reports_honestly kinds).2 enough 15 rfl rfl
  obtain ⟨fails, held⟩ := (runOn_reports_honestly kinds).2 short 14 rfl rfl
  rw [total] at succeeds fails
  exact ⟨⟨rfl, rfl, succeeds.mpr (by decide)⟩, rfl, rfl, mt fails.mp (by decide), held⟩

end Plan

end LoopProgress
