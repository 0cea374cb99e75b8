import LoopProgress.Proofs.ScriptsInRow
import LoopProgress.Store.Takes

namespace LoopProgress

namespace ByteWriter

/-- An action delivers bytes if a writer takes what fits of them, and the action fails exactly if
something is left over. -/
def Delivers (action : OutletM ByteWriter Unit) (bytes : List UInt8) : Prop :=
  ∀ writer : ByteWriter, writer.chunk ≠ some 0 →
    writer.Takes (bytes.take (writer.room bytes.length)) (action.on writer).2 ∧
      (action.on writer).1 =
        if writer.room bytes.length < bytes.length then
          .error (.output writer.settings.refusal.toFault)
        else .ok ()

theorem delivers_nothing : Delivers (pure ()) [] := by
  intro writer _
  exact ⟨by simpa using Takes.refl writer, by simp⟩

/-- What two actions deliver in a row is cut at one place, whichever of them it falls into. -/
theorem Delivers.append {first second : OutletM ByteWriter Unit} {left right : List UInt8}
    (head : Delivers first left) (tail : Delivers second right) :
    Delivers (do first; second) (left ++ right) := by
  intro writer positive
  obtain ⟨takes, outcome⟩ := head writer positive
  have total : (left ++ right).length = left.length + right.length := List.length_append
  have more : left.length ≤ (left ++ right).length := by omega
  rcases called : first.on writer with ⟨result, after⟩
  rw [called] at takes outcome
  rw [OutletM.on_bind, called]
  by_cases short : writer.room left.length < left.length
  · have same := writer.room_of_short short more
    rw [if_pos short] at outcome
    subst outcome
    rw [same, List.take_append_of_le_length (Nat.le_of_lt short), if_pos (by omega)]
    exact ⟨takes, rfl⟩
  · have whole : writer.room left.length = left.length :=
      Nat.le_antisymm (writer.room_le _) (Nat.le_of_not_lt short)
    have enough := writer.room_mono more
    rw [if_neg short] at outcome
    subst outcome
    rw [whole, List.take_length] at takes
    obtain ⟨behind, ended⟩ := tail after (takes.chunk ▸ positive)
    have left_over : after.room right.length =
        writer.room (left ++ right).length - left.length := by
      have used := takes.room (left ++ right).length (by omega)
      rwa [total, Nat.add_sub_cancel_left, ← total] at used
    rw [left_over] at behind ended
    have both := takes.trans behind
    constructor
    · rwa [List.take_append, List.take_of_length_le (by omega)]
    · have kept : after.settings = writer.settings := takes.settings
      have remaining : writer.room (left ++ right).length - left.length < right.length ↔
          writer.room (left ++ right).length < (left ++ right).length := by omega
      simp only [ended, kept, remaining]

/-- The bytes of one list are offered in as many calls as it takes. -/
def offer (bytes : List UInt8) : OutletM ByteWriter Unit :=
  .ofEffect fun writer =>
    ((writer.writeAll bytes).1.mapError .output, (writer.writeAll bytes).2)

theorem offer_delivers (bytes : List UInt8) : Delivers (offer bytes) bytes := by
  intro writer positive
  obtain ⟨takes, outcome⟩ := writeAll_takes bytes writer positive
  refine ⟨takes, ?_⟩
  rw [offer, OutletM.on_ofEffect, outcome]
  split <;> rfl

/-- A line is its text, and then its newline. -/
theorem putLine_eq_offers (line : String) :
    (LoopProgress.putLine line : OutletM ByteWriter Unit) = (do
      offer (Utf8.encode line)
      offer [10]) := by
  ext1 writer
  change writer.putLine line = _
  rw [OutletM.on_bind, putLine, offer, OutletM.on_ofEffect]
  rcases writer.writeAll (Utf8.encode line) with ⟨fault | ⟨⟩, after⟩ <;> rfl

theorem putLine_delivers (line : String) :
    Delivers (LoopProgress.putLine line) (lineBytes line) := by
  rw [putLine_eq_offers]
  exact (offer_delivers _).append (offer_delivers _)

/-- However many lines there are, one cut separates what the writer holds from what is lost. -/
theorem putLines_delivers (lines : List String) :
    Delivers (putLines lines) (lines.flatMap lineBytes) := by
  induction lines with
  | nil => exact delivers_nothing
  | cons line rest inductionHypothesis =>
      rw [putLines_cons, List.flatMap_cons]
      exact (putLine_delivers line).append inductionHypothesis

/-- Bytes fit if they do not go past the limit. A writer at its limit or above it has no room. -/
def Fits (writer : ByteWriter) (bytes : List UInt8) : Prop :=
  ∀ limit, writer.settings.limit = some limit → bytes.length ≤ limit - writer.held.length

/-- This part of the bytes lies below the limit. -/
def fittingPart (writer : ByteWriter) (bytes : List UInt8) : List UInt8 :=
  match writer.settings.limit with
  | none => bytes
  | some limit => bytes.take (limit - writer.held.length)

theorem take_room (writer : ByteWriter) (bytes : List UInt8) :
    bytes.take (writer.room bytes.length) = writer.fittingPart bytes := by
  unfold room WriterSettings.room fittingPart
  cases writer.settings.limit with
  | none => exact List.take_length
  | some limit =>
      simp only
      rw [Nat.min_comm, ← List.take_eq_take_min]

theorem fits_iff (writer : ByteWriter) (bytes : List UInt8) :
    writer.Fits bytes ↔ ¬ writer.room bytes.length < bytes.length := by
  unfold room WriterSettings.room Fits
  cases writer.settings.limit with
  | none => simp
  | some limit =>
      simp only [Option.some.injEq, forall_eq']
      omega

instance (writer : ByteWriter) (bytes : List UInt8) : Decidable (writer.Fits bytes) :=
  decidable_of_iff _ (writer.fits_iff bytes).symm

/-- A flush leaves what is held and fails only by a fault of its own. -/
theorem finish_on (writer : ByteWriter) :
    ∃ flushed : ByteWriter, flushed.held = writer.held ∧
      (LoopProgress.finish : OutletM ByteWriter Unit).on writer =
        match writer.settings.flushFault with
        | some fault => (.error (.output fault), flushed)
        | none => (.ok (), flushed) := by
  change ∃ flushed : ByteWriter, flushed.held = writer.held ∧ writer.flush = _
  rw [flush, WriterSettings.flush]
  cases writer.settings.flushFault with
  | some fault => exact ⟨writer, rfl, rfl⟩
  | none => exact ⟨{ writer with flushes := writer.flushes + 1 }, rfl, rfl⟩

end ByteWriter

/-- A buffer takes every line as a whole. -/
theorem ByteBuffer.putLines_on (lines : List String) (buffer : ByteBuffer) :
    (putLines lines : OutletM ByteBuffer Unit).on buffer =
      (.ok (), ⟨buffer.held ++ lines.flatMap lineBytes⟩) := by
  induction lines generalizing buffer with
  | nil => simp
  | cons line rest inductionHypothesis =>
      rw [putLines_cons, OutletM.on_bind]
      change (putLines rest : OutletM ByteBuffer Unit).on ⟨buffer.held ++ lineBytes line⟩ = _
      rw [inductionHypothesis, List.flatMap_cons, List.append_assoc]

namespace Plan

/-- A run on a buffer ends as its scripts do. -/
theorem runOn_buffer {plan : Plan ByteBuffer} {scripts : List Script}
    (listed : plan.blocks = scripts.map Script.block) (buffer : ByteBuffer) :
    (plan.runOn buffer).outlet.held =
        buffer.held ++ (Script.linesOf scripts).flatMap lineBytes ∧
      (plan.runOn buffer).outcome = (Script.endingOf scripts).map Summary.mk := by
  have ran := runOn_scripts listed buffer
  rw [ByteBuffer.putLines_on] at ran
  cases ending : Script.endingOf scripts with
  | error failure =>
      simp only [ending, Prod.mk.injEq] at ran
      exact ⟨congrArg ByteBuffer.held ran.2, ran.1⟩
  | ok reports =>
      simp only [ending] at ran
      obtain ⟨outcome, outlet⟩ := Prod.mk.inj ran
      exact ⟨congrArg ByteBuffer.held outlet, outcome⟩

/-- A run on a writer fails with the refusal of the writer if something does not fit, or else with
the first failure of a block, or else with the failure to flush. -/
theorem runOn_writer {plan : Plan ByteWriter} {scripts : List Script}
    (listed : plan.blocks = scripts.map Script.block) (writer : ByteWriter)
    (positive : writer.chunk ≠ some 0) :
    let bytes := (Script.linesOf scripts).flatMap lineBytes
    (plan.runOn writer).outlet.held = writer.held ++ writer.fittingPart bytes ∧
      (plan.runOn writer).outcome =
        if writer.Fits bytes then
          match Script.endingOf scripts, writer.settings.flushFault with
          | .error failure, _ => .error failure
          | .ok _, some fault => .error (.output fault)
          | .ok reports, none => .ok ⟨reports⟩
        else .error (.output writer.settings.refusal.toFault) := by
  intro bytes
  obtain ⟨takes, outcome⟩ :=
    ByteWriter.putLines_delivers (Script.linesOf scripts) writer positive
  have held := writer.take_room bytes ▸ takes.held
  have ran := runOn_scripts listed writer
  rcases written : (putLines (Script.linesOf scripts) : OutletM ByteWriter Unit).on writer with
    ⟨result, after⟩
  rw [written] at outcome takes held ran
  by_cases fits : writer.Fits bytes
  · rw [if_neg ((writer.fits_iff bytes).mp fits)] at outcome
    subst outcome
    rw [if_pos fits]
    have settings : after.settings = writer.settings := takes.settings
    cases ending : Script.endingOf scripts with
    | error failure =>
        simp only [ending] at ran
        obtain ⟨outcome, outlet⟩ := Prod.mk.inj ran
        exact ⟨outlet ▸ held, outcome⟩
    | ok reports =>
        obtain ⟨flushed, kept, ended⟩ := after.finish_on
        rw [settings] at ended
        cases fault : writer.settings.flushFault with
        | some fault =>
            simp only [ending, ended, fault] at ran
            obtain ⟨outcome, outlet⟩ := Prod.mk.inj ran
            exact ⟨outlet ▸ kept.trans held, outcome⟩
        | none =>
            simp only [ending, ended, fault] at ran
            obtain ⟨outcome, outlet⟩ := Prod.mk.inj ran
            exact ⟨outlet ▸ kept.trans held, outcome⟩
  · rw [if_pos (Decidable.not_not.mp (mt (writer.fits_iff bytes).mpr fits))] at outcome
    subst outcome
    rw [if_neg fits]
    obtain ⟨outcome, outlet⟩ := Prod.mk.inj ran
    exact ⟨outlet ▸ held, outcome⟩

/-- A run on any outlet of bytes leaves what fits of its lines, byte for byte, and nothing else. -/
theorem runOn_delivers (requests : List BlockRequest) :
    let scripts := requests.map BlockRequest.script
    let bytes := (Script.linesOf scripts).flatMap lineBytes
    (∀ buffer : ByteBuffer,
      let run := ((PlanRequest.blocks requests).plan : Plan ByteBuffer).runOn buffer
      run.outlet.held = buffer.held ++ bytes ∧
        run.outcome = (Script.endingOf scripts).map Summary.mk) ∧
      ∀ writer : ByteWriter, writer.chunk ≠ some 0 →
        let run := ((PlanRequest.blocks requests).plan : Plan ByteWriter).runOn writer
        run.outlet.held = writer.held ++ writer.fittingPart bytes ∧
          run.outcome =
            if writer.Fits bytes then
              match Script.endingOf scripts, writer.settings.flushFault with
              | .error failure, _ => .error failure
              | .ok _, some fault => .error (.output fault)
              | .ok reports, none => .ok ⟨reports⟩
            else .error (.output writer.settings.refusal.toFault) :=
  ⟨runOn_buffer (PlanRequest.blocks_plan requests),
    runOn_writer (PlanRequest.blocks_plan requests)⟩

/-- The limit of this writer cuts a character in two, before the script can fail by itself. -/
theorem runOn_delivers_half_character :
    let requests : List BlockRequest :=
      [.standard .guarded, .scripted ⟨.nested, ["é"], .error (.configuration "late")⟩]
    let writer : ByteWriter :=
      { held := [9], chunk := some 2, interruptions := [1, 3]
        settings := { limit := some 52, refusal := .takesNothing } }
    let run := ((PlanRequest.blocks requests).plan : Plan ByteWriter).runOn writer
    writer.chunk ≠ some 0 ∧
      run.outlet.held =
        9 :: Utf8.encode "count = 1\ncount = 2\ncount = 3\nWhile loop finished\n" ++ [195] ∧
      run.outcome = .error (.output .nothingTaken) := by
  intro requests writer run
  have positive : writer.chunk ≠ some 0 := by decide
  obtain ⟨held, outcome⟩ := (runOn_delivers requests).2 writer positive
  exact ⟨positive, held.trans (by decide), outcome.trans rfl⟩

end Plan

end LoopProgress
