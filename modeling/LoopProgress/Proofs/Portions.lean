import LoopProgress.Proofs.Delivery
import LoopProgress.Proofs.Interchange

namespace LoopProgress

/-- A whole writer takes in one go what fits of a line. It has no chunks and is never interrupted. -/
structure WholeWriter where
  held : List UInt8 := []
  settings : WriterSettings := {}
  flushes : Nat := 0

namespace WholeWriter

def putLine (line : String) (writer : WholeWriter) : Except Failure Unit × WholeWriter :=
  let bytes := lineBytes line
  let room := writer.settings.room writer.held.length bytes.length
  (if room < bytes.length then .error (.output writer.settings.refusal.toFault) else .ok (),
    { writer with held := writer.held ++ bytes.take room })

def flush (writer : WholeWriter) : Except Failure Unit × WholeWriter :=
  let (outcome, flushes) := writer.settings.flush writer.flushes
  (outcome, { writer with flushes })

instance : Store WholeWriter WriterSettings UInt8 where
  putLine line := .ofEffect (WholeWriter.putLine line)
  finish := .ofEffect WholeWriter.flush
  contents := held
  configure settings writer := { writer with settings }
  handOut? writer := some writer.held
  emptied writer := { writer with held := [] }
  finishes? writer := some writer.flushes

end WholeWriter

namespace ByteWriter

/-- A writer is seen as a whole if its chunks and its interruptions are left out. -/
def whole (writer : ByteWriter) : WholeWriter :=
  ⟨writer.held, writer.settings, writer.flushes⟩

theorem Takes.whole {writer after : ByteWriter} {bytes : List UInt8}
    (takes : writer.Takes bytes after) :
    after.whole = { writer.whole with held := writer.held ++ bytes } := by
  simp only [ByteWriter.whole, takes.held, takes.settings, takes.flushes]

/-- However a line is taken in portions, as a whole the writer takes what fits of it. -/
theorem putLine_whole (line : String) {writer : ByteWriter} (positive : writer.chunk ≠ some 0) :
    let (outcome, after) := (LoopProgress.putLine line : OutletM ByteWriter Unit).on writer
    outcome = (writer.whole.putLine line).1 ∧ after.whole = (writer.whole.putLine line).2 ∧
      after.chunk ≠ some 0 := by
  obtain ⟨takes, outcome⟩ := putLine_delivers line writer positive
  exact ⟨outcome, takes.whole, takes.chunk ▸ positive⟩

/-- A writer whose chunks hold a byte can stand for its whole, and the other way round. -/
theorem interchangeable_whole :
    InterchangeableStores fun (writer : ByteWriter) (seen : WholeWriter) =>
      writer.whole = seen ∧ writer.chunk ≠ some 0 where
  putLine line := by
    rintro writer _ ⟨rfl, positive⟩
    exact putLine_whole line positive
  finish := by
    rintro writer _ ⟨rfl, positive⟩
    exact ⟨rfl, rfl, positive⟩
  configure _ _ _ := by
    rintro ⟨rfl, positive⟩
    exact ⟨rfl, positive⟩
  emptied := by
    rintro writer _ ⟨rfl, positive⟩
    exact ⟨rfl, positive⟩
  handOut? := by
    rintro writer _ ⟨rfl, -⟩
    rfl
  contents := by
    rintro writer _ ⟨rfl, -⟩
    rfl
  finishes? := by
    rintro writer _ ⟨rfl, -⟩
    rfl

/-- An offer is a row of calls. Each call is made on what is left of the bytes, and the last of
them either takes the rest or ends the offer with a fault. -/
inductive Offers : Nat → List UInt8 → ByteWriter → Except Fault Unit → ByteWriter → Prop where
  | done {writer : ByteWriter} : Offers 0 [] writer (.ok ()) writer
  | interrupted {calls : Nat} {bytes : List UInt8} {writer after last : ByteWriter}
      {outcome : Except Fault Unit} (present : bytes ≠ [])
      (called : writer.write bytes = (.interrupted, after))
      (again : Offers calls bytes after outcome last) :
      Offers (calls + 1) bytes writer outcome last
  | failed {bytes : List UInt8} {writer after : ByteWriter} {fault : Fault}
      {lasting : fault.kind ≠ .interrupted} (present : bytes ≠ [])
      (called : writer.write bytes = (.failed fault lasting, after)) :
      Offers 1 bytes writer (.error fault) after
  | stuck {bytes : List UInt8} {writer after : ByteWriter} (present : bytes ≠ [])
      (called : writer.write bytes = (.took 0, after)) :
      Offers 1 bytes writer (.error .nothingTaken) after
  | took {calls count : Nat} {bytes : List UInt8} {writer after last : ByteWriter}
      {outcome : Except Fault Unit} (present : bytes ≠ [])
      (called : writer.write bytes = (.took (count + 1), after))
      (rest : Offers calls (bytes.drop (count + 1)) after outcome last) :
      Offers (calls + 1) bytes writer outcome last

/-- Each call uses up a byte or an interruption, so an offer ends. -/
theorem writeAll_offers (bytes : List UInt8) (writer : ByteWriter) :
    ∃ calls, Offers calls bytes writer (writer.writeAll bytes).1 (writer.writeAll bytes).2 ∧
      calls + (writer.writeAll bytes).2.interruptions.length ≤
        bytes.length + writer.interruptions.length := by
  fun_induction writeAll bytes writer with
  | case1 writer => exact ⟨0, .done, by simp⟩
  | case2 bytes writer present after called inductionHypothesis =>
      obtain ⟨calls, offers, bound⟩ := inductionHypothesis
      have fewer := write_interrupted called
      exact ⟨calls + 1, .interrupted present called offers, by omega⟩
  | case3 bytes writer present fault lasting after called =>
      obtain ⟨rfl, -⟩ := write_failed called
      have positive := List.length_pos_iff.mpr present
      exact ⟨1, .failed present called, by simp only; omega⟩
  | case4 bytes writer present after called =>
      have positive := List.length_pos_iff.mpr present
      have same := write_took called
      exact ⟨1, .stuck present called, by simp only [same]; omega⟩
  | case5 bytes writer present count after called inductionHypothesis =>
      obtain ⟨calls, offers, bound⟩ := inductionHypothesis
      have same := write_took called
      obtain ⟨within, -⟩ := write_took_succ called
      have below := writer.room_le bytes.length
      rw [same, List.length_drop] at bound
      exact ⟨calls + 1, .took present called offers, by omega⟩

/-- A line is offered as its text and, if all of that is taken, as its newline. -/
inductive OffersLine (line : String) (writer : ByteWriter) :
    Nat → Except Failure Unit → ByteWriter → Prop where
  | cut {calls : Nat} {fault : Fault} {after : ByteWriter}
      (text : Offers calls (Utf8.encode line) writer (.error fault) after) :
      OffersLine line writer calls (.error (.output fault)) after
  | ended {first second : Nat} {outcome : Except Fault Unit} {middle after : ByteWriter}
      (text : Offers first (Utf8.encode line) writer (.ok ()) middle)
      (newline : Offers second [10] middle outcome after) :
      OffersLine line writer (first + second) (outcome.mapError .output) after

/-- A line is answered after a bounded number of calls. -/
theorem putLine_offersLine (line : String) (writer : ByteWriter) :
    ∃ calls ≤ (lineBytes line).length + writer.interruptions.length,
      writer.OffersLine line calls (writer.putLine line).1 (writer.putLine line).2 := by
  obtain ⟨first, text, bound⟩ := writer.writeAll_offers (Utf8.encode line)
  have length : (lineBytes line).length = (Utf8.encode line).length + 1 := List.length_append
  rw [putLine]
  rcases written : writer.writeAll (Utf8.encode line) with ⟨fault | ⟨⟩, middle⟩
  · rw [written] at text bound
    exact ⟨first, by omega, .cut text⟩
  · rw [written] at text bound
    obtain ⟨second, newline, boundBehind⟩ := middle.writeAll_offers [10]
    refine ⟨first + second, ?_, .ended text newline⟩
    simp only [List.length_singleton] at boundBehind
    simp only at bound
    omega

end ByteWriter

namespace Session

/-- Nobody sees in how many portions a writer takes its bytes and how often it is interrupted. The
session shows what a whole writer shows, whichever actors take part, and every line in it is
answered. -/
theorem session_hides_portions {role : Type} [Role role] [ActedRole role]
    (steps : List (Step WriterSettings role)) {one other : ByteWriter}
    (same : one.whole = other.whole) (positive : one.chunk ≠ some 0)
    (positiveToo : other.chunk ≠ some 0) :
    let session (writer : ByteWriter) := (run steps writer : List (Entry UInt8) × ByteWriter)
    (session one).1 = (session other).1 ∧
      ((session one).1, (session one).2.whole) =
        (run steps one.whole : List (Entry UInt8) × WholeWriter) ∧
      ∀ (line : String) (writer : ByteWriter),
        let (outcome, after) := (putLine line : OutletM ByteWriter Unit).on writer
        ∃ calls ≤ (lineBytes line).length + writer.interruptions.length,
          writer.OffersLine line calls outcome after := by
  intro session
  have shown (writer : ByteWriter) (positive : writer.chunk ≠ some 0) :
      ((session writer).1, (session writer).2.whole) =
        (run steps writer.whole : List (Entry UInt8) × WholeWriter) := by
    obtain ⟨entries, last, -⟩ :=
      run_agree ByteWriter.interchangeable_whole steps ⟨rfl, positive⟩
    exact Prod.ext entries last
  have both := (shown one positive).trans (same ▸ (shown other positiveToo).symm)
  refine ⟨(Prod.mk.inj both).1, shown one positive, ?_⟩
  intro line writer
  exact writer.putLine_offersLine line

/-- One of these writers takes a byte at a time and is interrupted, and both are cut off behind half
a character. Neither can an actor tell them apart. -/
theorem session_hides_portions_half_character :
    let one : ByteWriter :=
      { held := [9], chunk := some 1, interruptions := [1, 4, 1, 0], settings := { limit := some 5 } }
    let other : ByteWriter :=
      { held := [9], interruptions := [5], settings := { limit := some 5 } }
    let steps : List (Step WriterSettings) :=
      [.putLine "ab", .putLine "é", .run (.selection [.guarded]), .take,
        .configure { flushFault := some .readerClosed }, .drain, .block (.standard .nested),
        .finish]
    let acted : List (Step WriterSettings Actor) :=
      [.putLine "é", .block .restless, .drain, .run (.blocks [.restless])]
    let sizes (entries : List (Entry UInt8)) := entries.map (·.snapshot.size)
    one.whole = other.whole ∧ one.chunk ≠ some 0 ∧ other.chunk ≠ some 0 ∧
      (run steps one).1 = (run steps other).1 ∧
      sizes (run steps one).1 = [4, 5, 5, 5, 5, 0, 111, 111] ∧
      (run acted one).1 = (run acted other).1 ∧ sizes (run acted one).1 = [4, 5, 0, 5] := by
  intro one other steps acted sizes
  have same : one.whole = other.whole := rfl
  have positive : one.chunk ≠ some 0 := by decide
  have positiveToo : other.chunk ≠ some 0 := by decide
  obtain ⟨agree, seen, -⟩ := session_hides_portions steps same positive positiveToo
  have held : sizes (run steps one.whole).1 = [4, 5, 5, 5, 5, 0, 111, 111] := by
    decide +kernel
  obtain ⟨agreeToo, seenToo, -⟩ := session_hides_portions acted same positive positiveToo
  have heldToo : sizes (run acted one.whole).1 = [4, 5, 0, 5] := by
    decide +kernel
  rw [← seen] at held
  rw [← seenToo] at heldToo
  exact ⟨same, positive, positiveToo, agree, held, agreeToo, heldToo⟩

end Session

end LoopProgress
