import LoopProgress.Proofs.Conservation
import LoopProgress.Proofs.Decoding
import LoopProgress.Proofs.Offered
import LoopProgress.Text.Pieces

namespace LoopProgress

/-- These lines cannot be mistaken for more than they are. -/
def Unbroken (lines : List String) : Prop :=
  ∀ line ∈ lines, '\n' ∉ line.toList

instance (lines : List String) : Decidable (Unbroken lines) :=
  inferInstanceAs (Decidable (∀ line ∈ lines, '\n' ∉ line.toList))

namespace Unbroken

variable {lines : List String}

/-- Lines that are written one behind the other are cut at their ends and nowhere else. -/
theorem pieces_lineBytes (unbroken : Unbroken lines) {rest : List UInt8} (absent : 10 ∉ rest) :
    pieces 10 (lines.flatMap lineBytes ++ rest) = lines.map Utf8.encode ++ [rest] := by
  have encoded : ∀ piece ∈ lines.map Utf8.encode, 10 ∉ piece := by
    intro piece listed
    obtain ⟨line, present, rfl⟩ := List.mem_map.mp listed
    exact Utf8.newline_not_mem_encode (unbroken line present)
  have cut := pieces_ended encoded absent
  rwa [List.flatMap_map] at cut

theorem pieces_lineBytes_nil (unbroken : Unbroken lines) :
    pieces 10 (lines.flatMap lineBytes) = lines.map Utf8.encode ++ [[]] := by
  have cut := unbroken.pieces_lineBytes (List.not_mem_nil (a := 10))
  rwa [List.append_nil] at cut

end Unbroken

/-- The characters of a line and its newline. -/
def lineCharacters (line : String) : List Char :=
  line.toList ++ ['\n']

/-- Whole lines together are the encoding of all their characters. -/
theorem flatMap_lineBytes (lines : List String) :
    lines.flatMap lineBytes = (lines.flatMap lineCharacters).flatMap String.utf8EncodeChar := by
  rw [List.flatMap_assoc]
  apply List.flatMap_congr
  intro line _
  rw [lineCharacters, List.flatMap_append]
  rfl

/-- Bytes frame the calls that have offered some lines if each accepted line is a piece that its
newline ends. Behind these pieces there is a part of the line that was refused, or nothing. -/
def Frames {outlet : Type} (lines : List String) (calls : List (Call outlet))
    (outcome : Except Failure Unit) (held : List UInt8) : Prop :=
  ∃ rest, pieces 10 held = (acceptedLines calls).map Utf8.encode ++ [rest] ∧
    match outcome with
    | .ok _ => acceptedLines calls = lines ∧ rest = []
    | .error failure => ∃ refused ∈ calls, ∃ unread, refused.outcome = .error failure ∧
        lines = acceptedLines calls ++ refused.line :: unread ∧
        rest <+: Utf8.encode refused.line

/-- Calls that are in order frame what they have added. -/
theorem frames_of_offered {store settings : Type} [Store store settings UInt8]
    {limit? : store → Option Nat} {lines : List String} {calls : List (Call store)}
    {outcome : Except Failure Unit} (unbroken : Unbroken lines)
    (offered : Offered lines calls outcome) (inOrder : ∀ call ∈ calls, call.InOrder limit?) :
    Frames lines calls outcome (calls.flatMap Call.added) := by
  cases ended : outcome with
  | ok _ =>
      obtain ⟨rfl, accepted⟩ := offered.lines_of_ok ended
      refine ⟨[], ?_, acceptedLines_of_accepted accepted, rfl⟩
      rw [Session.flatMap_added_of_accepted calls inOrder accepted,
        acceptedLines_of_accepted accepted]
      exact unbroken.pieces_lineBytes_nil
  | error failure =>
      obtain ⟨before, last, unread, rfl, rfl, refused, accepted⟩ := offered.split_of_error ended
      have lines : acceptedLines (before ++ [last]) = before.map Call.line := by
        rw [acceptedLines_append, acceptedLines_singleton, refused, List.append_nil,
          acceptedLines_of_accepted accepted]
      have earlier : ∀ call ∈ before, call.InOrder limit? := fun call listed =>
        inOrder call (List.mem_append_left _ listed)
      have listed : last ∈ before ++ [last] := List.mem_append_right _ (.head _)
      have part := (inOrder last listed).added_in_text refused
      have unbrokenBefore : Unbroken (before.map Call.line) := fun line present =>
        unbroken line (List.mem_append_left _ present)
      have unbrokenLast : 10 ∉ Utf8.encode last.line :=
        Utf8.newline_not_mem_encode (unbroken last.line (List.mem_append_right _ (.head _)))
      refine ⟨last.added, ?_, last, listed, unread, refused, ?_, part⟩
      · rw [lines, List.flatMap_append, List.flatMap_singleton,
          Session.flatMap_added_of_accepted before earlier accepted]
        exact unbrokenBefore.pieces_lineBytes fun present => unbrokenLast (part.subset present)
      · rw [lines]

/-- A store that starts empty is framed by its calls, wherever it cuts the lines off. -/
theorem putLines_frames {store settings : Type} [Store store settings UInt8]
    {limit? : store → Option Nat} {sound : store → Prop} (books : KeepsBooks limit? sound)
    {lines : List String} (unbroken : Unbroken lines) {start : store} (good : sound start)
    (empty : Store.contents start = []) :
    ∃ calls outcome last,
      (putLines lines : OutletM store Unit).on start = (outcome, last) ∧
        (putLines lines : OutletM (Recorder store) Unit).on ⟨start, [], []⟩ =
          (outcome, ⟨last, calls, []⟩) ∧
        Offered lines calls outcome ∧ Frames lines calls outcome (Store.contents last) := by
  let recorder : Recorder store := ⟨start, [], []⟩
  obtain ⟨calls, outcome, last, ran, offered, -⟩ := recorder.putLines_on lines
  have opened : recorder.Balances limit? sound [] [] := ⟨good, empty, nofun⟩
  obtain ⟨-, -, closed⟩ := (Recorder.Balances.interchangeable books [] []).putLines lines
    recorder recorder ⟨rfl, opened⟩
  have alone := Recorder.interchangeable_inner.putLines lines recorder start rfl
  rw [ran] at closed alone
  have held : Store.contents last = calls.flatMap Call.added := closed.balance
  refine ⟨calls, outcome, last, Prod.ext alone.1.symm alone.2.symm, ran, offered, ?_⟩
  rw [held]
  exact frames_of_offered unbroken offered closed.inOrder

/-- Lines can be read off what they leave behind. A buffer holds valid text that is cut into exactly
these lines, so no other lines leave the same. A writer holds exactly the accepted lines, and of the
refused one no more than a part of its text. -/
theorem putLines_framing_round_trips (lines : List String) (unbroken : Unbroken lines) :
    (let filled := (putLines lines : OutletM ByteBuffer Unit).on { held := [] }
      let bytes := filled.2.held
      filled.1 = .ok () ∧ bytes.toByteArray.IsValidUTF8 ∧
        Utf8.decode? bytes = some (lines.flatMap lineCharacters) ∧
        pieces 10 bytes = lines.map Utf8.encode ++ [[]] ∧
        (pieces 10 bytes).dropLast.map Utf8.decode? = lines.map (some ·.toList) ∧
        ∀ others, Unbroken others →
          ((putLines others : OutletM ByteBuffer Unit).on { held := [] }).2.held = bytes →
            others = lines) ∧
    ∀ writer : ByteWriter, writer.held = [] → writer.chunk ≠ some 0 →
      ∃ calls outcome last,
        (putLines lines : OutletM ByteWriter Unit).on writer = (outcome, last) ∧
          (putLines lines : OutletM (Recorder ByteWriter) Unit).on ⟨writer, [], []⟩ =
            (outcome, ⟨last, calls, []⟩) ∧
          Offered lines calls outcome ∧ Frames lines calls outcome last.held := by
  constructor
  · intro filled bytes
    have held (lines : List String) :
        ((putLines lines : OutletM ByteBuffer Unit).on { held := [] }).2.held =
          lines.flatMap lineBytes := by
      rw [ByteBuffer.putLines_on, List.nil_append]
    have whole : bytes = lines.flatMap lineBytes := held lines
    have cut := unbroken.pieces_lineBytes_nil
    rw [← whole] at cut
    refine ⟨congrArg Prod.fst (ByteBuffer.putLines_on lines _), ?_, ?_, cut, ?_, ?_⟩
    · rw [whole, flatMap_lineBytes]
      exact .intro _ rfl
    · rw [whole, flatMap_lineBytes, Utf8.decode?_characters]
    · rw [cut, List.dropLast_concat, List.map_map]
      exact List.map_congr_left fun line _ => Utf8.decode?_encode line
    · intro others unbrokenToo same
      have cutToo := unbrokenToo.pieces_lineBytes_nil
      rw [← held others, same, cut] at cutToo
      have encoded := List.append_cancel_right cutToo
      exact (List.map_injective_iff.mpr fun _ _ => Utf8.encode_injective) encoded.symm
  · intro writer empty positive
    exact putLines_frames ByteWriter.keepsBooks unbroken positive empty

/-- In this row of lines one is empty, one ends in a carriage return, and the limit falls into the
second character of the last. -/
theorem putLines_framing_round_trips_half_character :
    let lines := ["", "a\r", "bé"]
    let writer : ByteWriter := { chunk := some 2, interruptions := [1], settings := { limit := some 6 } }
    Unbroken lines ∧ writer.held = [] ∧ writer.chunk ≠ some 0 ∧
      ∃ calls outcome last,
        (putLines lines : OutletM (Recorder ByteWriter) Unit).on ⟨writer, [], []⟩ =
            (outcome, ⟨last, calls, []⟩) ∧
          Frames lines calls outcome last.held ∧ acceptedLines calls = ["", "a\r"] ∧
          last.held = [10, 97, 13, 10, 98, 195] := by
  intro lines writer
  have unbroken : Unbroken lines := by decide
  have positive : writer.chunk ≠ some 0 := by decide
  obtain ⟨calls, outcome, last, -, ran, -, frames⟩ :=
    (putLines_framing_round_trips lines unbroken).2 writer rfl positive
  refine ⟨unbroken, rfl, positive, calls, outcome, last, ran, frames, ?_, ?_⟩
  · have noted := congrArg (fun ran => acceptedLines ran.2.calls) ran
    exact noted.symm.trans (by decide +kernel)
  · have held := congrArg (fun ran => ran.2.inner.held) ran
    exact held.symm.trans (by decide +kernel)

end LoopProgress
