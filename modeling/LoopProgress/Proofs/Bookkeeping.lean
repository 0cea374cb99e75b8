import LoopProgress.Proofs.Delivery
import LoopProgress.Recorder

namespace LoopProgress

/-- A call has added what its outlet holds after it and did not hold before. -/
def Call.added {store settings item : Type} [Store store settings item] (call : Call store) :
    List item :=
  (Store.contents call.after).drop (Store.contents call.before).length

theorem Call.added_eq {store settings item : Type} [Store store settings item]
    {call : Call store} {added : List item}
    (held : Store.contents call.after = Store.contents call.before ++ added) :
    call.added = added := by
  rw [Call.added, held, List.drop_left]

variable {store settings : Type} [Store store settings UInt8]

/-- A call is in order if it adds its line with the newline, or a proper part of it in front if it
fails. It never adds anything past the limit. -/
structure Call.InOrder (limit? : store → Option Nat) (call : Call store) : Prop where
  held : Store.contents call.after = Store.contents call.before ++ call.added
  accepted : call.outcome = .ok () → call.added = lineBytes call.line
  refused (failure : Failure) : call.outcome = .error failure →
    call.added <+: lineBytes call.line ∧ call.added ≠ lineBytes call.line
  within (limit : Nat) : limit? call.before = some limit →
    (Store.contents call.after).length ≤ max limit (Store.contents call.before).length

theorem Call.inOrder_of_held {limit? : store → Option Nat} {call : Call store}
    {added : List UInt8} (held : Store.contents call.after = Store.contents call.before ++ added)
    (accepted : call.outcome = .ok () → added = lineBytes call.line)
    (refused : ∀ failure, call.outcome = .error failure →
      added <+: lineBytes call.line ∧ added ≠ lineBytes call.line)
    (within : ∀ limit, limit? call.before = some limit →
      (Store.contents call.after).length ≤ max limit (Store.contents call.before).length) :
    call.InOrder limit? := by
  have same := Call.added_eq held
  rw [← same] at held accepted refused
  exact ⟨held, accepted, refused, within⟩

/-- A call that is refused has not added the newline of its line. -/
theorem Call.InOrder.added_in_text {limit? : store → Option Nat} {call : Call store}
    {failure : Failure} (inOrder : call.InOrder limit?) (refused : call.outcome = .error failure) :
    call.added <+: Utf8.encode call.line := by
  obtain ⟨part, proper⟩ := inOrder.refused failure refused
  rcases List.prefix_concat_iff.mp part with whole | short
  · exact absurd whole proper
  · exact short

/-- A call whose line holds no newline adds one exactly if it is accepted. -/
theorem Call.InOrder.count_newline {limit? : store → Option Nat} {call : Call store}
    (inOrder : call.InOrder limit?) (absent : '\n' ∉ call.line.toList) :
    call.added.count 10 = if call.outcome.isOk then 1 else 0 := by
  have none_in_text : (Utf8.encode call.line).count 10 = 0 :=
    List.count_eq_zero.mpr (Utf8.newline_not_mem_encode absent)
  cases outcome : call.outcome with
  | ok _ =>
      rw [inOrder.accepted outcome, lineBytes, List.count_append, none_in_text]
      rfl
  | error failure =>
      have bound := (inOrder.added_in_text outcome).sublist.count_le 10
      rw [none_in_text] at bound
      exact Nat.le_zero.mp bound

/-- A byte store keeps its books if its calls are in order and nothing but a call or an emptying
changes what it holds. Sound stores stay sound. -/
structure KeepsBooks (limit? : store → Option Nat) (sound : store → Prop) : Prop where
  putLine (line : String) (start : store) : sound start →
    sound ((putLine line : OutletM store Unit).on start).2 ∧
      (Call.mk line ((putLine line : OutletM store Unit).on start).1 start
        ((putLine line : OutletM store Unit).on start).2).InOrder limit?
  finish (start : store) : sound start →
    sound ((finish : OutletM store Unit).on start).2 ∧
      Store.contents ((finish : OutletM store Unit).on start).2 = Store.contents start
  configure (settings : settings) (start : store) : sound start →
    sound (Store.configure settings start) ∧
      Store.contents (Store.configure settings start) = Store.contents start
  emptied (start : store) : sound start →
    sound (Store.emptied start) ∧ Store.contents (Store.emptied start) = []
  handOut? (start : store) : Store.handOut? start = some (Store.contents start)

/-- A buffer without a limit keeps its books. -/
theorem ByteBuffer.keepsBooks :
    KeepsBooks (fun _ : ByteBuffer => none) (fun _ => True) where
  putLine line start _ := by
    refine ⟨trivial, Call.inOrder_of_held rfl (fun _ => rfl) ?_ ?_⟩ <;> nofun
  finish _ _ := ⟨trivial, rfl⟩
  configure _ _ _ := ⟨trivial, rfl⟩
  emptied _ _ := ⟨trivial, rfl⟩
  handOut? _ := rfl

/-- A writer whose chunks hold a byte keeps its books. -/
theorem ByteWriter.keepsBooks :
    KeepsBooks (fun writer : ByteWriter => writer.settings.limit)
      (fun writer => writer.chunk ≠ some 0) where
  putLine line start positive := by
    obtain ⟨takes, outcome⟩ := putLine_delivers line start positive
    refine ⟨takes.chunk ▸ positive, Call.inOrder_of_held takes.held ?_ ?_ ?_⟩
    · intro accepted
      have whole : ¬ start.room (lineBytes line).length < (lineBytes line).length := by
        intro short
        rw [if_pos short] at outcome
        exact nomatch outcome.symm.trans accepted
      exact List.take_of_length_le (Nat.le_of_not_lt whole)
    · intro failure refused
      have short : start.room (lineBytes line).length < (lineBytes line).length := by
        apply Decidable.byContradiction
        intro whole
        rw [if_neg whole] at outcome
        exact nomatch outcome.symm.trans refused
      refine ⟨List.take_prefix _ _, ?_⟩
      intro (same : (lineBytes line).take (start.room (lineBytes line).length) = lineBytes line)
      have length := congrArg List.length same
      rw [List.length_take] at length
      omega
    · intro limit (limited : start.settings.limit = some limit)
      change ((LoopProgress.putLine line : OutletM ByteWriter Unit).on start).2.held.length ≤
        max limit start.held.length
      have room : start.room (lineBytes line).length =
          min (lineBytes line).length (limit - start.held.length) := by
        simp only [ByteWriter.room, WriterSettings.room, limited]
      rw [takes.held, List.length_append, List.length_take, room]
      omega
  finish _ positive := ⟨positive, rfl⟩
  configure _ _ positive := ⟨positive, rfl⟩
  emptied _ positive := ⟨positive, rfl⟩
  handOut? _ := rfl

end LoopProgress
