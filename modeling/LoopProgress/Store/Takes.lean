import LoopProgress.Store.Writer

namespace LoopProgress.ByteWriter

/-- One writer leads to another if it has taken these bytes and kept its chunk, its settings and
its flushes. -/
structure Takes (writer : ByteWriter) (bytes : List UInt8) (after : ByteWriter) : Prop where
  held : after.held = writer.held ++ bytes
  chunk : after.chunk = writer.chunk
  settings : after.settings = writer.settings
  flushes : after.flushes = writer.flushes

theorem Takes.refl (writer : ByteWriter) : writer.Takes [] writer :=
  ⟨by simp, rfl, rfl, rfl⟩

theorem Takes.trans {first second third : ByteWriter} {left right : List UInt8}
    (before : first.Takes left second) (behind : second.Takes right third) :
    first.Takes (left ++ right) third where
  held := by rw [behind.held, before.held, List.append_assoc]
  chunk := behind.chunk.trans before.chunk
  settings := behind.settings.trans before.settings
  flushes := behind.flushes.trans before.flushes

theorem room_le (writer : ByteWriter) (offered : Nat) : writer.room offered ≤ offered := by
  rw [room, WriterSettings.room]
  split
  · exact Nat.le_refl _
  · exact Nat.min_le_left _ _

/-- A writer that cannot hold all that is offered cannot hold more of a longer offer. -/
theorem room_of_short (writer : ByteWriter) {offered longer : Nat}
    (short : writer.room offered < offered) (more : offered ≤ longer) :
    writer.room longer = writer.room offered := by
  unfold room WriterSettings.room at short ⊢
  cases limited : writer.settings.limit with
  | none =>
      simp only [limited] at short
      omega
  | some limit =>
      simp only [limited] at short ⊢
      omega

/-- A writer that can hold more of a longer offer holds all of a shorter one. -/
theorem room_mono (writer : ByteWriter) {offered longer : Nat} (more : offered ≤ longer) :
    writer.room offered ≤ writer.room longer := by
  unfold room WriterSettings.room
  cases writer.settings.limit with
  | none => exact more
  | some limit =>
      simp only
      omega

/-- Bytes that are taken use up room. -/
theorem Takes.room {writer after : ByteWriter} {bytes : List UInt8}
    (takes : writer.Takes bytes after) (offered : Nat)
    (within : bytes.length ≤ writer.room offered) :
    after.room (offered - bytes.length) = writer.room offered - bytes.length := by
  unfold ByteWriter.room WriterSettings.room at within ⊢
  rw [takes.settings, takes.held]
  cases limited : writer.settings.limit with
  | none => rfl
  | some limit =>
      simp only [limited, List.length_append] at within ⊢
      omega

theorem write_interrupted_takes {bytes : List UInt8} {writer after : ByteWriter}
    (called : writer.write bytes = (.interrupted, after)) : writer.Takes [] after := by
  unfold write at called
  split at called
  · cases called
    exact ⟨by simp, rfl, rfl, rfl⟩
  · split at called
    · split at called <;> cases called
    · cases called

theorem write_failed {bytes : List UInt8} {writer after : ByteWriter} {fault : Fault}
    {lasting : fault.kind ≠ .interrupted}
    (called : writer.write bytes = (.failed fault lasting, after)) :
    after = writer ∧ bytes ≠ [] ∧ writer.room bytes.length = 0 ∧
      writer.settings.refusal = .fails fault lasting := by
  unfold write at called
  split at called
  · cases called
  · split at called
    · rename_i stuck
      split at called
      · rename_i refusal
        cases called
        exact ⟨rfl, stuck.1, stuck.2, refusal⟩
      · cases called
    · cases called

/-- A call that takes nothing has no room, as long as a chunk holds a byte. -/
theorem write_took_zero {bytes : List UInt8} {writer after : ByteWriter}
    (positive : writer.chunk ≠ some 0) (present : bytes ≠ [])
    (called : writer.write bytes = (.took 0, after)) :
    after = writer ∧ writer.room bytes.length = 0 ∧ writer.settings.refusal = .takesNothing := by
  unfold write at called
  split at called
  · cases called
  · split at called
    · rename_i stuck
      split at called
      · cases called
      · rename_i refusal
        cases called
        exact ⟨rfl, stuck.2, refusal⟩
    · rename_i free
      simp only [Prod.mk.injEq, Reply.took.injEq] at called
      have some : 0 < writer.room bytes.length :=
        Nat.pos_of_ne_zero fun none => free ⟨present, none⟩
      have empty := called.1
      unfold portion at empty
      split at empty
      · omega
      · rename_i chunk chunked
        have nonzero : chunk ≠ 0 := fun zero => positive (zero ▸ chunked)
        omega

/-- A call that takes some bytes stays within the room. -/
theorem write_took_succ {bytes : List UInt8} {writer after : ByteWriter} {count : Nat}
    (called : writer.write bytes = (.took (count + 1), after)) :
    count + 1 ≤ writer.room bytes.length ∧ writer.Takes (bytes.take (count + 1)) after := by
  unfold write at called
  split at called
  · cases called
  · split at called
    · split at called <;> cases called
    · simp only [Prod.mk.injEq, Reply.took.injEq] at called
      obtain ⟨counted, rfl⟩ := called
      refine ⟨?_, by rw [counted], rfl, rfl, rfl⟩
      rw [← counted, portion]
      split
      · exact Nat.le_refl _
      · exact Nat.min_le_right _ _

/-- The calls together take what fits, and fail exactly if something does not. -/
theorem writeAll_takes (bytes : List UInt8) (writer : ByteWriter)
    (positive : writer.chunk ≠ some 0) :
    writer.Takes (bytes.take (writer.room bytes.length)) (writer.writeAll bytes).2 ∧
      (writer.writeAll bytes).1 =
        if writer.room bytes.length < bytes.length then .error writer.settings.refusal.toFault
        else .ok () := by
  fun_induction writeAll bytes writer with
  | case1 writer => simpa using Takes.refl writer
  | case2 bytes writer present after called inductionHypothesis =>
      have step := write_interrupted_takes called
      obtain ⟨takes, outcome⟩ := inductionHypothesis (step.chunk ▸ positive)
      have same : after.room bytes.length = writer.room bytes.length := by
        simpa using step.room bytes.length (Nat.zero_le _)
      rw [same] at takes outcome
      exact ⟨by simpa using step.trans takes, by rw [outcome, step.settings]⟩
  | case3 bytes writer present fault lasting after called =>
      obtain ⟨rfl, -, stuck, refusal⟩ := write_failed called
      have offered : 0 < bytes.length := List.length_pos_iff.mpr present
      exact ⟨by simpa [stuck] using Takes.refl after, by simp [stuck, offered, refusal, Refusal.toFault]⟩
  | case4 bytes writer present after called =>
      obtain ⟨rfl, stuck, refusal⟩ := write_took_zero positive present called
      have offered : 0 < bytes.length := List.length_pos_iff.mpr present
      exact ⟨by simpa [stuck] using Takes.refl after, by simp [stuck, offered, refusal, Refusal.toFault]⟩
  | case5 bytes writer present count after called inductionHypothesis =>
      obtain ⟨within, step⟩ := write_took_succ called
      obtain ⟨takes, outcome⟩ := inductionHypothesis (step.chunk ▸ positive)
      have bounded := room_le writer bytes.length
      have length : (bytes.take (count + 1)).length = count + 1 := by
        rw [List.length_take]
        omega
      have rest : after.room (bytes.drop (count + 1)).length =
          writer.room bytes.length - (count + 1) := by
        have used := step.room bytes.length (by omega)
        rw [length] at used
        rw [List.length_drop]
        exact used
      rw [rest] at takes outcome
      constructor
      · have both := step.trans takes
        rwa [← List.take_add, Nat.add_sub_cancel' within] at both
      · rw [outcome, step.settings, List.length_drop]
        have remaining : writer.room bytes.length - (count + 1) < bytes.length - (count + 1) ↔
            writer.room bytes.length < bytes.length := by omega
        simp only [remaining]

end LoopProgress.ByteWriter
