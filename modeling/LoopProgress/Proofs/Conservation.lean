import LoopProgress.Proofs.Bookkeeping
import LoopProgress.Proofs.Interchange
import Mathlib.Data.List.Basic

namespace LoopProgress

variable {store settings role : Type} [Store store settings UInt8] [Role role]

/-- A recorder shows its store as it is. -/
theorem Recorder.interchangeable {store settings item : Type} [Store store settings item] :
    InterchangeableStores fun (recorder : Recorder store) (inner : store) =>
      recorder.inner = inner where
  toInterchangeable := Recorder.interchangeable_inner
  configure _ _ _ same := same ▸ rfl
  emptied same := same ▸ rfl
  handOut? same := same ▸ rfl
  contents same := same ▸ rfl
  finishes? same := same ▸ rfl

/-- The books of a recorder balance if all that is gone and all that is held makes up the origin
and what the calls have added to it. -/
structure Recorder.Balances (limit? : store → Option Nat) (sound : store → Prop)
    (origin gone : List UInt8) (recorder : Recorder store) : Prop where
  sound : sound recorder.inner
  balance :
    gone ++ Store.contents recorder.inner = origin ++ recorder.calls.flatMap Call.added
  inOrder : ∀ call ∈ recorder.calls, call.InOrder limit?

namespace Recorder.Balances

variable {limit? : store → Option Nat} {sound : store → Prop} {origin gone : List UInt8}
  {recorder : Recorder store}

theorem putLine (books : KeepsBooks limit? sound) (line : String)
    (balances : recorder.Balances limit? sound origin gone) :
    (recorder.putLine line).2.Balances limit? sound origin gone := by
  obtain ⟨stays, inOrder⟩ := books.putLine line recorder.inner balances.sound
  refine ⟨stays, ?_, ?_⟩
  · simp only [Recorder.putLine, List.flatMap_append, List.flatMap_singleton]
    rw [inOrder.held, ← List.append_assoc, balances.balance, List.append_assoc]
  · simp only [Recorder.putLine, List.mem_append, List.mem_singleton]
    rintro call (earlier | rfl)
    · exact balances.inOrder call earlier
    · exact inOrder

theorem finish (books : KeepsBooks limit? sound)
    (balances : recorder.Balances limit? sound origin gone) :
    recorder.finish.2.Balances limit? sound origin gone := by
  obtain ⟨stays, contents⟩ := books.finish recorder.inner balances.sound
  refine ⟨stays, ?_, balances.inOrder⟩
  simp only [Recorder.finish, contents, balances.balance]

/-- Blocks and plans reach a store through its calls alone, so they keep the books. -/
theorem interchangeable (books : KeepsBooks limit? sound) (origin gone : List UInt8) :
    Interchangeable fun one other : Recorder store =>
      one = other ∧ one.Balances limit? sound origin gone :=
  interchangeable_of_kept (fun line _ balances => balances.putLine books line)
    (fun _ balances => balances.finish books)

end Recorder.Balances

namespace Session

/-- These items leave the store with one step. -/
def Step.drained {settings role item : Type} (step : Step settings role) (reply : Reply item) :
    List item :=
  match step, reply with
  | .drain, .taken (some contents) => contents
  | _, _ => []

/-- These items leave the store in the course of a session. -/
def drained {store settings item : Type} [Store store settings item] :
    List (Step settings role) → store → List item
  | [], _ => []
  | step :: rest, start =>
      let (reply, after) := (step.perform start : Reply item × store)
      step.drained reply ++ drained rest after

/-- A recorder in front of a store notes these calls in the course of a session. -/
def calls {store settings item : Type} [Store store settings item]
    (steps : List (Step settings role)) (start : store) : List (Call store) :=
  (run steps ({ inner := start } : Recorder store) : List (Entry item) × Recorder store).2.calls

theorem drained_agree {first second settings item : Type} [Store first settings item]
    [Store second settings item] [ActedRole role] {related : first → second → Prop}
    (stores : InterchangeableStores related) (steps : List (Step settings role)) {one : first}
    {other : second} (start : related one other) : drained steps one = drained steps other := by
  induction steps generalizing one other with
  | nil => rfl
  | cons step rest inductionHypothesis =>
      obtain ⟨reply, after⟩ := perform_agree stores step start
      simp only [drained, reply, inductionHypothesis after]

variable {limit? : store → Option Nat} {sound : store → Prop} {origin gone : List UInt8}

/-- Whatever a step does, the books balance after it. Only a drain moves bytes out of the store. -/
theorem balances_perform [ActedRole role] (books : KeepsBooks limit? sound)
    (step : Step settings role)
    {recorder : Recorder store} (balances : recorder.Balances limit? sound origin gone) :
    let (reply, after) := (step.perform recorder : Reply UInt8 × Recorder store)
    after.Balances limit? sound origin (gone ++ step.drained reply) := by
  have outlets := Recorder.Balances.interchangeable books origin gone
  have unmoved (after : Recorder store) (kept : after.Balances limit? sound origin gone) :
      after.Balances limit? sound origin (gone ++ []) := by
    rwa [List.append_nil]
  cases step with
  | putLine line => exact unmoved _ (balances.putLine books line)
  | finish => exact unmoved _ (balances.finish books)
  | block role =>
      obtain ⟨-, -, after⟩ := outlets.block role recorder recorder ⟨rfl, balances⟩
      exact unmoved _ after
  | run request =>
      obtain ⟨-, ⟨-, after⟩, -⟩ := outlets.plan request ⟨rfl, balances⟩
      exact unmoved _ after
  | configure settings =>
      obtain ⟨stays, contents⟩ := books.configure settings recorder.inner balances.sound
      have balance : gone ++ Store.contents (Store.configure settings recorder.inner) =
          origin ++ recorder.calls.flatMap Call.added := by
        rw [contents, balances.balance]
      exact unmoved _ ⟨stays, balance, balances.inOrder⟩
  | take => exact unmoved _ balances
  | drain =>
      obtain ⟨stays, nothing⟩ := books.emptied recorder.inner balances.sound
      have handed : Store.handOut? recorder = some (Store.contents recorder.inner) :=
        books.handOut? recorder.inner
      refine ⟨stays, ?_, balances.inOrder⟩
      change _ ++ Store.contents (Store.emptied recorder.inner) = _
      simp only [Step.drained, handed, nothing, List.append_nil]
      exact balances.balance

theorem balances_run [ActedRole role] (books : KeepsBooks limit? sound)
    (steps : List (Step settings role))
    {recorder : Recorder store} (balances : recorder.Balances limit? sound origin gone) :
    (run steps recorder : List (Entry UInt8) × Recorder store).2.Balances limit? sound origin
      (gone ++ drained steps recorder) := by
  induction steps generalizing recorder gone with
  | nil => rwa [drained, List.append_nil]
  | cons step rest inductionHypothesis =>
      have after := inductionHypothesis (balances_perform books step balances)
      rwa [List.append_assoc] at after

/-- A session conserves bytes if a recorder, which changes nothing, shows that all that has left
the store and all that it holds is what it held and what every call added.

So the newlines that were taken count the accepted lines, as long as no line brings one of its own,
and without a failure every line is there as a whole. -/
structure Conserves (limit? : store → Option Nat) (steps : List (Step settings role))
    (start : store) : Prop where
  shadowed :
    let recorded : List (Entry UInt8) × Recorder store :=
      run steps ({ inner := start } : Recorder store)
    (recorded.1, recorded.2.inner) = run steps start
  balance :
    drained steps start ++ Store.contents (run steps start : List (Entry UInt8) × store).2 =
      Store.contents start ++ (calls steps start).flatMap Call.added
  inOrder : ∀ call ∈ calls steps start, call.InOrder limit?
  newlines : (∀ call ∈ calls steps start, '\n' ∉ call.line.toList) →
    (drained steps start ++
        Store.contents (run steps start : List (Entry UInt8) × store).2).count 10 =
      (Store.contents start).count 10 +
        (calls steps start).countP fun call => call.outcome.isOk
  whole : (∀ call ∈ calls steps start, call.outcome = .ok ()) →
    drained steps start ++ Store.contents (run steps start : List (Entry UInt8) × store).2 =
      Store.contents start ++ ((calls steps start).map Call.line).flatMap lineBytes

/-- Calls in order add as many newlines as there are accepted ones. -/
theorem count_newline_calls (calls : List (Call store))
    (inOrder : ∀ call ∈ calls, call.InOrder limit?)
    (absent : ∀ call ∈ calls, '\n' ∉ call.line.toList) :
    (calls.flatMap Call.added).count 10 = calls.countP fun call => call.outcome.isOk := by
  induction calls with
  | nil => rfl
  | cons call rest inductionHypothesis =>
      have first := (inOrder call (.head _)).count_newline (absent call (.head _))
      have others := inductionHypothesis (fun other listed => inOrder other (.tail _ listed))
        (fun other listed => absent other (.tail _ listed))
      rw [List.flatMap_cons, List.count_append, first, others, List.countP_cons, Nat.add_comm]

theorem flatMap_added_of_accepted (calls : List (Call store))
    (inOrder : ∀ call ∈ calls, call.InOrder limit?)
    (accepted : ∀ call ∈ calls, call.outcome = .ok ()) :
    calls.flatMap Call.added = (calls.map Call.line).flatMap lineBytes := by
  rw [List.flatMap_map]
  apply List.flatMap_congr
  intro call listed
  exact (inOrder call listed).accepted (accepted call listed)

theorem conserves_of_keepsBooks [ActedRole role] (books : KeepsBooks limit? sound)
    (steps : List (Step settings role)) (start : store) (good : sound start) : Conserves limit? steps start := by
  let recorder : Recorder store := { inner := start }
  have same : recorder.inner = start := rfl
  obtain ⟨entries, inner⟩ := run_agree Recorder.interchangeable steps same
  have opened : recorder.Balances limit? sound (Store.contents start) [] :=
    ⟨good, (List.append_nil _).symm, nofun⟩
  have closed := balances_run books steps opened
  have inOrder : ∀ call ∈ calls steps start, call.InOrder limit? := closed.inOrder
  have balance : drained steps start ++
        Store.contents (run steps start : List (Entry UInt8) × store).2 =
      Store.contents start ++ (calls steps start).flatMap Call.added := by
    rw [← inner, ← drained_agree Recorder.interchangeable steps same]
    exact closed.balance
  refine ⟨?_, balance, inOrder, ?_, ?_⟩
  · exact Prod.ext entries inner
  · intro absent
    rw [balance, List.count_append, count_newline_calls _ inOrder absent]
  · intro accepted
    rw [balance, flatMap_added_of_accepted _ inOrder accepted]

/-- No byte is lost, repeated or moved in a session, whatever fails in it and whichever actors take
part. -/
theorem session_conserves_bytes [ActedRole role] :
    (∀ (steps : List (Step Unit role)) (buffer : ByteBuffer),
      Conserves (fun _ => none) steps buffer) ∧
    ∀ (steps : List (Step WriterSettings role)) (writer : ByteWriter), writer.chunk ≠ some 0 →
      Conserves (fun writer => writer.settings.limit) steps writer :=
  ⟨fun steps buffer => conserves_of_keepsBooks ByteBuffer.keepsBooks steps buffer trivial,
    fun steps writer positive =>
      conserves_of_keepsBooks ByteWriter.keepsBooks steps writer positive⟩

/-- In one session a line is cut off behind a character, and another meets a limit that lies below
what is held. In the other one an actor goes on after a refused line. -/
theorem session_conserves_bytes_past_limits :
    let writer : ByteWriter :=
      { held := [9], chunk := some 1, interruptions := [2, 2], settings := { limit := some 6 } }
    let steps : List (Step WriterSettings) :=
      [.putLine "ab", .putLine "é", .configure { limit := some 2 }, .putLine "c", .configure {},
        .drain, .putLine "d"]
    let acted : List (Step WriterSettings Actor) :=
      [.block .restless, .run (.blocks [.restless, .restless])]
    writer.chunk ≠ some 0 ∧ Conserves (fun writer => writer.settings.limit) steps writer ∧
      drained steps writer = [9, 97, 98, 10, 195, 169] ∧
      (calls steps writer).map Call.added = [[97, 98, 10], [195, 169], [], [100, 10]] ∧
      Conserves (fun writer => writer.settings.limit) acted writer ∧
      (calls acted writer).map Call.added = [[97, 98, 10], [99, 10], [], []] := by
  intro writer steps acted
  have positive : writer.chunk ≠ some 0 := by decide
  exact ⟨positive, session_conserves_bytes.2 steps writer positive, by decide +kernel,
    by decide +kernel, session_conserves_bytes.2 acted writer positive, by decide +kernel⟩

end Session

end LoopProgress
