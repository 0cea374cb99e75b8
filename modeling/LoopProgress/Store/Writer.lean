import LoopProgress.Store.Buffer

namespace LoopProgress

/-- A writer without room fails, or says that it has taken nothing. It does not fail with an
interruption, since an interrupted call is made again. -/
inductive Refusal where
  | fails (fault : Fault) (lasting : fault.kind ≠ .interrupted := by decide)
  | takesNothing
deriving DecidableEq

/-- The caller of a writer sees a refusal as this fault. -/
def Refusal.toFault : Refusal → Fault
  | .fails fault _ => fault
  | .takesNothing => .nothingTaken

/-- These settings say how many bytes a writer holds at most, how it refuses more, and how it
fails to flush. -/
structure WriterSettings where
  limit : Option Nat := none
  refusal : Refusal := .fails .readerClosed
  flushFault : Option Fault := none
deriving DecidableEq

namespace WriterSettings

/-- Everything on offer fits without a limit. Otherwise the limit leaves room for so many bytes. -/
def room (settings : WriterSettings) (held offered : Nat) : Nat :=
  match settings.limit with
  | none => offered
  | some limit => min offered (limit - held)

/-- A flush fails as the settings say, or is counted. -/
def flush (settings : WriterSettings) (flushes : Nat) : Except Failure Unit × Nat :=
  match settings.flushFault with
  | some fault => (.error (.output fault), flushes)
  | none => (.ok (), flushes + 1)

end WriterSettings

/-- A byte writer takes a bounded number of bytes a call. An interruption at an offset makes one
call there take nothing. -/
structure ByteWriter where
  held : List UInt8 := []
  chunk : Option Nat := none
  interruptions : List Nat := []
  settings : WriterSettings := {}
  flushes : Nat := 0

namespace ByteWriter

/-- The room of a writer bounds the bytes it still holds out of those on offer. -/
def room (writer : ByteWriter) (offered : Nat) : Nat :=
  writer.settings.room writer.held.length offered

/-- One call takes no more than a chunk of the bytes that fit. -/
def portion (writer : ByteWriter) (offered : Nat) : Nat :=
  match writer.chunk with
  | none => writer.room offered
  | some chunk => min chunk (writer.room offered)

/-- A single call is interrupted, fails for another reason, or takes some of the bytes. -/
inductive Reply where
  | interrupted
  | failed (fault : Fault) (lasting : fault.kind ≠ .interrupted)
  | took (count : Nat)

/-- This call offers some bytes once. No bytes at all are always taken. -/
def write (bytes : List UInt8) (writer : ByteWriter) : Reply × ByteWriter :=
  if writer.held.length ∈ writer.interruptions then
    (.interrupted,
      { writer with interruptions := writer.interruptions.erase writer.held.length })
  else if bytes ≠ [] ∧ writer.room bytes.length = 0 then
    match writer.settings.refusal with
    | .fails fault lasting => (.failed fault lasting, writer)
    | .takesNothing => (.took 0, writer)
  else
    let count := writer.portion bytes.length
    (.took count, { writer with held := writer.held ++ bytes.take count })

theorem write_interrupted {bytes : List UInt8} {writer after : ByteWriter}
    (called : writer.write bytes = (.interrupted, after)) :
    after.interruptions.length < writer.interruptions.length := by
  unfold write at called
  split at called
  · rename_i present
    cases called
    have positive := List.length_pos_of_mem present
    simp only [List.length_erase_of_mem present]
    omega
  · split at called
    · split at called <;> cases called
    · cases called

theorem write_took {bytes : List UInt8} {writer after : ByteWriter} {count : Nat}
    (called : writer.write bytes = (.took count, after)) :
    after.interruptions = writer.interruptions := by
  unfold write at called
  split at called
  · cases called
  · split at called
    · split at called <;> cases called
      rfl
    · cases called
      rfl

/-- Calls go on until every byte is taken. An interrupted call is made again, and a call that takes
nothing is a fault. -/
def writeAll (bytes : List UInt8) (writer : ByteWriter) : Except Fault Unit × ByteWriter :=
  if bytes = [] then (.ok (), writer)
  else
    match called : writer.write bytes with
    | (.interrupted, after) => writeAll bytes after
    | (.failed fault _, after) => (.error fault, after)
    | (.took 0, after) => (.error .nothingTaken, after)
    | (.took (count + 1), after) => writeAll (bytes.drop (count + 1)) after
termination_by bytes.length + writer.interruptions.length
decreasing_by
  · have fewer := write_interrupted called
    omega
  · have same := write_took called
    have positive : 0 < bytes.length := List.length_pos_iff.mpr ‹_›
    rw [same, List.length_drop]
    omega

/-- The text of a line is written first, and then its newline. -/
def putLine (line : String) (writer : ByteWriter) : Except Failure Unit × ByteWriter :=
  match writer.writeAll (Utf8.encode line) with
  | (.error fault, after) => (.error (.output fault), after)
  | (.ok _, after) =>
      let (outcome, ended) := after.writeAll [10]
      (outcome.mapError .output, ended)

def flush (writer : ByteWriter) : Except Failure Unit × ByteWriter :=
  let (outcome, flushes) := writer.settings.flush writer.flushes
  (outcome, { writer with flushes })

instance : Store ByteWriter WriterSettings UInt8 where
  putLine line := .ofEffect (ByteWriter.putLine line)
  finish := .ofEffect ByteWriter.flush
  contents := held
  configure settings writer := { writer with settings }
  handOut? writer := some writer.held
  emptied writer := { writer with held := [] }
  finishes? writer := some writer.flushes

end ByteWriter

end LoopProgress
