import LoopProgress.Program

namespace LoopProgress

/-- This function writes to standard output and finds out where it leads. Only a broken pipe means
that the reader has gone. Any other fault is shown as that of a full device. The exit code is right
for it, but the text may differ. -/
def writeOutput (bytes : List UInt8) : IO StandardOutput := do
  if bytes.isEmpty then
    return .pipe
  try
    let stream ← IO.getStdout
    stream.write bytes.toByteArray
    stream.flush
    return .pipe
  catch error =>
    match error with
    | .resourceVanished number _ =>
        return if number.toNat = SystemError.brokenPipe.number then .closed else .full
    | _ => return .full

/-- The program runs once to learn what it writes, and again with the output that it found. -/
def runCommand (arguments : List String) : IO UInt32 := do
  let filter ← IO.getEnv "RUST_LOG"
  let encoded := arguments.map Utf8.encode
  let output ← writeOutput (Program.run ⟨encoded, filter, .pipe⟩).output
  let outcome := Program.run ⟨encoded, filter, output⟩
  for notice in outcome.notices do
    for line in notice.lines do
      IO.eprintln line
  return outcome.exitCode.toUInt32

end LoopProgress

def main (arguments : List String) : IO UInt32 :=
  LoopProgress.runCommand arguments
