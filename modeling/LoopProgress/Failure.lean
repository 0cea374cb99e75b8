import LoopProgress.Fault

namespace LoopProgress

/-- A run fails while it writes, or because its options do not fit together. -/
inductive Failure where
  | output (fault : Fault)
  | configuration (message : String)
deriving DecidableEq

namespace Failure

/-- The log shows a failure with this text. -/
def message : Failure → String
  | .output fault => "Output error: " ++ fault.text
  | .configuration message => "Configuration error: " ++ message

/-- The user is told of a failure with this text. -/
def userMessage : Failure → String
  | .output fault => "Could not write to standard output: " ++ fault.text
  | .configuration message => "Invalid options: " ++ message

/-- A reader that has gone is told apart from every other failure. -/
def isBrokenPipe : Failure → Bool
  | .output fault => fault.kind == .brokenPipe
  | .configuration _ => false

/-- A reader that has gone does not make the program fail. -/
def exitCode (failure : Failure) : Nat :=
  if failure.isBrokenPipe then 0
  else
    match failure with
    | .output _ => 1
    | .configuration _ => 2

theorem exitCode_eq_zero_iff (failure : Failure) :
    failure.exitCode = 0 ↔ failure.isBrokenPipe = true := by
  cases failure <;> simp [exitCode]

theorem exitCode_eq_one_iff (failure : Failure) :
    failure.exitCode = 1 ↔ ∃ fault, failure = .output fault ∧ fault.kind ≠ .brokenPipe := by
  cases failure <;> simp [exitCode, isBrokenPipe]

theorem exitCode_configuration (message : String) : (configuration message).exitCode = 2 := rfl

end Failure

end LoopProgress
