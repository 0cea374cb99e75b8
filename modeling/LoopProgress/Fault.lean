namespace LoopProgress

/-- The kind of a fault says why the output was not taken. -/
inductive FaultKind where
  | notFound
  | permissionDenied
  | connectionRefused
  | connectionReset
  | connectionAborted
  | notConnected
  | addressInUse
  | addressNotAvailable
  | brokenPipe
  | alreadyExists
  | wouldBlock
  | invalidInput
  | invalidData
  | timedOut
  | writeZero
  | interrupted
  | unsupported
  | unexpectedEnd
  | outOfMemory
  | storageFull
  | other
deriving DecidableEq

/-- A fault without a text of its own is shown as its kind. -/
def FaultKind.text : FaultKind → String
  | .notFound => "entity not found"
  | .permissionDenied => "permission denied"
  | .connectionRefused => "connection refused"
  | .connectionReset => "connection reset"
  | .connectionAborted => "connection aborted"
  | .notConnected => "not connected"
  | .addressInUse => "address in use"
  | .addressNotAvailable => "address not available"
  | .brokenPipe => "broken pipe"
  | .alreadyExists => "entity already exists"
  | .wouldBlock => "operation would block"
  | .invalidInput => "invalid input parameter"
  | .invalidData => "invalid data"
  | .timedOut => "timed out"
  | .writeZero => "write zero"
  | .interrupted => "operation interrupted"
  | .unsupported => "unsupported"
  | .unexpectedEnd => "unexpected end of file"
  | .outOfMemory => "out of memory"
  | .storageFull => "no storage space"
  | .other => "other error"

/-- The operating system refuses output for one of these reasons. -/
inductive SystemError where
  | operationNotPermitted
  | noSuchFile
  | interruptedCall
  | resourceUnavailable
  | cannotAllocate
  | permissionDenied
  | invalidArgument
  | noSpace
  | brokenPipe
deriving DecidableEq

namespace SystemError

/-- The operating system knows each reason by its number. -/
def number : SystemError → Nat
  | .operationNotPermitted => 1
  | .noSuchFile => 2
  | .interruptedCall => 4
  | .resourceUnavailable => 11
  | .cannotAllocate => 12
  | .permissionDenied => 13
  | .invalidArgument => 22
  | .noSpace => 28
  | .brokenPipe => 32

/-- This list holds every reason in the order of the numbers. -/
def all : List SystemError :=
  [.operationNotPermitted, .noSuchFile, .interruptedCall, .resourceUnavailable,
    .cannotAllocate, .permissionDenied, .invalidArgument, .noSpace, .brokenPipe]

/-- This lookup reads a number back. -/
def ofNumber? (number : Nat) : Option SystemError :=
  all.find? fun error => error.number == number

theorem ofNumber?_number (error : SystemError) : ofNumber? error.number = some error := by
  cases error <;> rfl

def kind : SystemError → FaultKind
  | .operationNotPermitted => .permissionDenied
  | .noSuchFile => .notFound
  | .interruptedCall => .interrupted
  | .resourceUnavailable => .wouldBlock
  | .cannotAllocate => .outOfMemory
  | .permissionDenied => .permissionDenied
  | .invalidArgument => .invalidInput
  | .noSpace => .storageFull
  | .brokenPipe => .brokenPipe

/-- The operating system describes each reason with this phrase. -/
def phrase : SystemError → String
  | .operationNotPermitted => "Operation not permitted"
  | .noSuchFile => "No such file or directory"
  | .interruptedCall => "Interrupted system call"
  | .resourceUnavailable => "Resource temporarily unavailable"
  | .cannotAllocate => "Cannot allocate memory"
  | .permissionDenied => "Permission denied"
  | .invalidArgument => "Invalid argument"
  | .noSpace => "No space left on device"
  | .brokenPipe => "Broken pipe"

def text (error : SystemError) : String :=
  error.phrase ++ " (os error " ++ toString error.number ++ ")"

end SystemError

/-- A fault is a bare kind, a kind with a text of its own, or a refusal by the system. -/
inductive Fault where
  | bare (kind : FaultKind)
  | described (kind : FaultKind) (text : String)
  | system (error : SystemError)
deriving DecidableEq

namespace Fault

def kind : Fault → FaultKind
  | .bare kind => kind
  | .described kind _ => kind
  | .system error => error.kind

def text : Fault → String
  | .bare kind => kind.text
  | .described _ text => text
  | .system error => error.text

/-- This fault arises when the reader of the output has gone. -/
def readerClosed : Fault := .described .brokenPipe "reader closed"

/-- This fault arises when a writer takes none of the bytes it is offered. -/
def nothingTaken : Fault := .described .writeZero "failed to write whole buffer"

end Fault

end LoopProgress
