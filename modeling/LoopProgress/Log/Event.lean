import LoopProgress.Log.Level

namespace LoopProgress

/-- A log event names the part of the program it comes from. -/
structure LogEvent where
  target : String
  level : Level
  message : String
deriving DecidableEq

/-- A log line shows the level and the message. -/
def LogEvent.line (event : LogEvent) : String :=
  event.level.name ++ " " ++ event.message

end LoopProgress
