/-!
# Log records

Whatever happens on the way to an answer is recorded, and a record says how important
it is, which part of the program it comes from and what happened. Nothing in the
library prints: functions return their records, and the outer layer decides with a
`LogFilter` which of them to show.
-/

namespace Signpost

/-- How important a record is, the most important level first. -/
inductive Level where
  /-- Something failed. -/
  | error
  /-- Something was left out. -/
  | warn
  /-- Something happened that a user may want to know. -/
  | info
  /-- A detail. -/
  | debug
  /-- The finest detail. -/
  | trace
deriving DecidableEq, Repr

namespace Level

/-- The rank of a level: the more important, the smaller. -/
def rank : Level → Nat
  | error => 1
  | warn => 2
  | info => 3
  | debug => 4
  | trace => 5

/-- The name of a level. -/
def name : Level → String
  | error => "ERROR"
  | warn => "WARN"
  | info => "INFO"
  | debug => "DEBUG"
  | trace => "TRACE"

end Level

/-- A log record. -/
structure Record where
  /-- How important it is. -/
  level : Level
  /-- The part of the program it comes from. -/
  origin : String
  /-- What happened. -/
  message : String
deriving DecidableEq, Repr

end Signpost
