/-!
# Log records

What the program tells about its work, each record at a level.  A threshold lets through the
records that are at least as severe.
-/

namespace Sidecars

/-- How severe a record is, and how much is let through; nothing is recorded at `off`. -/
inductive LogLevel where
  /-- Nothing is let through. -/
  | off
  /-- Something failed. -/
  | error
  /-- Something is amiss. -/
  | warn
  /-- What is done. -/
  | info
  /-- Details of what is done. -/
  | debug
  /-- Every step. -/
  | trace
deriving DecidableEq, Repr

namespace LogLevel

/-- All levels, from the one that lets through least. -/
def all : List LogLevel := [.off, .error, .warn, .info, .debug, .trace]

/-- How much a level lets through. -/
def rank : LogLevel → Nat
  | .off => 0
  | .error => 1
  | .warn => 2
  | .info => 3
  | .debug => 4
  | .trace => 5

/-- The word for a level. -/
def word : LogLevel → String
  | .off => "OFF"
  | .error => "ERROR"
  | .warn => "WARN"
  | .info => "INFO"
  | .debug => "DEBUG"
  | .trace => "TRACE"

end LogLevel

/-- A record of a log. -/
structure LogRecord where
  /-- How severe it is. -/
  level : LogLevel
  /-- What it says. -/
  text : String
deriving DecidableEq, Repr

namespace LogRecord

/-- The line for a record. -/
def line (r : LogRecord) : String := s!"{r.level.word} - {r.text}"

/-- Whether a threshold lets a record through. -/
def passes (threshold : LogLevel) (r : LogRecord) : Bool := r.level.rank ≤ threshold.rank

end LogRecord
end Sidecars
