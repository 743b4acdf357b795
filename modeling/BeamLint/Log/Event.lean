import BeamLint.Text.Search

/-!
# Log events

What a run tells about itself. An event has a level, the part of the program that it comes from and
a message; it is written as one record, which takes several lines when the message does.
-/

namespace BeamLint

/-- How important an event is, the least important first. -/
inductive LogLevel where
  | trace
  | debug
  | info
  | success
  | warning
  | error
  | critical
  deriving Repr, DecidableEq

namespace LogLevel

/-- All levels, the least important first. -/
def all : List LogLevel := [.trace, .debug, .info, .success, .warning, .error, .critical]

/-- The name of a level. -/
def name : LogLevel → String
  | .trace => "TRACE"
  | .debug => "DEBUG"
  | .info => "INFO"
  | .success => "SUCCESS"
  | .warning => "WARNING"
  | .error => "ERROR"
  | .critical => "CRITICAL"

/-- The weight of a level. -/
def weight : LogLevel → Nat
  | .trace => 5
  | .debug => 10
  | .info => 20
  | .success => 25
  | .warning => 30
  | .error => 40
  | .critical => 50

/-- The level with exactly the given name. -/
def ofName? (name : String) : Option LogLevel := all.find? fun l => l.name = name

end LogLevel

/-- Something that happened. -/
structure LogEvent where
  level : LogLevel
  origin : String
  message : String
  deriving Repr, DecidableEq

namespace LogEvent

/-- The level's name, padded to eight characters. -/
def paddedLevel (e : LogEvent) : String :=
  e.level.name ++ String.ofList (List.replicate (8 - e.level.name.length) ' ')

/-- The lines of the record, without the time. -/
def lines (e : LogEvent) : List String :=
  Text.splitString '\n' (e.paddedLevel ++ " | " ++ e.origin ++ " - " ++ e.message)

/-- Whether the event is at or above a level. -/
def reaches (e : LogEvent) (threshold : LogLevel) : Bool := threshold.weight ≤ e.level.weight

end LogEvent

/-- The lines of the events that are at or above a level. -/
def logLines (threshold : LogLevel) (events : List LogEvent) : List String :=
  (events.filter (·.reaches threshold)).flatMap LogEvent.lines

end BeamLint
