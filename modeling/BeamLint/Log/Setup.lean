import BeamLint.Log.Sink
import BeamLint.Text.Case

/-!
# Setting up the log

Setting the log up removes the sink of the last set-up, or all sinks if there was none, and installs
a new one; asking for the level that is already set does nothing, unless it is forced. The number of
the last sink is remembered whether or not the sink is still there: a level that does not exist is
refused after the old sink is gone, and then there is nothing left that the next set-up could
remove.
-/

namespace BeamLint

/-- A log with its sinks: the level that was set up last and the number of its sink, if the log was
set up at all. -/
structure LogState (σ : Type) where
  sinks : σ
  level : Option String := none
  last : Option Nat := none
  deriving Repr, DecidableEq

namespace LogState

variable {σ : Type} [SinkStore σ]

/-- Removes the sink of the last set-up, or all sinks if there was none. -/
def release (s : LogState σ) : σ × Except LogError Unit :=
  match s.last with
  | some number => SinkStore.remove s.sinks number
  | none => (SinkStore.removeAll s.sinks, .ok ())

/-- Sets the log up at the level with the given name, in whatever case. What is refused leaves the
level and the number as they are. -/
def configure (s : LogState σ) (levelName : String) (force : Bool) :
    LogState σ × Except LogError Unit :=
  let name := Text.upperString levelName
  if !force && s.level = some name then (s, .ok ())
  else
    match s.release with
    | (sinks, .error e) => ({ s with sinks }, .error e)
    | (sinks, .ok ()) =>
      match SinkStore.add sinks name with
      | (sinks, .error e) => ({ s with sinks }, .error e)
      | (sinks, .ok number) => (⟨sinks, some name, some number⟩, .ok ())

/-- The log as it is when something is to be written: set up, if only at the usual level. -/
def ready (s : LogState σ) : LogState σ :=
  if s.level.isNone then (s.configure "INFO" false).1 else s

/-- The lines that an event leaves in the log. -/
def write (s : LogState σ) (e : LogEvent) : List String := SinkStore.write s.ready.sinks e

/-- The lines that an event leaves in the log, given the exact name of its level; without a sink the
name is not looked at. -/
def log (s : LogState σ) (levelName origin message : String) : Except LogError (List String) :=
  if (SinkStore.installed s.ready.sinks).isEmpty then .ok []
  else
    match LogLevel.ofName? levelName with
    | some level => .ok (s.write ⟨level, origin, message⟩)
    | none => .error (.unknownLevel levelName)

/-- The log with the given sinks, set up for errors. -/
def quiet (sinks : σ) : LogState σ := (configure { sinks } "ERROR" false).1

end LogState

/-- The log of a run. -/
abbrev LogSetup := LogState SinkTable

/-- The log before anything is asked for. -/
def LogSetup.initial : LogSetup := .quiet .default

end BeamLint
