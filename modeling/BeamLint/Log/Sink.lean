import BeamLint.Log.Event

/-!
# Sinks

A log writes to sinks. A sink is installed for a level, is told from others by its number, and
writes every event that is at or above its level.

The set-up of a log needs no more of its sinks than `SinkStore` tells, and relies on nothing but
what `LawfulSinkStore` tells. `SinkTable` keeps them in a list.
-/

namespace BeamLint

/-- Why the log does not do what it is asked for. -/
inductive LogError where
  | unknownLevel (name : String)
  | noSink (number : Nat)
  deriving Repr, DecidableEq

/-- A sink that is installed. -/
structure Sink where
  number : Nat
  level : LogLevel
  deriving Repr, DecidableEq

/-- What keeps the sinks of a log. -/
class SinkStore (σ : Type) where
  /-- The sinks that are installed. -/
  installed : σ → List Sink
  /-- Installs a sink for the level with exactly the given name, and tells its number. -/
  add : σ → (levelName : String) → σ × Except LogError Nat
  /-- Removes the sink with the given number. -/
  remove : σ → (number : Nat) → σ × Except LogError Unit
  /-- Removes all sinks. -/
  removeAll : σ → σ
  /-- The lines that an event leaves in the log. -/
  write : σ → LogEvent → List String

open SinkStore in
/-- A sink is installed if there is such a level, and removed if it is there; otherwise the call is
refused and the sinks stay. Every sink whose level an event reaches writes it once. -/
class LawfulSinkStore (σ : Type) [SinkStore σ] : Prop where
  add_known (s : σ) {name : String} {level : LogLevel} (h : LogLevel.ofName? name = some level) :
    ∃ number, (add s name).2 = .ok number ∧
      installed (add s name).1 = installed s ++ [⟨number, level⟩]
  add_unknown (s : σ) {name : String} (h : LogLevel.ofName? name = none) :
    (add s name).2 = .error (.unknownLevel name) ∧ installed (add s name).1 = installed s
  remove_installed (s : σ) (number : Nat) (h : ∃ sink ∈ installed s, sink.number = number) :
    (remove s number).2 = .ok () ∧
      installed (remove s number).1 = (installed s).filter fun sink => sink.number ≠ number
  remove_missing (s : σ) (number : Nat) (h : ∀ sink ∈ installed s, sink.number ≠ number) :
    (remove s number).2 = .error (.noSink number) ∧ installed (remove s number).1 = installed s
  installed_removeAll (s : σ) : installed (removeAll s) = []
  write_eq (s : σ) (e : LogEvent) :
    write s e = (installed s).flatMap fun sink => logLines sink.level [e]

/-- The sinks in the order in which they were installed, and the number that the next one gets. No
number is given twice. -/
structure SinkTable where
  sinks : List Sink := []
  next : Nat := 0
  deriving Repr, DecidableEq

namespace SinkTable

/-- A number is used up even if no sink is installed. -/
def add (t : SinkTable) (levelName : String) : SinkTable × Except LogError Nat :=
  match LogLevel.ofName? levelName with
  | some level => (⟨t.sinks ++ [⟨t.next, level⟩], t.next + 1⟩, .ok t.next)
  | none => (⟨t.sinks, t.next + 1⟩, .error (.unknownLevel levelName))

def remove (t : SinkTable) (number : Nat) : SinkTable × Except LogError Unit :=
  if t.sinks.any fun sink => sink.number = number then
    ({ t with sinks := t.sinks.filter fun sink => sink.number ≠ number }, .ok ())
  else (t, .error (.noSink number))

instance : SinkStore SinkTable where
  installed := sinks
  add := add
  remove := remove
  removeAll t := { t with sinks := [] }
  write t e := t.sinks.flatMap fun sink => logLines sink.level [e]

/-- The sink that is there before anything is set up. -/
def default : SinkTable := ⟨[⟨0, .debug⟩], 1⟩

end SinkTable

end BeamLint
