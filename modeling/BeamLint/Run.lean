import BeamLint.Log.Event
import BeamLint.Report.Basic
import BeamLint.Source.Facts
import BeamLint.Variable.TierRules

/-!
# Runs

A run checks a list of sources. First every source is checked by itself; then the declarations and
uses of all readable sources are put into one graph, and the graph is checked.

A run may be cancelled. It asks whether it is: once at the beginning, before it takes the facts of
each source, once after the last of them, and before and after the check of the graph; without
sources it asks only once in the first phase. A run that is cancelled reports nothing.
-/

namespace BeamLint

/-- Answers the question whether a run is cancelled, for the first, second, … time it is asked. -/
abbrev Cancellation := Nat → Bool

/-- A run that is never cancelled. -/
def Cancellation.never : Cancellation := fun _ => false

/-- Cancelled from the question on that comes after the first `n`. -/
def Cancellation.after (n : Nat) : Cancellation := fun i => n ≤ i

/-- A run: its report, how often it asked whether it is cancelled, and what it told. -/
structure Run where
  report : Report
  polls : Nat
  events : List LogEvent
  deriving Repr, DecidableEq

namespace Run

/-- An event of a run. -/
def event (level : LogLevel) (message : String) : LogEvent :=
  ⟨level, "beam_checker.main_checker", message⟩

/-- What is told about one source. -/
def sourceEvent (f : Facts) : LogEvent :=
  let selectors := f.found.occurrences.length
  let lists := f.found.classLists.length
  let declarations := f.found.declarations.length
  event .debug <|
    if f.kind = .unknown then s!"Skipping {f.path}: not a stylesheet or markup file"
    else if f.excluded then s!"Excluded {f.path} from the variable graph"
    else s!"{f.path}: {selectors} selectors, {lists} class lists, {declarations} declarations"

/-- The graph of the readable sources among the given ones, in their order. -/
def graphOf (facts : List Facts) : Graph :=
  let readable := facts.filter fun f => !f.excluded
  ⟨readable.flatMap (·.found.declarations), readable.flatMap (·.found.usages)⟩

/-- The first phase up to the end or to the question that is answered with yes. -/
structure PhaseOne where
  /-- The facts that were taken, in the order of the sources. -/
  facts : List Facts
  /-- How often it was asked. -/
  polls : Nat
  /-- Whether the last question was answered with yes. -/
  stopped : Bool
  deriving Repr, DecidableEq

/-- Takes the facts of the sources, asking before each and after the last; `polls` questions have
been asked before. -/
def takeFacts (c : Config) (cancelled : Cancellation) : (polls : Nat) → List Source → PhaseOne
  | polls, [] => ⟨[], polls + 1, cancelled polls⟩
  | polls, s :: sources =>
    if cancelled polls then ⟨[], polls + 1, true⟩
    else
      let rest := takeFacts c cancelled (polls + 1) sources
      { rest with facts := Facts.check c s :: rest.facts }

/-- The first phase: without sources only the first question is asked. -/
def phaseOne (c : Config) (cancelled : Cancellation) (sources : List Source) : PhaseOne :=
  if cancelled 0 then ⟨[], 1, true⟩
  else if sources.isEmpty then ⟨[], 1, false⟩
  else takeFacts c cancelled 1 sources

/-- The report on the facts of all sources. -/
def reportOf (c : Config) (facts : List Facts) : Report :=
  .aggregate (facts.flatMap (·.found.diagnostics) ++ (graphOf facts).check c)

/-- Checks the sources. -/
def check (c : Config) (sources : List Source) (cancelled : Cancellation) : Run :=
  let count := sources.length
  let first := phaseOne c cancelled sources
  let told := event .info s!"Checking {count} file(s)" :: first.facts.map sourceEvent
  if first.stopped then
    ⟨.cancelled, first.polls, told ++ [event .warning "Run cancelled during phase 1"]⟩
  else
    let tokens := (graphOf first.facts).declared.length
    let told := told ++ [event .info s!"Phase 1 complete; variable graph has {tokens} token(s)"]
    if cancelled first.polls then
      ⟨.cancelled, first.polls + 1, told ++ [event .warning "Run cancelled before phase 2"]⟩
    else if cancelled (first.polls + 1) then
      ⟨.cancelled, first.polls + 2, told ++ [event .warning "Run cancelled during phase 2"]⟩
    else
      let report := reportOf c first.facts
      let status := report.status.name
      let found := report.diagnostics.length
      ⟨report, first.polls + 2, told ++ [event .info s!"Finished: {status} ({found} diagnostics)"]⟩

end Run

/-- The report on the sources, from a run that is not cancelled, under settings that can be used. -/
def checkSources (c : Config) (sources : List Source) : Except ConfigError Report := do
  return (Run.check (← c.validate) sources .never).report

end BeamLint
