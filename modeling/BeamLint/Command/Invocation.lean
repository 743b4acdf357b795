import BeamLint.Command.Arguments
import BeamLint.Config

/-!
# Invocations

What the command line asks for: a check of files, the list of rules, or the service.
-/

namespace BeamLint.Command

/-- The options of a check, as given. -/
structure CheckArguments where
  strict : Option Bool := none
  stateWords : List String := []
  themePattern : Option String := none
  format : String := "text"
  workers : Option String := none
  verbose : Bool := false

/-- The ways to write the options of a check. -/
def checkOptions : List (OptionSpec CheckArguments) :=
  [⟨["--strict".toList], [], .flag fun s => { s with strict := some true }⟩,
   ⟨["--no-strict".toList], [], .flag fun s => { s with strict := some false }⟩,
   ⟨["--state-word".toList], ['s'], .value fun v s => { s with stateWords := s.stateWords ++ [v] }⟩,
   ⟨["--theme-pattern".toList], ['t'], .value fun v s => { s with themePattern := some v }⟩,
   ⟨["--format".toList], ['f'], .value fun v s => { s with format := v }⟩,
   ⟨["--workers".toList], ['w'], .value fun v s => { s with workers := some v }⟩,
   ⟨["--verbose".toList], ['v'], .flag fun s => { s with verbose := true }⟩]

/-- The options of the service, as given. -/
structure ServeArguments where
  host : Option String := none
  port : Option String := none

/-- The ways to write the options of the service. -/
def serveOptions : List (OptionSpec ServeArguments) :=
  [⟨["--host".toList], [], .value fun v s => { s with host := some v }⟩,
   ⟨["--port".toList], [], .value fun v s => { s with port := some v }⟩]

/-- A check that was asked for. -/
structure CheckCommand where
  paths : List String
  overrides : Overrides
  format : String
  verbose : Bool

/-- What was asked for. -/
inductive Invocation where
  | check (c : CheckCommand)
  | rules
  | serve (host : Option String) (port : Option Int)

namespace Invocation

/-- Reads the arguments of a check; there has to be a path. -/
def readCheck (args : List String) : Option Invocation := do
  let (paths, s) ← readArguments checkOptions args ({} : CheckArguments)
  let maxWorkers ← readInteger? s.workers
  guard !paths.isEmpty
  let stateWords := if s.stateWords.isEmpty then none else some s.stateWords
  let overrides := { strict := s.strict, stateWords, themePattern := s.themePattern, maxWorkers }
  return .check { paths, overrides, format := s.format, verbose := s.verbose }

/-- Reads the arguments of the list of rules; there are none. -/
def readRules (args : List String) : Option Invocation := do
  let (others, _) ← readArguments ([] : List (OptionSpec Unit)) args ()
  guard others.isEmpty
  return .rules

/-- Reads the arguments of the service. -/
def readServe (args : List String) : Option Invocation := do
  let (others, s) ← readArguments serveOptions args ({} : ServeArguments)
  let port ← readInteger? s.port
  guard others.isEmpty
  return .serve s.host port

/-- Reads a command line; nothing is returned for one that cannot be read. -/
def ofArguments? (args : List String) : Option Invocation :=
  let args := if args.head? = some "--" then args.tail else args
  match args with
  | "check" :: rest => readCheck rest
  | "rules" :: rest => readRules rest
  | "serve" :: rest => readServe rest
  | _ => none

end Invocation

end BeamLint.Command
