import BeamLint.Command.FileTree
import BeamLint.Command.Invocation
import BeamLint.Console.Escape
import BeamLint.Console.Page
import BeamLint.Console.Table
import BeamLint.Environment
import BeamLint.Log.Setup
import BeamLint.Report.Json
import BeamLint.Report.Markdown
import BeamLint.Report.Text
import BeamLint.Run

/-!
# Commands

What a command writes and with which code it ends. The log is set up first; then the format of the
report and the settings are looked at, in this order.
-/

namespace BeamLint.Command

/-- Where the service would listen. -/
structure Endpoint where
  target : String
  host : String
  port : Int
  deriving Repr, DecidableEq

/-- The end of a command: its code, what it wrote, and the service it starts. -/
structure Outcome where
  exitCode : Nat
  output : String := ""
  endpoint : Option Endpoint := none
  deriving Repr, DecidableEq

/-- Why a command comes to no end of its own. -/
inductive Failure where
  /-- The log cannot be set up. -/
  | log (e : LogError)
  /-- A path holds the character that ends texts for the system. -/
  | path
  /-- A message cannot be shown, because of marks in it. -/
  | console (e : Console.MarkError)
  deriving Repr, DecidableEq

/-- The end of a command that shows a marked message and refuses to go on. -/
def Outcome.refusal (message : String) : Except Failure Outcome :=
  match Console.render message with
  | .ok output => .ok { exitCode := 2, output }
  | .error e => .error (.console e)

/-- The end of a command line that cannot be read. -/
def Outcome.usageError : Outcome := { exitCode := 2 }

/-- The formats of a report. -/
def formats : List String := ["text", "json", "markdown"]

/-- A report in one of the formats. -/
def renderReport (format : String) (r : Report) : String :=
  if format = "json" then r.renderJson
  else if format = "markdown" then r.renderMarkdown none
  else r.renderText

/-- Runs a check on what was found at its paths. -/
def CheckCommand.run (c : CheckCommand) (e : Environment) (nodes : List (String × Node)) :
    Except Failure Outcome :=
  let level := if c.verbose then "DEBUG" else e.logLevelName
  match LogSetup.initial.configure level false with
  | (_, .error error) => .error (.log error)
  | (_, .ok ()) =>
    if c.format ∉ formats then
      let choices := ", ".intercalate formats
      Outcome.refusal s!"[red]Invalid format '{c.format}'.[/red] Choose from: {choices}"
    else
      let settings := e.config.bind fun settings => settings.withOverrides c.overrides
      match settings with
      | .error error =>
        let message := error.message
        Outcome.refusal s!"[red]{message}[/red]"
      | .ok settings =>
        let report := (Run.check settings (nodeSources nodes) .never).report
        let output := Console.written (renderReport c.format report ++ "\n")
        .ok { exitCode := report.exitCode settings.strict, output }

/-- The list of rules as a table. -/
def rulesTable : String :=
  Console.table "BEAM rules" ["Rule", "Severity", "Description"]
    (Rule.all.map fun r => [r.id, r.severity.name, r.description])

/-- The service that is asked for; an empty address and port zero are as good as none. -/
def endpoint (e : Environment) (host : Option String) (port : Option Int) : Endpoint where
  target := "beam_app.main:app"
  host := (host.filter fun h => !h.isEmpty).getD e.hostName
  port := (port.filter fun p => p ≠ 0).getD e.portNumber

/-- What is found at the given paths, if there is something at each. A path that the system cannot
take decides, if there is something at those before it. -/
def nodesAt (t : FileTree) (paths : List String) :
    Except Failure (Option (List (String × Node))) :=
  let usable := paths.takeWhile fun path => !path.toList.contains (Char.ofNat 0)
  if usable.length < paths.length && (t.nodes? usable).isSome then .error .path
  else .ok (t.nodes? paths)

/-- Runs a command line in an environment and a file tree. -/
def run (e : Environment) (t : FileTree) (args : List String) : Except Failure Outcome :=
  match Invocation.ofArguments? args with
  | none => .ok .usageError
  | some .rules => .ok { exitCode := 0, output := rulesTable }
  | some (.serve host port) => .ok { exitCode := 0, endpoint := some (endpoint e host port) }
  | some (.check c) =>
    match nodesAt t c.paths with
    | .error failure => .error failure
    | .ok none => .ok .usageError
    | .ok (some nodes) => c.run e nodes

end BeamLint.Command
