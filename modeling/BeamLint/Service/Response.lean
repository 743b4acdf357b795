import BeamLint.Report.Markdown
import BeamLint.Run
import BeamLint.Service.Path
import BeamLint.Service.Request

/-!
# The service

Four routes: the health of the service, the list of rules, a check with its findings as JSON, and a
check with its report as Markdown. A path with slashes at its end leads to the route without them.
-/

namespace BeamLint.Service

/-- A route of the service. -/
inductive Route where
  | health
  | rules
  | check
  | report
  deriving Repr, DecidableEq

namespace Route

/-- The path of a route. -/
def path : Route → String
  | .health => "/health"
  | .rules => "/rules"
  | .check => "/check"
  | .report => "/report"

/-- The method of a route. -/
def method : Route → String
  | .health | .rules => "GET"
  | .check | .report => "POST"

/-- All routes. -/
def all : List Route := [.health, .rules, .check, .report]

/-- The route that a request asks for. -/
def ofTarget? (target : String) : Option Route :=
  let path := requestPath target
  let bare := (path.reverse.dropWhile (· = '/')).reverse
  all.find? fun r => r.path.toList = path || r.path.toList = bare

end Route

/-- The body of an answer. -/
inductive Body where
  | json (j : Json)
  | markdown (text : String)
  /-- The places of the request that do not fit. -/
  | faults (fs : List Fault)

/-- An answer. -/
structure Response where
  status : Nat
  body : Body

/-- The type of the content of an answer. -/
def Response.contentType (r : Response) : String :=
  match r.body with
  | .markdown _ => "text/markdown; charset=utf-8"
  | .json _ | .faults _ => "application/json"

/-- An answer that tells why there is no other. -/
def detail (status : Nat) (text : String) : Response := ⟨status, .json (.obj [("detail", .str text)])⟩

/-- The list of rules. -/
def rulesJson : Json :=
  .arr <| Rule.all.map fun r =>
    .obj
      [("rule_id", .str r.id), ("severity", .str r.severity.name),
       ("description", .str r.description)]

/-- A location in an answer. -/
def locationJson (l : Location) : Json :=
  .obj [("file", .str l.file), ("line", .int l.line), ("column", .int l.column)]

/-- A finding in an answer. -/
def findingJson (d : Diagnostic) : Json :=
  .obj
    [("rule_id", .str d.ruleId),
     ("severity", .str d.severity.name),
     ("message", .str d.message),
     ("locations", .arr (d.locations.map locationJson)),
     ("suggestion", .strOrNull d.suggestion)]

/-- The findings of a check with the counts and the exit code. -/
def checkJson (c : Config) (r : Report) : Json :=
  let byRule := r.byRule.map fun (id, n) => (id, Json.int n)
  .obj
    [("status", .str r.status.name),
     ("exit_code", .int (r.exitCode c.strict)),
     ("diagnostics", .arr (r.diagnostics.map findingJson)),
     ("summary",
      .obj
        [("errors", .int r.errorCount), ("warnings", .int r.warningCount),
         ("by_rule", .obj byRule)])]

/-- The settings of a request: those of the service with the options put in. -/
def settings (service : Except ConfigError Config) (options : Option Overrides) :
    Except ConfigError Config := do
  let c ← service
  match options with
  | some o => c.withOverrides o
  | none => return c

/-- Runs the check that a request asks for: the report, and the settings it was made under. -/
def run (service : Except ConfigError Config) (request : CheckRequest) :
    Except ConfigError (Report × Config) := do
  let c ← settings service request.options
  let report ← checkSources c (request.files.map fun f => ⟨f.path, .text f.content⟩)
  return (report, c)

/-- The answer to a request for a check, given how the outcome is shown. -/
def answerCheck (service : Except ConfigError Config) (body : Option Json)
    (render : Report → Config → Body) : Response :=
  match readRequest body with
  | .error faults => ⟨422, .faults (faults.mergeSort fun a b => decide (a.render ≤ b.render))⟩
  | .ok request =>
    match run service request with
    | .error e => detail 400 e.message
    | .ok (report, c) => ⟨200, render report c⟩

/-- The answer to a request; the case of the method does not matter. -/
def answer (service : Except ConfigError Config) (method target : String) (body : Option Json) :
    Response :=
  match Route.ofTarget? target with
  | none => detail 404 "Not Found"
  | some route =>
    if Text.upperString method ≠ route.method then detail 405 "Method Not Allowed"
    else
      match route with
      | .health => ⟨200, .json (.obj [("status", .str "ok")])⟩
      | .rules => ⟨200, .json rulesJson⟩
      | .check => answerCheck service body fun r c => .json (checkJson c r)
      | .report => answerCheck service body fun r _ => .markdown (r.renderMarkdown none)

end BeamLint.Service
