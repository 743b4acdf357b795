import BeamLint.Json.Printer
import BeamLint.Report.Basic

/-!
# The JSON view of a report

Status and findings, with the fields of every object in increasing order.
-/

namespace BeamLint

/-- A location as a JSON object. -/
def Location.toJson (l : Location) : Json :=
  .obj [("column", .int l.column), ("file", .str l.file), ("line", .int l.line)]

/-- A finding as a JSON object. -/
def Diagnostic.toJson (d : Diagnostic) : Json :=
  .obj
    [("locations", .arr (d.locations.map Location.toJson)),
     ("message", .str d.message),
     ("rule_id", .str d.ruleId),
     ("severity", .str d.severity.name),
     ("suggestion", .strOrNull d.suggestion)]

/-- A report as a JSON object. -/
def Report.toJson (r : Report) : Json :=
  .obj [("diagnostics", .arr (r.diagnostics.map Diagnostic.toJson)), ("status", .str r.status.name)]

/-- A report as JSON text. -/
def Report.renderJson (r : Report) : String := String.ofList r.toJson.print

end BeamLint
