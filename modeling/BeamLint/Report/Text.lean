import BeamLint.Report.Basic
import BeamLint.Text.Case

/-!
# The plain view of a report

The findings file by file, with a summary at the end.
-/

namespace BeamLint.Report

/-- A line of eighty equal characters. -/
def ruleLine (c : Char) : String := String.ofList (List.replicate 80 c)

/-- The severity of a finding in capitals, padded to seven characters. -/
def severityTag (s : Severity) : String :=
  let tag := Text.upperString s.name
  tag ++ String.ofList (List.replicate (7 - tag.length) ' ')

/-- The lines of one finding. -/
def textLines (d : Diagnostic) : List String :=
  let tag := severityTag d.severity
  s!"  {d.primary.line}:{d.primary.column}  {tag}  {d.ruleId}  {d.message}" ::
    (d.related.map fun l => "      see " ++ l.render) ++
    match d.suggestion with
    | some s => if s.isEmpty then [] else ["      Fix: " ++ s]
    | none => []

/-- The plain view. -/
def renderText (r : Report) : String :=
  if r.status = .cancelled then "\nRun cancelled; no diagnostics reported.\n"
  else if r.diagnostics.isEmpty then "\n✓ No BEAM convention issues found\n"
  else
    let head := ["\n" ++ ruleLine '=', "BEAM Conformance Report", ruleLine '=']
    let body := (byFile r.diagnostics).flatMap fun (file, group) =>
      ("\n" ++ file) :: ruleLine '-' :: group.flatMap textLines
    let status := r.status.name
    let tail :=
      [s!"\nSummary: {r.errorCount} errors, {r.warningCount} warnings ({status})", ruleLine '=']
    "\n".intercalate (head ++ body ++ tail)

end BeamLint.Report
