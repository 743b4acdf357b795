import BeamLint.Report.Basic
import BeamLint.Text.Blank
import BeamLint.Text.Case
import BeamLint.Text.Search

/-!
# The Markdown view of a report

The findings file by file under headings, perhaps with the time at which the report was made.
-/

namespace BeamLint.Report

/-- Every occurrence of `pattern` removed from the text; `skip` characters belong to one that has
been met. -/
def removeAll (pattern : List Char) : (skip : Nat) → List Char → List Char
  | _, [] => []
  | skip + 1, _ :: rest => removeAll pattern skip rest
  | 0, c :: rest =>
    if pattern.isPrefixOf (c :: rest) then removeAll pattern (pattern.length - 1) rest
    else c :: removeAll pattern 0 rest

/-- The mark before the name of a rule. -/
def ruleMark : List Char := ['r', 'u', 'l', 'e', ':']

/-- An identifier as a heading: without the mark of rules, with blanks for hyphens and underscores,
and every word with a capital. -/
def headingCase (id : String) : String :=
  let words := Text.replaceChar '_' ' ' (Text.replaceChar '-' ' ' (removeAll ruleMark 0 id.toList))
  String.ofList (Text.title (Text.lower (Text.trim words)))

/-- The lines of one finding. -/
def markdownLines (d : Diagnostic) : List String :=
  let rule := headingCase d.ruleId
  let severity := headingCase d.severity.name
  [s!"**Line {d.primary.line}:{d.primary.column} · {rule} · {severity}**", "", d.message, ""] ++
    (if d.related.isEmpty then []
     else ["- **Related:** " ++ ", ".intercalate (d.related.map fun l => "`" ++ l.render ++ "`")]) ++
    (match d.suggestion with
     | some s => if s.isEmpty then [] else ["- **Fix:** " ++ s]
     | none => []) ++
    [""]

/-- A point in time. -/
structure Moment where
  year : Nat
  month : Nat
  day : Nat
  hour : Nat
  minute : Nat
  second : Nat
  deriving Repr, DecidableEq

/-- A number with at least two digits. -/
def twoDigits (n : Nat) : String := if n < 10 then s!"0{n}" else s!"{n}"

/-- How a point in time is written. -/
def Moment.render (m : Moment) : String :=
  s!"{m.year}-" ++ twoDigits m.month ++ "-" ++ twoDigits m.day ++ " " ++ twoDigits m.hour ++ ":" ++
    twoDigits m.minute ++ ":" ++ twoDigits m.second

/-- The lines of the view below its title. -/
def markdownBody (r : Report) : List String :=
  if r.status = .cancelled then ["Run cancelled; no diagnostics reported.", ""]
  else
    let status := r.status.name
    let counts :=
      [s!"**Status: {status}** · {r.errorCount} error(s), {r.warningCount} warning(s).", ""]
    if r.diagnostics.isEmpty then counts ++ ["No convention issues found.", ""]
    else
      counts ++ (byFile r.diagnostics).flatMap fun (file, group) =>
        ("## " ++ file) :: "" :: group.flatMap markdownLines

/-- The Markdown view. -/
def renderMarkdown (r : Report) (generated : Option Moment) : String :=
  let stamp :=
    match generated with
    | some m => ["Generated: " ++ m.render, ""]
    | none => []
  "\n".intercalate (["# BEAM Conformance Results", ""] ++ stamp ++ markdownBody r)

end BeamLint.Report
