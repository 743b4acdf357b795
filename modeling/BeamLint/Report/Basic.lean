import BeamLint.Diagnostic
import BeamLint.Order

/-!
# Reports

A report is a status and the findings in order. Findings with the same rule, primary location and
message are one finding, of which the first is kept; they are ordered by file, line, column, rule
and message.
-/

namespace BeamLint

/-- How a run ended. -/
inductive RunStatus where
  | clean
  | warnings
  | failed
  | cancelled
  deriving Repr, DecidableEq

/-- The name of a status. -/
def RunStatus.name : RunStatus → String
  | .clean => "clean"
  | .warnings => "warnings"
  | .failed => "failed"
  | .cancelled => "cancelled"

/-- The outcome of a run. -/
structure Report where
  status : RunStatus
  diagnostics : List Diagnostic := []
  deriving Repr, DecidableEq

/-- The order of findings in a report: file, line, column, rule, message. -/
def Diagnostic.order : Diagnostic → Diagnostic → Ordering :=
  compareLex (compareOn (·.primary.file)) <|
    compareLex (compareOn (·.primary.line)) <|
      compareLex (compareOn (·.primary.column)) <|
        compareLex (compareOn (·.ruleId)) (compareOn (·.message))

namespace Report

/-- The status of a run with the given findings. -/
def statusOf (ds : List Diagnostic) : RunStatus :=
  if ds.isEmpty then .clean
  else if ds.any fun d => d.severity = .error then .failed
  else .warnings

/-- The report on the given findings. -/
def aggregate (ds : List Diagnostic) : Report :=
  let ordered := (firsts Diagnostic.key ds).mergeSort fun a b => (a.order b).isLE
  ⟨statusOf ordered, ordered⟩

/-- The report of a run that was cancelled: it shows nothing rather than a part. -/
def cancelled : Report := ⟨.cancelled, []⟩

/-- The findings of a severity. -/
def ofSeverity (r : Report) (s : Severity) : List Diagnostic :=
  r.diagnostics.filter fun d => d.severity = s

/-- The number of errors. -/
def errorCount (r : Report) : Nat := (r.ofSeverity .error).length

/-- The number of warnings. -/
def warningCount (r : Report) : Nat := (r.ofSeverity .warning).length

/-- The exit code of a run. -/
def exitCode (r : Report) (strict : Bool) : Nat :=
  match r.status with
  | .cancelled => 2
  | .failed => 1
  | .warnings => if strict then 1 else 0
  | .clean => 0

/-- The number of findings of each rule that has some, by rule in increasing order. -/
def byRule (r : Report) : List (String × Nat) :=
  let ids := r.diagnostics.map (·.ruleId)
  (increasingSet ids).map fun id => (id, ids.count id)

/-- The findings of a report file by file: stretches with the same primary file. -/
def byFile (ds : List Diagnostic) : List (String × List Diagnostic) :=
  match ds with
  | [] => []
  | d :: rest =>
    match byFile rest with
    | (file, group) :: groups =>
      if file = d.primary.file then (file, d :: group) :: groups
      else (d.primary.file, [d]) :: (file, group) :: groups
    | [] => [(d.primary.file, [d])]

end Report

end BeamLint
