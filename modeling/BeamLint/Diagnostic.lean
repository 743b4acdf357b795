import BeamLint.Location
import BeamLint.Rule

/-!
# Diagnostics

A diagnostic is one finding: the rule it breaks, a message, the place it is reported at, further
places that matter for it, and perhaps a way to mend it.
-/

namespace BeamLint

/-- One finding. -/
structure Diagnostic where
  ruleId : String
  severity : Severity
  message : String
  primary : Location
  related : List Location
  suggestion : Option String
  deriving Repr, DecidableEq

namespace Diagnostic

/-- All locations, the primary one first. -/
def locations (d : Diagnostic) : List Location := d.primary :: d.related

/-- What makes two findings the same one: rule, primary location and message. -/
def key (d : Diagnostic) : String × Location × String := (d.ruleId, d.primary, d.message)

end Diagnostic

/-- A finding of the rule `r`. -/
def Rule.finding (r : Rule) (message : String) (primary : Location) (related : List Location)
    (suggestion : String) : Diagnostic :=
  ⟨r.id, r.severity, message, primary, related, some suggestion⟩

end BeamLint
