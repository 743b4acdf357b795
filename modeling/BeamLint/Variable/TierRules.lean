import BeamLint.Config
import BeamLint.Diagnostic
import BeamLint.Variable.Cycle
import BeamLint.Variable.Landing

/-!
# Tier rules

What is checked on the whole graph: cycles, references that lead nowhere, primitive tokens used
outside the theme, hard-coded colors, and component tokens that never reach a token of the theme.
-/

namespace BeamLint.Graph

/-- The finding on a cycle, at the first declarations of its names. -/
def cycleFinding (g : Graph) (cycle : List String) : List Diagnostic :=
  let chain := " -> ".intercalate (cycle ++ cycle.take 1)
  match cycle.filterMap fun name => (g.declarationsOf name).head?.map (·.location) with
  | primary :: related =>
    [Rule.variableCycle.finding s!"Custom property fallback cycle: {chain}" primary related
      "Break the cycle so the chain ends in a semantic token or literal"]
  | [] => []

/-- The finding on a reference: never declared, or primitive and used outside the theme. -/
def referenceFinding (g : Graph) (owner : String) (fromTheme : Bool) (r : Reference) :
    List Diagnostic :=
  if !g.declares r.name then
    [Rule.variableUnresolved.finding s!"'{owner}' references '{r.name}', which is never declared"
      r.location [] "Declare the token in the theme or remove the reference"]
  else if !fromTheme && g.tierOf r.name == .primitive then
    [Rule.primitiveLeak.finding s!"'{owner}' references primitive token '{r.name}' directly"
      r.location [] s!"Reference a semantic token that wraps '{r.name}' instead"]
  else []

/-- The findings on all references of `owner`, which stands in `file`. -/
def referenceFindings (g : Graph) (c : Config) (owner file : String) (rs : List Reference) :
    List Diagnostic :=
  let fromTheme := c.isTheme file
  rs.flatMap (g.referenceFinding owner fromTheme)

/-- The finding on a hexadecimal color at the end of a chain. -/
def colorFinding (d : Declaration) : List Diagnostic :=
  if d.hasHexTerminal then
    let literal := d.literal.getD ""
    [Rule.hardcodedColor.finding
      s!"Component token '{d.name}' falls back to hard-coded color '{literal}'" d.location []
      "Fall back to a semantic token from the theme instead of a hex value"]
  else []

/-- The finding on a component token that lands on the component token `landing` through `r`. -/
def componentFinding (d : Declaration) (r : Reference) (landing : String) : Diagnostic :=
  let via := if landing = r.name then "" else s!" (through '{r.name}')"
  Rule.missingSemanticFallback.finding
    (s!"Component token '{d.name}' falls back to component token '{landing}'{via} " ++
      "instead of a semantic or primitive token")
    r.location [] s!"Point '{d.name}' at a semantic token from the theme"

/-- The finding on a component token that ends in a literal and reaches no token of the theme. -/
def literalFinding (d : Declaration) (literal : String) : Diagnostic :=
  Rule.missingSemanticFallback.finding
    (s!"Component token '{d.name}' ends in literal '{literal}' " ++
      "without reaching a semantic or primitive token")
    d.location []
    (s!"Give '{d.name}' a fallback chain through a semantic token, " ++
      "e.g. var(--semantic-token, ...)")

/-- The landings of the references, those that lead nowhere left out. -/
def landings (g : Graph) (rs : List Reference) : List (Reference × String) :=
  rs.filterMap fun r => (g.landing? r.name).map (r, ·)

/-- The finding on the tiers that a component token falls back to: on the first reference that
lands on a component token, else on a literal when no reference lands on a token of the theme. -/
def orderFinding (g : Graph) (d : Declaration) : List Diagnostic :=
  let landings := g.landings d.references
  match landings.find? fun (_, name) => g.tierOf name == .component with
  | some (r, name) => [componentFinding d r name]
  | none =>
    match d.literal with
    | some literal =>
      if landings.any fun (_, name) => (g.tierOf name).isToken then [] else [literalFinding d literal]
    | none => []

/-- The findings on one declaration, given the names that lie on cycles: a cycle has no end, so the
tiers of its names are not checked. -/
def declarationFindings (g : Graph) (c : Config) (onCycle : List String) (d : Declaration) :
    List Diagnostic :=
  g.referenceFindings c d.name d.file d.references ++
    if d.tier = .component then
      colorFinding d ++ if d.name ∈ onCycle then [] else g.orderFinding d
    else []

/-- All findings on the graph: cycles, declarations by name, and uses. -/
def check (g : Graph) (c : Config) : List Diagnostic :=
  let cycles := g.cycles
  cycles.flatMap g.cycleFinding ++
    (g.names.flatMap fun name =>
      (g.declarationsOf name).flatMap (g.declarationFindings c cycles.flatten)) ++
    g.usages.flatMap fun u => g.referenceFindings c u.property u.file u.references

end BeamLint.Graph
