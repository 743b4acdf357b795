import BeamLint.Order
import BeamLint.Variable.Basic

/-!
# The variable graph

All declarations and uses of a set of sources. The names are the nodes, and a name has an edge to
every name that one of its declarations falls back to. A builder takes in contributions until it is
frozen; after that it takes no more, and gives the same graph whenever it is asked.
-/

namespace BeamLint

/-- All declarations and uses, in the order in which they came in. -/
structure Graph where
  declarations : List Declaration := []
  usages : List Usage := []
  deriving Repr, DecidableEq

/-- A name that no declaration declares. -/
structure Unresolved where
  name : String
  deriving Repr, DecidableEq

/-- How an unresolved name is reported. -/
def Unresolved.message (u : Unresolved) : String := s!"Variable '{u.name}' is never declared"

namespace Graph

/-- The declarations of a name, in the order in which they came in. -/
def declarationsOf (g : Graph) (name : String) : List Declaration :=
  g.declarations.filter fun d => d.name = name

/-- The declared names, in the order of their first declarations. -/
def declared (g : Graph) : List String := firsts id (g.declarations.map (·.name))

/-- The declared names, in increasing order. -/
def names (g : Graph) : List String := increasing g.declared

/-- Whether a name is declared. -/
def declares (g : Graph) (name : String) : Bool := g.declarations.any fun d => d.name = name

/-- A name is declared exactly when it is one of the declared names. -/
theorem mem_declared_iff (g : Graph) (name : String) : name ∈ g.declared ↔ g.declares name := by
  simp [declared, declares]

/-- The declarations of a name, of which there has to be one. -/
def resolve (g : Graph) (name : String) : Except Unresolved (List Declaration) :=
  match g.declarationsOf name with
  | [] => .error ⟨name⟩
  | ds => .ok ds

/-- The highest tier among the declarations of a name. -/
def tierOf (g : Graph) (name : String) : Tier :=
  (g.declarationsOf name).foldl (fun t d => t.max d.tier) .unknown

/-- The names that a name falls back to, each once, in the order of its declarations. -/
def edges (g : Graph) (name : String) : List String :=
  firsts id ((g.declarationsOf name).flatMap Declaration.fallbackNames)

end Graph

/-- Takes in the contributions of the sources, until it is frozen. -/
structure GraphBuilder where
  graph : Graph := {}
  frozen : Bool := false
  deriving Repr, DecidableEq

/-- A contribution that came after the builder was frozen. -/
inductive FrozenError where
  | phaseTwoStarted
  deriving Repr, DecidableEq

/-- How a late contribution is reported. -/
def FrozenError.message : FrozenError → String
  | .phaseTwoStarted => "variable graph is frozen; phase 2 has started"

namespace GraphBuilder

/-- The builder with more declarations and uses. -/
def merge (b : GraphBuilder) (declarations : List Declaration) (usages : List Usage) :
    Except FrozenError GraphBuilder :=
  if b.frozen then .error .phaseTwoStarted
  else
    .ok { b with graph := ⟨b.graph.declarations ++ declarations, b.graph.usages ++ usages⟩ }

/-- The graph, and the builder that takes no more. -/
def freeze (b : GraphBuilder) : Graph × GraphBuilder := (b.graph, { b with frozen := true })

end GraphBuilder

end BeamLint
