import BeamLint.Variable.Graph

/-!
# Cycles of the variable graph

A depth-first search from every declared name, in increasing order. Whenever the search meets a
name of its own trail, the part of the trail from that name on is a cycle. A cycle is given once,
and starts at its least name.
-/

namespace BeamLint

/-- The names that the search has left for good, and the cycles that it has met. -/
structure CycleSearch where
  done : List String := []
  cycles : List (List String) := []
  deriving Repr, DecidableEq

/-- The same cycle, started at its least name. -/
def startAtLeast (cycle : List String) : List String :=
  match (increasing cycle).head? with
  | some least => cycle.dropWhile (· ≠ least) ++ cycle.takeWhile (· ≠ least)
  | none => []

/-- Adds a cycle, unless it is there already. -/
def CycleSearch.record (s : CycleSearch) (cycle : List String) : CycleSearch :=
  let cycle := startAtLeast cycle
  if cycle ∈ s.cycles then s else { s with cycles := s.cycles ++ [cycle] }

namespace Graph

/-- The cycle that `next` closes: the part of the trail (last name first) from `next` on. -/
def closedCycle (trail : List String) (next : String) : List String :=
  (trail.takeWhile (· ≠ next) ++ [next]).reverse

/-- Searches on from the last name of the trail, which comes first. No name is on the trail twice,
so the number of declared names bounds the depth. -/
def searchFrom (g : Graph) : (depth : Nat) → (trail : List String) → CycleSearch → CycleSearch
  | 0, _, s => s
  | _, [], s => s
  | depth + 1, name :: trail, s =>
    let s := (g.edges name).foldl
      (fun s next =>
        if !g.declares next then s
        else if next ∈ name :: trail then s.record (closedCycle (name :: trail) next)
        else if next ∈ s.done then s
        else g.searchFrom depth (next :: name :: trail) s) s
    { s with done := name :: s.done }

/-- The cycles of the graph, in the order in which the search meets them. -/
def cycles (g : Graph) : List (List String) :=
  let names := g.names
  let depth := names.length
  (names.foldl (fun s root => if root ∈ s.done then s else g.searchFrom depth [root] s)
    ({} : CycleSearch)).cycles

end Graph

end BeamLint
