import BeamLint.Variable.Graph

/-!
# Landing names

A name of unknown tier passes on to the names that it falls back to. A breadth-first search through
such names lands on the nearest name whose tier is known.
-/

namespace BeamLint.Graph

/-- The declared names that have not been met. -/
def unmet (g : Graph) (met : List String) : List String := g.declared.filter fun name => name ∉ met

theorem length_unmet_lt {g : Graph} {met : List String} {name : String} (hd : g.declares name)
    (hm : name ∉ met) : (g.unmet (name :: met)).length < (g.unmet met).length := by
  have h : g.unmet (name :: met) = (g.unmet met).filter (· ≠ name) := by
    simp [unmet, List.filter_filter]
  rw [h]
  exact List.length_filter_lt_length_iff_exists.2
    ⟨name, by simp [unmet, mem_declared_iff, hd, hm], by simp⟩

/-- Searches the names of the queue, in its order, passing over names that are not declared or have
been met. -/
def landFrom (g : Graph) (met : List String) : (queue : List String) → Option String
  | [] => none
  | name :: queue =>
    if _h : g.declares name ∧ name ∉ met then
      if g.tierOf name ≠ .unknown then some name
      else landFrom g (name :: met) (queue ++ g.edges name)
    else landFrom g met queue
termination_by queue => ((g.unmet met).length, queue.length)
decreasing_by
  · exact Prod.Lex.left _ _ (length_unmet_lt _h.1 _h.2)
  · exact Prod.Lex.right _ (by simp)

/-- The nearest name of known tier that is reached from `name` through names of unknown tier. -/
def landing? (g : Graph) (name : String) : Option String := g.landFrom [] [name]

end BeamLint.Graph
