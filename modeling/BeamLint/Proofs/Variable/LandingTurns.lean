import BeamLint.Proofs.Variable.FirstPath
import BeamLint.Proofs.Variable.Landing
import Mathlib

/-!
# The turns of a landing search

A search goes on in turns, each of which takes the first name off the queue. Names may stand in the
queue again and again, but only a name that is met for the first time puts others into it. So what
is in the queue, together with what the names not yet met would put into it, gets one less with
every turn (`pending_enter`, `pending_skip`), and a search takes at most one turn for the name that
it starts from, one for each edge of the graph, and one to find the queue empty
(`iterate_turn_landing?`). Cycles and undeclared names do not matter.
-/

namespace BeamLint

/-- A landing search: it goes on with the names that were met and the queue, or it has ended. -/
inductive LandingSearch where
  | searching (met queue : List String)
  | ended (landing : Option String)
  deriving Repr, DecidableEq

namespace Graph

variable {g : Graph} {met queue : List String} {name : String}

/-- One turn of a search. -/
def turn (g : Graph) : LandingSearch → LandingSearch
  | .searching _ [] => .ended none
  | .searching met (name :: queue) =>
    if g.declares name ∧ name ∉ met then
      if g.tierOf name ≠ .unknown then .ended (some name)
      else .searching (name :: met) (queue ++ g.edges name)
    else .searching met queue
  | .ended landing => .ended landing

/-- The names in the queue and those that the names not yet met would add to it. -/
def pending (g : Graph) (met queue : List String) : Nat :=
  queue.length + ((g.unmet met).map fun name => (g.edges name).length).sum

/-- The edges of a graph. -/
def edgeCount (g : Graph) : Nat := (g.declared.map fun name => (g.edges name).length).sum

theorem pending_start (g : Graph) (a : String) : g.pending [] [a] = g.edgeCount + 1 := by
  have hunmet : g.unmet [] = g.declared := by simp [unmet]
  rw [pending, hunmet, edgeCount, List.length_singleton, Nat.add_comm]

theorem pending_skip : g.pending met (name :: queue) = g.pending met queue + 1 := by
  rw [pending, pending, List.length_cons]
  omega

/-- What a name puts into the queue, it does not put there again. -/
theorem pending_enter (hd : g.declares name) (hm : name ∉ met) :
    g.pending met (name :: queue) = g.pending (name :: met) (queue ++ g.edges name) + 1 := by
  have hmem : name ∈ g.unmet met := by simp [unmet, mem_declared_iff, hd, hm]
  have hnodup : (g.unmet met).Nodup := g.nodup_declared.filter _
  have hunmet : g.unmet (name :: met) = (g.unmet met).erase name := by
    rw [hnodup.erase_eq_filter]
    simp [unmet, List.filter_filter, bne, beq_eq_decide]
  have hsum := ((List.perm_cons_erase hmem).map fun name => (g.edges name).length).sum_eq
  rw [List.map_cons, List.sum_cons, ← hunmet] at hsum
  rw [pending, pending, List.length_cons, List.length_append]
  omega

theorem iterate_turn_ended (g : Graph) (n : Nat) (landing : Option String) :
    g.turn^[n] (.ended landing) = .ended landing :=
  Function.iterate_fixed rfl n

/-- Once every pending name has had its turn, the search ends with the next one; it lands where the
graph says. -/
theorem iterate_turn (met queue : List String) (k : Nat) :
    g.turn^[g.pending met queue + k + 1] (.searching met queue) =
      .ended (g.landFrom met queue) := by
  rw [Function.iterate_succ_apply]
  fun_induction g.landFrom met queue with
  | case1 met => rw [turn, iterate_turn_ended]
  | case2 met name queue hn ht => rw [turn, if_pos hn, if_pos ht, iterate_turn_ended]
  | case3 met name queue hn ht ih =>
    rw [turn, if_pos hn, if_neg ht, pending_enter hn.1 hn.2, Nat.add_right_comm,
      Function.iterate_succ_apply, ih]
  | case4 met name queue hn ih =>
    rw [turn, if_neg hn, pending_skip, Nat.add_right_comm, Function.iterate_succ_apply, ih]

theorem iterate_turn_landing? {n : Nat} (a : String) (h : g.edgeCount + 2 ≤ n) :
    g.turn^[n] (.searching [] [a]) = .ended (g.landing? a) := by
  obtain ⟨k, rfl⟩ := Nat.exists_eq_add_of_le h
  have hn : g.edgeCount + 2 + k = g.pending [] [a] + k + 1 := by
    rw [pending_start]
    omega
  rw [hn, iterate_turn, landing?]

theorem landing?_eq_none_iff {a : String} :
    g.landing? a = none ↔ ∀ k w, g.Passes a k w → ¬ g.Known w := by
  have hlands := g.lands_landing? a
  constructor
  · intro h
    rwa [h] at hlands
  · intro hno
    cases h : g.landing? a with
    | none => rfl
    | some v =>
      rw [h] at hlands
      obtain ⟨hv, k, hp, -⟩ := hlands
      exact absurd hv (hno k v hp)

/-- A name that is not declared passes on to nothing. -/
theorem eq_of_passes {a v : String} {k : Nat} (ha : g.declares a = false) (h : g.Passes a k v) :
    v = a := by
  induction h with
  | here => rfl
  | step h hd ht he ih =>
    rw [ih, ha] at hd
    contradiction

/-- A landing search ends on every graph. It lands on a declared name of known tier, reached through
declared names of unknown tier in as few steps as any other, and nowhere exactly when no such name
is reached; from a name that is not declared, none is. -/
theorem landing?_breadthFirst (g : Graph) (a : String) :
    (∀ n ≥ g.edgeCount + 2, g.turn^[n] (.searching [] [a]) = .ended (g.landing? a)) ∧
    (∀ v, g.landing? a = some v →
      g.declares v ∧ g.tierOf v ≠ .unknown ∧
        ∃ k, g.Passes a k v ∧
          ∀ j < k, ∀ w, g.Passes a j w → ¬ (g.declares w ∧ g.tierOf w ≠ .unknown)) ∧
    (g.landing? a = none ↔
      ∀ k w, g.Passes a k w → ¬ (g.declares w ∧ g.tierOf w ≠ .unknown)) ∧
    (g.declares a = false → g.landing? a = none) := by
  refine ⟨fun _ hn => iterate_turn_landing? a hn, fun v hv => ?_, landing?_eq_none_iff,
    fun ha => ?_⟩
  · obtain ⟨⟨hd, ht⟩, k, hp, hfirst⟩ := nearest_of_landing?_eq_some hv
    exact ⟨hd, ht, k, hp, hfirst⟩
  · refine landing?_eq_none_iff.2 fun k w hp hw => ?_
    rw [eq_of_passes ha hp, Known, ha] at hw
    exact absurd hw.1 (by decide)

/-- Names of unknown tier that fall back to each other and to one that is not declared; the way out
leads to a component token. -/
def unknownLoop : Graph where
  declarations :=
    [⟨"--a", .unknown, [⟨"--gone", ⟨"p.html", 1, 20⟩, true⟩, ⟨"--b", ⟨"p.html", 1, 35⟩, false⟩],
        none, ⟨"p.html", 1, 11⟩⟩,
      ⟨"--b", .unknown, [⟨"--a", ⟨"p.html", 2, 20⟩, true⟩, ⟨"--c", ⟨"p.html", 2, 35⟩, false⟩],
        none, ⟨"p.html", 2, 11⟩⟩,
      ⟨"--c", .component, [], some "1px", ⟨"c.css", 1, 3⟩⟩]

theorem landing?_unknownLoop :
    6 ≥ unknownLoop.edgeCount + 2 ∧
      unknownLoop.turn^[6] (.searching [] ["--a"]) = .ended (some "--c") ∧
      unknownLoop.landing? "--a" = some "--c" ∧
      (∃ k, unknownLoop.Passes "--a" k "--c" ∧ ∀ j < k, ∀ w, unknownLoop.Passes "--a" j w →
        ¬ (unknownLoop.declares w ∧ unknownLoop.tierOf w ≠ .unknown)) ∧
      unknownLoop.declares "--gone" = false ∧ unknownLoop.landing? "--gone" = none := by
  have hbound : 6 ≥ unknownLoop.edgeCount + 2 := by decide +kernel
  have hgone : unknownLoop.declares "--gone" = false := by decide
  have hland : unknownLoop.landing? "--a" = some "--c" := by cbv
  obtain ⟨hends, hlands, -, -⟩ := landing?_breadthFirst unknownLoop "--a"
  obtain ⟨-, -, -, hnone⟩ := landing?_breadthFirst unknownLoop "--gone"
  obtain ⟨-, -, hnearest⟩ := hlands "--c" hland
  exact ⟨hbound, hland ▸ hends 6 hbound, hland, hnearest, hgone, hnone hgone⟩

end Graph

end BeamLint
