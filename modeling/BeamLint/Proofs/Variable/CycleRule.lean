import BeamLint.Proofs.Variable.Cycles
import BeamLint.Proofs.Variable.Findings
import Mathlib

/-!
# Which names are reported to lie on a cycle

A name is on a reported cycle exactly when it stands on the first path to some name `u`, at or
after a name to which `u` falls back (`OnFirstCycle`). That is less than lying on a closed walk:
where cycles overlap, a name may be reached for the last time after the rest of its cycle has been
left for good. Such a name is in no finding on a cycle, and the tiers that its declarations fall
back to are checked as if it lay on none.
-/

namespace BeamLint.Graph

/-- The first path to some name `u` meets, in this order, a name to which `u` falls back and
`name`, which may be that name or `u` itself. -/
def OnFirstCycle (g : Graph) (name : String) : Prop :=
  ∃ u v later earlier, g.FirstPath u (later ++ v :: earlier) ∧
    (later ++ v :: earlier).head? = some u ∧ g.Edge u v ∧ (name = v ∨ name ∈ later)

theorem mem_flatten_cycles_iff (g : Graph) (name : String) :
    name ∈ g.cycles.flatten ↔ g.OnFirstCycle name := by
  rw [List.mem_flatten]
  constructor
  · rintro ⟨c, hc, hm⟩
    obtain ⟨u, trail, v, hp, he, hv, rfl⟩ := (g.mem_cycles_iff c).1 hc
    obtain ⟨later, earlier, ht, hcut⟩ := exists_closedCycle_eq hv
    rw [mem_startAtLeast (closedCycle_ne_nil _ _), hcut, List.mem_cons, List.mem_reverse] at hm
    exact ⟨u, v, later, earlier, ht ▸ hp, ht ▸ rfl, he, hm⟩
  · rintro ⟨u, v, later, earlier, hp, hh, he, hm⟩
    obtain ⟨trail, ht⟩ := List.head?_eq_some_iff.1 hh
    have hv : v ∈ u :: trail := by simp [← ht]
    refine ⟨_, (g.mem_cycles_iff _).2 ⟨u, trail, v, ht ▸ hp, he, hv, rfl⟩, ?_⟩
    have hl : v ∉ later := fun hl =>
      (List.nodup_append.1 hp.nodup).2.2 v hl v List.mem_cons_self rfl
    rw [mem_startAtLeast (closedCycle_ne_nil _ _), ← ht, closedCycle_append hl, List.mem_cons,
      List.mem_reverse]
    exact hm

/-! ### The finding on a cycle -/

/-- A cycle of declared names has one finding. It shows the names in their order, and the places of
their first declarations. -/
theorem exists_mem_cycleFinding {g : Graph} {cycle : List String} {name : String}
    (hd : ∀ a ∈ cycle, g.declares a) (hn : name ∈ cycle) :
    ∃ f ∈ g.cycleFinding cycle,
      f.message = "Custom property fallback cycle: " ++ " -> ".intercalate (cycle ++ cycle.take 1) ∧
      ∃ d, (g.declarationsOf name).head? = some d ∧ d.location ∈ f.locations := by
  obtain ⟨d, hh⟩ := exists_head?_declarationsOf (hd name hn)
  have hm : d.location ∈
      cycle.filterMap fun name => (g.declarationsOf name).head?.map (·.location) :=
    List.mem_filterMap.2 ⟨name, hn, by simp [hh]⟩
  unfold cycleFinding
  dsimp only
  split
  · next primary related hp =>
    rw [hp] at hm
    exact ⟨_, List.mem_singleton_self _, rfl, d, hh, hm⟩
  · next hp => simp [hp] at hm

/-- **Which names of cycles are reported.** A name is on a reported cycle, is shown by a finding on
a cycle and has no finding on the order of its tiers exactly when it lies on a cycle that closes at
a first path. Of every other name the tiers are checked. -/
theorem cycle_name_reported_iff (g : Graph) (c : Config) (name : String) :
    ((∃ cycle ∈ g.cycles, name ∈ cycle) ∧
      (∃ f ∈ g.check c, f.ruleId = Rule.variableCycle.id ∧
        (∃ cycle ∈ g.cycles, name ∈ cycle ∧
          f.message =
            "Custom property fallback cycle: " ++ " -> ".intercalate (cycle ++ cycle.take 1)) ∧
        ∃ d, (g.declarationsOf name).head? = some d ∧ d.location ∈ f.locations) ∧
      (∀ f ∈ g.check c, f.ruleId = Rule.missingSemanticFallback.id →
        ∃ d ∈ g.declarations, d.name ≠ name ∧ d.tier = .component ∧ f ∈ g.orderFinding d) ↔
      g.OnFirstCycle name) ∧
    (¬ g.OnFirstCycle name → ∀ d ∈ g.declarationsOf name, d.tier = .component →
      ∀ f ∈ g.orderFinding d, f ∈ g.check c) := by
  rw [← mem_flatten_cycles_iff]
  refine ⟨⟨fun h => List.mem_flatten.2 h.1, fun h => ?_⟩, fun h d hd ht f hf => ?_⟩
  · obtain ⟨cycle, hc, hn⟩ := List.mem_flatten.1 h
    refine ⟨⟨cycle, hc, hn⟩, ?_, fun f hf hr => ?_⟩
    · have hw := (isCanonicalCycle_of_mem_cycles hc).closedWalk
      have hdecl : ∀ a ∈ cycle, g.declares a := fun a ha => by
        obtain ⟨u, hu⟩ := exists_arc_to ha
        exact (hw.2 u a hu).2.1
      obtain ⟨f, hf, hm, hl⟩ := exists_mem_cycleFinding hdecl hn
      exact ⟨f, mem_check.2 (Or.inl ⟨cycle, hc, hf⟩), ruleId_of_mem_cycleFinding hf,
        ⟨cycle, hc, hn, hm⟩, hl⟩
    · obtain ⟨d, hd, ht, hno, ho⟩ := (mem_check_of_missingSemanticFallback hr).1 hf
      exact ⟨d, hd, fun e => hno (e ▸ h), ht, ho⟩
  · obtain ⟨hmem, rfl⟩ := mem_declarationsOf.1 hd
    exact (mem_check_of_missingSemanticFallback (ruleId_of_mem_orderFinding hf)).2
      ⟨d, hmem, ht, h, hf⟩

/-- Two cycles that share an edge: `--a` falls back to `--b` and to `--c`, `--c` to `--b`, and `--b`
to `--a`. -/
def sharedEdge : Graph where
  declarations :=
    [declare "--a" 1 ["--b", "--c"], declare "--b" 2 ["--a"], declare "--c" 3 ["--b"]]
where
  /-- A component token in the given line. -/
  declare (name : String) (line : Int) (fallbacks : List String) : Declaration :=
    { name, tier := .component, literal := none, location := ⟨"c.css", line, 3⟩
      references := fallbacks.map fun fallback => ⟨fallback, ⟨"c.css", line, 10⟩, false⟩ }

/-- A name of a cycle that no reported cycle holds, and whose tiers are found fault with. -/
theorem sharedEdge_unreported :
    Relation.TransGen sharedEdge.Edge "--c" "--c" ∧ (∀ cycle ∈ sharedEdge.cycles, "--c" ∉ cycle) ∧
      ∃ f ∈ sharedEdge.check {}, ∃ d ∈ sharedEdge.declarationsOf "--c",
        f.ruleId = Rule.missingSemanticFallback.id ∧ f ∈ sharedEdge.orderFinding d := by
  have hcycles : sharedEdge.cycles = [["--a", "--b"]] := by cbv
  have hcb : sharedEdge.Edge "--c" "--b" := ⟨by decide, by decide, by decide⟩
  have hba : sharedEdge.Edge "--b" "--a" := ⟨by decide, by decide, by decide⟩
  have hac : sharedEdge.Edge "--a" "--c" := ⟨by decide, by decide, by decide⟩
  refine ⟨.head hcb (.head hba (.single hac)), by simp [hcycles], ?_⟩
  let d := sharedEdge.declare "--c" 3 ["--b"]
  have hd : d ∈ sharedEdge.declarationsOf "--c" := by decide
  obtain ⟨f, hf⟩ : ∃ f, sharedEdge.orderFinding d = [f] := ⟨_, by cbv⟩
  have ho : f ∈ sharedEdge.orderFinding d := by simp [hf]
  have hr := ruleId_of_mem_orderFinding ho
  refine ⟨f, ?_, d, hd, hr, ho⟩
  exact (mem_check_of_missingSemanticFallback hr).2
    ⟨d, (mem_declarationsOf.1 hd).1, rfl, by simp [hcycles, d, sharedEdge.declare], ho⟩

end BeamLint.Graph
