import BeamLint.Proofs.Variable.CycleRule
import BeamLint.Proofs.Variable.Reordered
import Mathlib

/-!
# Whether a rule on paths is broken

Whether there is a cycle does not depend on the order of the declarations: there is one exactly when
there is a closed walk. Whether a component token misses its fallback depends on where its
references land. Where, of the nearest names, some are tokens of the theme and some are component
tokens, the order of the edges decides between them (`Ambiguous`); else every order lands on the
same kind of name. So the order of the declarations decides whether some rule on paths is broken
only where a landing is ambiguous and passes a name whose edges change
(`Reordered.exists_isOnPath_iff`).
-/

namespace BeamLint

theorem Tier.isToken_iff {t : Tier} (h : t ≠ .unknown) : t.isToken ↔ t ≠ .component := by
  cases t <;> simp_all [Tier.isToken]

namespace Graph

variable {g g' : Graph} {c : Config} {a : String}

/-! ### When there is a finding -/

theorem cycles_eq_nil_iff (g : Graph) : g.cycles = [] ↔ ∀ walk, ¬ g.IsClosedWalk walk := by
  constructor
  · intro hnil walk hw
    obtain ⟨cycle, hc, -⟩ := hw.exists_shared_arc
    simp [hnil] at hc
  · intro hno
    refine List.eq_nil_iff_forall_not_mem.2 fun cycle hc => ?_
    exact hno cycle (isCanonicalCycle_of_mem_cycles hc).closedWalk

/-- The search from `a` lands on a name of one of the tiers. -/
def LandsOn (g : Graph) (a : String) (tiers : Tier → Bool) : Prop :=
  ∃ v, g.landing? a = some v ∧ tiers (g.tierOf v)

/-- A component token misses its fallback when a reference lands on a component token, or when it
ends in a literal and no reference lands on a token of the theme. -/
theorem orderFinding_ne_nil_iff {d : Declaration} :
    g.orderFinding d ≠ [] ↔ (∃ r ∈ d.references, g.LandsOn r.name (· == .component)) ∨
      d.literal.isSome ∧ ¬ ∃ r ∈ d.references, g.LandsOn r.name Tier.isToken := by
  have hmem {r : Reference} {v : String} :
      (r, v) ∈ g.landings d.references ↔ r ∈ d.references ∧ g.landing? r.name = some v := by
    simp [landings]
  have hlands (tiers : Tier → Bool) : (∃ r ∈ d.references, g.LandsOn r.name tiers) ↔
      ∃ p ∈ g.landings d.references, tiers (g.tierOf p.2) := by
    constructor
    · rintro ⟨r, hr, v, hv, ht⟩
      exact ⟨(r, v), hmem.2 ⟨hr, hv⟩, ht⟩
    · rintro ⟨⟨r, v⟩, hp, ht⟩
      exact ⟨r, (hmem.1 hp).1, v, (hmem.1 hp).2, ht⟩
  rw [hlands, hlands]
  unfold orderFinding
  dsimp only
  split
  · next r v hf =>
    have ht := List.find?_some hf
    simp only [ne_eq, List.cons_ne_self, not_false_eq_true, true_iff]
    exact Or.inl ⟨(r, v), List.mem_of_find?_eq_some hf, ht⟩
  · next hf =>
    have hno : ¬ ∃ p ∈ g.landings d.references, (g.tierOf p.2 == .component) = true := by
      rintro ⟨p, hp, ht⟩
      exact List.find?_eq_none.1 hf p hp ht
    rw [or_iff_right hno]
    cases d.literal with
    | none => simp
    | some literal => simp

/-- Every cycle has a finding. -/
theorem exists_cycleFinding_of_mem_cycles {cycle : List String} (h : cycle ∈ g.cycles) :
    ∃ f, f ∈ g.cycleFinding cycle := by
  have hne : cycle ≠ [] := (isCanonicalCycle_of_mem_cycles h).closedWalk.1
  obtain ⟨name, hn⟩ := List.exists_mem_of_ne_nil _ hne
  obtain ⟨f, hf, -⟩ := exists_mem_cycleFinding (fun a => declares_of_mem_cycles h) hn
  exact ⟨f, hf⟩

/-- A cycle is reported for the cycles that are listed. -/
theorem mem_check_of_variableCycle {f : Diagnostic} (hf : f.ruleId = Rule.variableCycle.id) :
    f ∈ g.check c ↔ ∃ cycle ∈ g.cycles, f ∈ g.cycleFinding cycle := by
  rw [mem_check]
  refine ⟨fun h => ?_, Or.inl⟩
  rcases h with h | ⟨d, -, h⟩ | ⟨u, -, h⟩
  · exact h
  · rcases mem_declarationFindings.1 h with h | ⟨-, h | ⟨-, h⟩⟩
    · rcases ruleId_of_mem_referenceFindings h with h | h <;> simp [h, Rule.id_inj] at hf
    · simp [ruleId_of_mem_colorFinding h, Rule.id_inj] at hf
    · simp [ruleId_of_mem_orderFinding h, Rule.id_inj] at hf
  · rcases ruleId_of_mem_referenceFindings h with h | h <;> simp [h, Rule.id_inj] at hf

/-- A finding of a rule on paths is on a cycle or on a component token. -/
theorem mem_check_of_isOnPath {f : Diagnostic} (hpath : f.isOnPath) (h : f ∈ g.check c) :
    (∃ cycle ∈ g.cycles, f ∈ g.cycleFinding cycle) ∨
      ∃ d ∈ g.declarations, d.tier = .component ∧ f ∈ g.orderFinding d := by
  simp only [Diagnostic.isOnPath, Rule.onPaths, List.map_cons, List.map_nil, List.mem_cons,
    List.not_mem_nil, or_false, decide_eq_true_eq] at hpath
  rcases hpath with hr | hr
  · exact Or.inl ((mem_check_of_variableCycle hr).1 h)
  · obtain ⟨d, hd, ht, -, ho⟩ := (mem_check_of_missingSemanticFallback hr).1 h
    exact Or.inr ⟨d, hd, ht, ho⟩

/-- What the rules on paths find are errors. -/
theorem severity_of_isOnPath {f : Diagnostic} (hpath : f.isOnPath) (h : f ∈ g.check c) :
    f.severity = .error := by
  rcases mem_check_of_isOnPath hpath h with ⟨cycle, -, hf⟩ | ⟨d, -, -, hf⟩
  · exact (isOf_of_mem_cycleFinding hf).severity
  · exact (isOf_of_mem_orderFinding hf).severity

/-- Some rule on paths is broken when there is a cycle, or when a component token misses its
fallback. -/
theorem exists_isOnPath_iff (g : Graph) (c : Config) : (∃ f ∈ g.check c, f.isOnPath) ↔
    g.cycles ≠ [] ∨ ∃ d ∈ g.declarations, d.tier = .component ∧ g.orderFinding d ≠ [] := by
  constructor
  · rintro ⟨f, hf, hpath⟩
    rcases mem_check_of_isOnPath hpath hf with ⟨cycle, hc, -⟩ | ⟨d, hd, ht, ho⟩
    · exact Or.inl (List.ne_nil_of_mem hc)
    · exact Or.inr ⟨d, hd, ht, List.ne_nil_of_mem ho⟩
  · intro h
    by_cases hc : g.cycles = []
    · -- Without cycles, no declaration is left out.
      obtain ⟨d, hd, ht, ho⟩ := h.resolve_left (not_not_intro hc)
      obtain ⟨f, hf⟩ := List.exists_mem_of_ne_nil _ ho
      have hr := ruleId_of_mem_orderFinding hf
      refine ⟨f, (mem_check_of_missingSemanticFallback hr).2 ⟨d, hd, ht, by simp [hc], hf⟩, ?_⟩
      simp [Diagnostic.isOnPath, Rule.onPaths, hr]
    · obtain ⟨cycle, hm⟩ := List.exists_mem_of_ne_nil _ hc
      obtain ⟨f, hf⟩ := exists_cycleFinding_of_mem_cycles hm
      have hr := ruleId_of_mem_cycleFinding hf
      refine ⟨f, (mem_check_of_variableCycle hr).2 ⟨cycle, hm, hf⟩, ?_⟩
      simp [Diagnostic.isOnPath, Rule.onPaths, hr]

/-! ### What the order of the declarations decides -/

/-- Of the nearest names, some are tokens of the theme and some are component tokens. -/
def Ambiguous (g : Graph) (a : String) : Prop :=
  ∃ v w, g.Nearest a v ∧ (g.tierOf v).isToken ∧ g.Nearest a w ∧ g.tierOf w = .component

namespace Reordered

theorem symm (h : g.Reordered g') : g'.Reordered g := ⟨h.declarations.symm, h.usages.symm⟩

theorem passes (h : g.Reordered g') {k : Nat} {v : String} (hp : g.Passes a k v) :
    g'.Passes a k v := by
  induction hp with
  | here => exact .here
  | step _ hd ht he ih =>
    exact .step ih (h.declares_eq ▸ hd) (h.tierOf_eq ▸ ht) (h.mem_edges_iff.1 he)

theorem nearest (h : g.Reordered g') {v : String} (hn : g.Nearest a v) : g'.Nearest a v := by
  obtain ⟨hk, k, hp, hj⟩ := hn
  have known {w : String} : g.Known w ↔ g'.Known w := by
    rw [Known, Known, h.declares_eq, h.tierOf_eq]
  exact ⟨known.1 hk, k, h.passes hp, fun j hjk w hw => known.not.1 (hj j hjk w (h.symm.passes hw))⟩

/-- A landing that is not ambiguous is on the same kind of name in whatever order. -/
theorem landsOn_of_not_ambiguous (h : g.Reordered g') (ha : ¬ g.Ambiguous a) {tiers : Tier → Bool}
    (ht : tiers = Tier.isToken ∨ tiers = (· == .component)) (hl : g.LandsOn a tiers) :
    g'.LandsOn a tiers := by
  obtain ⟨v, hv, hvt⟩ := hl
  have hnv := nearest_of_landing?_eq_some hv
  obtain ⟨w, hw, hnw⟩ := exists_landing?_of_nearest (h.nearest hnv)
  have hnw := h.symm.nearest hnw
  have hiff := Tier.isToken_iff hnw.1.2
  refine ⟨w, hw, ?_⟩
  rw [← h.tierOf_eq]
  rcases ht with rfl | rfl
  · exact hiff.2 fun hc => ha ⟨v, w, hnv, hvt, hnw, hc⟩
  · by_contra hc
    exact ha ⟨w, v, hnw, hiff.2 (by simpa using hc), hnv, by simpa using hvt⟩

theorem ambiguous (h : g.Reordered g') (ha : g.Ambiguous a) : g'.Ambiguous a := by
  obtain ⟨v, w, hv, hvt, hw, hwt⟩ := ha
  exact ⟨v, w, h.nearest hv, h.tierOf_eq ▸ hvt, h.nearest hw, h.tierOf_eq ▸ hwt⟩

/-- Whether some rule on paths is broken does not depend on the order, as long as every ambiguous
landing of a component token passes names with the same edges only. -/
theorem exists_isOnPath_iff (h : g.Reordered g')
    (he : ∀ d ∈ g.declarations, d.tier = .component → ∀ r ∈ d.references, g.Ambiguous r.name →
      ∀ k u, g.Passes r.name k u → g.declares u → g.tierOf u = .unknown →
        g.edges u = g'.edges u) :
    (∃ f ∈ g.check c, f.isOnPath) ↔ ∃ f ∈ g'.check c, f.isOnPath := by
  have hlands : ∀ d ∈ g.declarations, d.tier = .component → ∀ r ∈ d.references,
      ∀ tiers : Tier → Bool, tiers = Tier.isToken ∨ tiers = (· == .component) →
        (g.LandsOn r.name tiers ↔ g'.LandsOn r.name tiers) := by
    intro d hd hc r hr tiers ht
    by_cases ha : g.Ambiguous r.name
    · have hl := landing?_congr h.declares_eq h.tierOf_eq (he d hd hc r hr ha)
      rw [LandsOn, LandsOn, hl, h.tierOf_eq]
    · exact ⟨h.landsOn_of_not_ambiguous ha ht,
        h.symm.landsOn_of_not_ambiguous (fun ha' => ha (h.symm.ambiguous ha')) ht⟩
  have hcycles : g.cycles = [] ↔ g'.cycles = [] := by
    simp only [cycles_eq_nil_iff, IsClosedWalk, h.edge_iff]
  rw [Graph.exists_isOnPath_iff, Graph.exists_isOnPath_iff, ne_eq, ne_eq, hcycles]
  refine or_congr_right (exists_congr fun d => ?_)
  rw [h.declarations.mem_iff]
  refine and_congr_right fun hd => and_congr_right fun hc => ?_
  have hl := hlands d (h.declarations.mem_iff.2 hd) hc
  rw [orderFinding_ne_nil_iff, orderFinding_ne_nil_iff]
  refine or_congr (exists_congr fun r => and_congr_right fun hr => hl r hr _ (Or.inr rfl))
    (and_congr_right fun _ => not_congr ?_)
  exact exists_congr fun r => and_congr_right fun hr => hl r hr _ (Or.inl rfl)

end Reordered

end Graph

end BeamLint
