import BeamLint.Proofs.Variable.Findings
import BeamLint.Proofs.Variable.LandingOrder
import Mathlib

/-!
# Which component tokens miss a fallback

What the rule on missing fallbacks has to say on a declaration is told by where its references land
(`OrderVerdict`): it speaks on the first reference that lands on a component token; where none does,
on a literal at the end of the chain, unless a reference lands on a token of the theme. There is one
verdict on every declaration, and the rule finds what the verdicts on the component declarations of
names on no reported cycle say, and nothing else (`orderFindings_perm`).
-/

namespace BeamLint.Graph

variable {g : Graph} {d : Declaration}

/-- The walk from `a` lands on a name of one of the tiers. -/
def LandsIn (g : Graph) (a : String) (tiers : List Tier) : Prop :=
  ∃ v, g.IsLanding a v ∧ g.tierOf v ∈ tiers

/-- What there is to say on the tiers that a declaration falls back to. -/
inductive OrderVerdict (g : Graph) (d : Declaration) : Option Diagnostic → Prop where
  /-- A reference lands on a component token, and none before it does. -/
  | component {before after : List Reference} {r : Reference} {v : String}
      (e : d.references = before ++ r :: after)
      (first : ∀ s ∈ before, ¬ g.LandsIn s.name [.component]) (hv : g.IsLanding r.name v)
      (ht : g.tierOf v = .component) : OrderVerdict g d (some (componentFinding d r v))
  /-- No reference lands on a component token or on one of the theme, and there is a literal. -/
  | literal {l : String} (hl : d.literal = some l)
      (hc : ∀ r ∈ d.references, ¬ g.LandsIn r.name [.component])
      (ht : ∀ r ∈ d.references, ¬ g.LandsIn r.name [.semantic, .primitive]) :
      OrderVerdict g d (some (literalFinding d l))
  /-- No reference lands on a component token, and there is no literal, or a reference lands on a
  token of the theme. -/
  | silent (hc : ∀ r ∈ d.references, ¬ g.LandsIn r.name [.component])
      (h : d.literal = none ∨ ∃ r ∈ d.references, g.LandsIn r.name [.semantic, .primitive]) :
      OrderVerdict g d none

/-! ### One verdict on every declaration -/

/-- The first reference that lands on a component token is told by the references. -/
theorem eq_of_first {before after before' after' : List Reference} {r r' : Reference}
    (e : before ++ r :: after = before' ++ r' :: after')
    (first : ∀ s ∈ before, ¬ g.LandsIn s.name [.component]) (hr : g.LandsIn r.name [.component])
    (first' : ∀ s ∈ before', ¬ g.LandsIn s.name [.component])
    (hr' : g.LandsIn r'.name [.component]) : r = r' := by
  rcases List.append_eq_append_iff.1 e with ⟨more, rfl, h⟩ | ⟨more, rfl, h⟩
  · cases more with
    | nil => exact (List.cons.inj h).1
    | cons s more =>
      obtain rfl : r = s := (List.cons.inj h).1
      exact absurd hr (first' r (by simp))
  · cases more with
    | nil => exact (List.cons.inj h).1.symm
    | cons s more =>
      obtain rfl : r' = s := (List.cons.inj h).1
      exact absurd hr' (first r' (by simp))

theorem OrderVerdict.unique {x y : Option Diagnostic} (hx : g.OrderVerdict d x)
    (hy : g.OrderVerdict d y) : x = y := by
  -- A landing on a component token is at odds with the two other verdicts.
  have conflict {before after : List Reference} {r : Reference} {v : String}
      (e : d.references = before ++ r :: after) (hv : g.IsLanding r.name v)
      (ht : g.tierOf v = .component) (hc : ∀ r ∈ d.references, ¬ g.LandsIn r.name [.component]) :
      False :=
    hc r (by simp [e]) ⟨v, hv, by simp [ht]⟩
  cases hx with
  | component e first hv ht =>
    cases hy with
    | component e' first' hv' ht' =>
      obtain rfl := eq_of_first (e.symm.trans e') first ⟨_, hv, by simp [ht]⟩ first'
        ⟨_, hv', by simp [ht']⟩
      rw [hv.unique hv']
    | literal _ hc _ => exact (conflict e hv ht hc).elim
    | silent hc _ => exact (conflict e hv ht hc).elim
  | literal hl hc ht =>
    cases hy with
    | component e' _ hv' ht' => exact (conflict e' hv' ht' hc).elim
    | literal hl' _ _ => rw [Option.some.inj (hl.symm.trans hl')]
    | silent _ h =>
      rcases h with h | ⟨r, hr, h⟩
      · simp [hl] at h
      · exact absurd h (ht r hr)
  | silent hc h =>
    cases hy with
    | component e' _ hv' ht' => exact (conflict e' hv' ht' hc).elim
    | literal hl _ ht =>
      rcases h with h | ⟨r, hr, h⟩
      · simp [hl] at h
      · exact absurd h (ht r hr)
    | silent _ _ => rfl

theorem mem_landings_iff {rs : List Reference} {r : Reference} {v : String} :
    (r, v) ∈ g.landings rs ↔ r ∈ rs ∧ g.IsLanding r.name v := by
  simp [landings, landing?_eq_some_iff]

/-- The references before the first one that lands on a component token. -/
theorem exists_first_landing {rs : List Reference} {r : Reference} {v : String}
    (h : (g.landings rs).find? (fun p => g.tierOf p.2 == .component) = some (r, v)) :
    ∃ before after, rs = before ++ r :: after ∧
      (∀ s ∈ before, ¬ g.LandsIn s.name [.component]) ∧ g.IsLanding r.name v := by
  induction rs with
  | nil => simp [landings] at h
  | cons s rs ih =>
    -- Where the first reference lands decides whether the search goes on.
    have skip (hs : ¬ g.LandsIn s.name [.component])
        (h : (g.landings rs).find? (fun p => g.tierOf p.2 == .component) = some (r, v)) :
        ∃ before after, s :: rs = before ++ r :: after ∧
          (∀ s ∈ before, ¬ g.LandsIn s.name [.component]) ∧ g.IsLanding r.name v := by
      obtain ⟨before, after, rfl, hb, hv⟩ := ih h
      exact ⟨s :: before, after, rfl, List.forall_mem_cons.2 ⟨hs, hb⟩, hv⟩
    cases hl : g.landing? s.name with
    | none =>
      refine skip ?_ (by simpa [landings, hl] using h)
      rintro ⟨w, hw, -⟩
      simp [landing?_eq_some_iff.2 hw] at hl
    | some w =>
      have hland := landing?_eq_some_iff.1 hl
      by_cases ht : g.tierOf w = .component
      · obtain ⟨rfl, rfl⟩ : s = r ∧ w = v := by simpa [landings, hl, ht] using h
        exact ⟨[], rs, rfl, by simp, hland⟩
      · refine skip ?_ (by simpa [landings, hl, ht] using h)
        rintro ⟨u, hu, htier⟩
        rw [hland.unique hu] at ht
        exact ht (by simpa using htier)

/-- The rule speaks the verdict. -/
theorem exists_orderVerdict (g : Graph) (d : Declaration) :
    ∃ x, g.OrderVerdict d x ∧ g.orderFinding d = x.toList := by
  unfold orderFinding
  dsimp only
  split
  · next r v hf =>
    obtain ⟨before, after, e, first, hv⟩ := exists_first_landing hf
    have ht : g.tierOf v = .component := by simpa using List.find?_some hf
    exact ⟨_, .component e first hv ht, rfl⟩
  · next hf =>
    have hc : ∀ r ∈ d.references, ¬ g.LandsIn r.name [.component] := by
      rintro r hr ⟨v, hv, ht⟩
      have hno := List.find?_eq_none.1 hf (r, v) (mem_landings_iff.2 ⟨hr, hv⟩)
      exact hno (by simpa using ht)
    split
    · next l hl =>
      split
      · next hany =>
        obtain ⟨⟨r, v⟩, hp, ht⟩ := List.any_eq_true.1 hany
        obtain ⟨hr, hv⟩ := mem_landings_iff.1 hp
        exact ⟨none, .silent hc (Or.inr ⟨r, hr, v, hv, by simpa [Tier.isToken] using ht⟩), rfl⟩
      · next hany =>
        refine ⟨_, .literal hl hc ?_, rfl⟩
        rintro r hr ⟨v, hv, ht⟩
        refine hany (List.any_eq_true.2 ⟨(r, v), mem_landings_iff.2 ⟨hr, hv⟩, ?_⟩)
        simpa [Tier.isToken] using ht
    · next hl => exact ⟨none, .silent hc (Or.inl hl), rfl⟩

/-! ### What the rule finds -/

/-- The declarations that the rule looks at: those of component tokens whose names are on no
reported cycle. -/
def orderChecked (g : Graph) (d : Declaration) : Bool :=
  d.tier = .component && decide (∀ cycle ∈ g.cycles, d.name ∉ cycle)

/-- Of the findings on a declaration, those of the rule. -/
theorem filter_declarationFindings (g : Graph) (c : Config) (d : Declaration) :
    ((g.declarationFindings c g.cycles.flatten d).filter fun f =>
      f.ruleId = Rule.missingSemanticFallback.id) =
      if g.orderChecked d then g.orderFinding d else [] := by
  have hreferences := filter_ruleId_eq_nil fun f (hf : f ∈ g.referenceFindings c d.name d.file
    d.references) => show f.ruleId ≠ Rule.missingSemanticFallback.id by
      rcases ruleId_of_mem_referenceFindings hf with h | h <;> simp [h, Rule.id_inj]
  have hcolor := filter_ruleId_eq_nil fun f (hf : f ∈ colorFinding d) =>
    show f.ruleId ≠ Rule.missingSemanticFallback.id by
      simp [ruleId_of_mem_colorFinding hf, Rule.id_inj]
  have horder : ((g.orderFinding d).filter fun f =>
      f.ruleId = Rule.missingSemanticFallback.id) = g.orderFinding d :=
    List.filter_eq_self.2 fun f hf => by simp [ruleId_of_mem_orderFinding hf]
  rw [declarationFindings, List.filter_append, hreferences, List.nil_append]
  by_cases ht : d.tier = .component
  · rw [if_pos ht, List.filter_append, hcolor, List.nil_append]
    by_cases hn : d.name ∈ g.cycles.flatten
    · have hcheck : g.orderChecked d = false := by simpa [orderChecked, ht] using hn
      rw [if_pos hn, hcheck]
      rfl
    · have hcheck : g.orderChecked d = true := by simpa [orderChecked, ht] using hn
      rw [if_neg hn, horder, hcheck]
      rfl
  · rw [if_neg ht]
    simp [orderChecked, ht]

/-- What the rule finds on a graph is what it finds on the declarations that it looks at. -/
theorem filter_check_perm (g : Graph) (c : Config) :
    ((g.check c).filter fun f => f.ruleId = Rule.missingSemanticFallback.id).Perm
      ((g.declarations.filter g.orderChecked).flatMap g.orderFinding) := by
  have hcycles := filter_ruleId_eq_nil fun f (hf : f ∈ g.cycles.flatMap g.cycleFinding) =>
    show f.ruleId ≠ Rule.missingSemanticFallback.id by
      obtain ⟨cycle, -, hf⟩ := List.mem_flatMap.1 hf
      simp [ruleId_of_mem_cycleFinding hf, Rule.id_inj]
  have husages := filter_ruleId_eq_nil fun f (hf : f ∈ g.usages.flatMap fun u =>
    g.referenceFindings c u.property u.file u.references) =>
    show f.ruleId ≠ Rule.missingSemanticFallback.id by
      obtain ⟨u, -, hf⟩ := List.mem_flatMap.1 hf
      rcases ruleId_of_mem_referenceFindings hf with h | h <;> simp [h, Rule.id_inj]
  have hchecked (ds : List Declaration) :
      (ds.flatMap fun d => if g.orderChecked d then g.orderFinding d else []) =
        (ds.filter g.orderChecked).flatMap g.orderFinding := by
    induction ds with
    | nil => rfl
    | cons d ds ih => by_cases h : g.orderChecked d <;> simp [h, ih]
  rw [check, List.filter_append, List.filter_append, hcycles, husages, List.nil_append,
    List.append_nil, ← List.flatMap_assoc, List.filter_flatMap]
  simp only [filter_declarationFindings, hchecked]
  exact ((flatMap_declarationsOf_perm g).filter _).flatMap_right _

/-- A declared name has the tier of one of its declarations. -/
theorem exists_tier_eq_tierOf {name : String} (h : g.declares name) :
    ∃ d ∈ g.declarationsOf name, d.tier = g.tierOf name := by
  by_contra hno
  have hlt : ∀ d ∈ g.declarationsOf name, d.tier.rank < (g.tierOf name).rank := by
    intro d hd
    have hle := rank_tierOf_le_iff.1 le_rfl d hd
    have hne : d.tier.rank ≠ (g.tierOf name).rank := fun e => hno ⟨d, hd, Tier.rank_inj.1 e⟩
    omega
  obtain ⟨d, hd, hn⟩ := declares_iff.1 h
  have hpos := hlt d (mem_declarationsOf.2 ⟨hd, hn⟩)
  have hle : (g.tierOf name).rank ≤ (g.tierOf name).rank - 1 :=
    rank_tierOf_le_iff.2 fun d hd => by
      have := hlt d hd
      omega
  omega

/-- **Which component tokens miss a fallback.** On every declaration there is one verdict, by where
its references land. The rule on missing fallbacks finds, for each declaration of a component token
whose name is on no reported cycle, what the verdict says: at most one finding, at the reference
that lands on a component token or at the declaration. It finds nothing else. A name has the
highest tier of its declarations. -/
theorem orderFindings_perm (g : Graph) (c : Config) :
    (∃ verdict : Declaration → Option Diagnostic,
      (∀ d x, g.OrderVerdict d x ↔ x = verdict d) ∧
        ((g.check c).filter fun f => f.ruleId = Rule.missingSemanticFallback.id).Perm
          ((g.declarations.filter g.orderChecked).filterMap verdict)) ∧
      (∀ d r v, (componentFinding d r v).locations = [r.location]) ∧
      (∀ d l, (literalFinding d l).locations = [d.location]) ∧
      ∀ name, (∀ d ∈ g.declarationsOf name, d.tier.rank ≤ (g.tierOf name).rank) ∧
        (g.declares name → ∃ d ∈ g.declarationsOf name, d.tier = g.tierOf name) := by
  refine ⟨?_, fun _ _ _ => rfl, fun _ _ => rfl, fun name => ⟨?_, exists_tier_eq_tierOf⟩⟩
  · choose verdict hverdict hfinding using g.exists_orderVerdict
    refine ⟨verdict, fun d x => ?_, ?_⟩
    · constructor
      · intro hx
        exact hx.unique (hverdict d)
      · rintro rfl
        exact hverdict d
    · have hspoken : g.orderFinding = fun d => (verdict d).toList := funext hfinding
      rw [List.filterMap_eq_flatMap_toList, ← hspoken]
      exact g.filter_check_perm c
  · exact rank_tierOf_le_iff.1 le_rfl

end BeamLint.Graph
