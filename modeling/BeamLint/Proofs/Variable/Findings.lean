import BeamLint.Proofs.Variable.FirstPath
import BeamLint.Variable.TierRules

/-!
# The findings on a graph, rule by rule

Every check on the graph reports under rules of its own: the cycles, the references, the colors and
the order of the tiers. So the findings of one rule can be told apart by where they come from.
-/

namespace BeamLint

theorem Rule.id_inj {a b : Rule} : a.id = b.id ↔ a = b := by
  cases a <;> cases b <;> simp [Rule.id]

theorem Tier.rank_inj {a b : Tier} : a.rank = b.rank ↔ a = b := by
  cases a <;> cases b <;> simp [Tier.rank]

theorem Tier.rank_max_le_iff {a b : Tier} {n : Nat} :
    (a.max b).rank ≤ n ↔ a.rank ≤ n ∧ b.rank ≤ n := by
  unfold Tier.max
  split <;> omega

/-- A finding of one of the rules is not one of a rule that is not among them. -/
theorem Rule.ruleId_ne {rules : List Rule} {rule : Rule} {d : Diagnostic}
    (h : ∃ other ∈ rules, d.ruleId = other.id) (hr : rule ∉ rules) : d.ruleId ≠ rule.id := by
  obtain ⟨other, ho, e⟩ := h
  intro e'
  exact hr (id_inj.1 (e.symm.trans e') ▸ ho)

theorem filter_ruleId_eq_nil {rule : Rule} {ds : List Diagnostic}
    (h : ∀ d ∈ ds, d.ruleId ≠ rule.id) : (ds.filter fun d => d.ruleId = rule.id) = [] := by
  simpa using h

/-- The rules that are applied to the graph. -/
def Rule.ofGraph : List Rule :=
  [.variableCycle, .variableUnresolved, .hardcodedColor, .missingSemanticFallback, .primitiveLeak]

/-- The finding is one of the rule, with the severity of the rule. -/
structure Diagnostic.IsOf (f : Diagnostic) (rule : Rule) : Prop where
  ruleId : f.ruleId = rule.id
  severity : f.severity = rule.severity

namespace Graph

theorem mem_declarationsOf {g : Graph} {name : String} {d : Declaration} :
    d ∈ g.declarationsOf name ↔ d ∈ g.declarations ∧ d.name = name := by
  simp [declarationsOf]

theorem declares_iff {g : Graph} {name : String} :
    g.declares name ↔ ∃ d ∈ g.declarations, d.name = name := by
  simp [declares]

theorem exists_head?_declarationsOf {g : Graph} {name : String} (h : g.declares name) :
    ∃ d, (g.declarationsOf name).head? = some d := by
  obtain ⟨d, hd, hn⟩ := declares_iff.1 h
  refine Option.ne_none_iff_exists'.1 fun hnil => ?_
  rw [List.head?_eq_none_iff] at hnil
  simpa [hnil] using mem_declarationsOf.2 ⟨hd, hn⟩

/-- The tier of a name is the least that none of its declarations exceeds. -/
theorem rank_tierOf_le_iff {g : Graph} {name : String} {n : Nat} :
    (g.tierOf name).rank ≤ n ↔ ∀ d ∈ g.declarationsOf name, d.tier.rank ≤ n := by
  have hfold (ds : List Declaration) (t : Tier) :
      (ds.foldl (fun t d => t.max d.tier) t).rank ≤ n ↔
        t.rank ≤ n ∧ ∀ d ∈ ds, d.tier.rank ≤ n := by
    induction ds generalizing t with
    | nil => simp
    | cons d ds ih =>
      rw [List.foldl_cons, ih, Tier.rank_max_le_iff, List.forall_mem_cons, and_assoc]
  rw [tierOf, hfold]
  simp [Tier.rank]

/-- The declarations by name, the names in increasing order, are the declarations. -/
theorem flatMap_declarationsOf_perm (g : Graph) :
    (g.names.flatMap g.declarationsOf).Perm g.declarations :=
  flatMap_filter_perm Declaration.name g.nodup_names fun d hd =>
    (g.mem_names_iff _).2 (declares_iff.2 ⟨d, hd, rfl⟩)

/-- The findings on a graph are those on its cycles, its declarations and its uses. -/
theorem mem_check {g : Graph} {c : Config} {f : Diagnostic} :
    f ∈ g.check c ↔ (∃ cycle ∈ g.cycles, f ∈ g.cycleFinding cycle) ∨
      (∃ d ∈ g.declarations, f ∈ g.declarationFindings c g.cycles.flatten d) ∨
      ∃ u ∈ g.usages, f ∈ g.referenceFindings c u.property u.file u.references := by
  have hd : (f ∈ g.names.flatMap fun name =>
      (g.declarationsOf name).flatMap (g.declarationFindings c g.cycles.flatten)) ↔
      ∃ d ∈ g.declarations, f ∈ g.declarationFindings c g.cycles.flatten d := by
    rw [← List.flatMap_assoc, List.mem_flatMap]
    simp only [(flatMap_declarationsOf_perm g).mem_iff]
  rw [check, List.mem_append, List.mem_append, List.mem_flatMap, hd, List.mem_flatMap, or_assoc]

theorem isOf_of_mem_cycleFinding {g : Graph} {cycle : List String} {f : Diagnostic}
    (h : f ∈ g.cycleFinding cycle) : f.IsOf .variableCycle := by
  unfold cycleFinding at h
  dsimp only at h
  split at h
  · rw [List.mem_singleton.1 h]
    exact ⟨rfl, rfl⟩
  · simp at h

theorem ruleId_of_mem_cycleFinding {g : Graph} {cycle : List String} {f : Diagnostic}
    (h : f ∈ g.cycleFinding cycle) : f.ruleId = Rule.variableCycle.id :=
  (isOf_of_mem_cycleFinding h).ruleId

theorem ruleId_of_mem_referenceFinding {g : Graph} {owner : String} {fromTheme : Bool}
    {r : Reference} {f : Diagnostic} (h : f ∈ g.referenceFinding owner fromTheme r) :
    f.ruleId = Rule.variableUnresolved.id ∨ f.ruleId = Rule.primitiveLeak.id := by
  unfold referenceFinding at h
  split at h
  · rw [List.mem_singleton.1 h]
    exact Or.inl rfl
  · split at h
    · rw [List.mem_singleton.1 h]
      exact Or.inr rfl
    · simp at h

theorem ruleId_of_mem_referenceFindings {g : Graph} {c : Config} {owner file : String}
    {rs : List Reference} {f : Diagnostic} (h : f ∈ g.referenceFindings c owner file rs) :
    f.ruleId = Rule.variableUnresolved.id ∨ f.ruleId = Rule.primitiveLeak.id := by
  obtain ⟨r, -, hr⟩ := List.mem_flatMap.1 h
  exact ruleId_of_mem_referenceFinding hr

theorem ruleId_of_mem_colorFinding {d : Declaration} {f : Diagnostic} (h : f ∈ colorFinding d) :
    f.ruleId = Rule.hardcodedColor.id := by
  unfold colorFinding at h
  split at h
  · rw [List.mem_singleton.1 h]
    rfl
  · simp at h

theorem isOf_of_mem_orderFinding {g : Graph} {d : Declaration} {f : Diagnostic}
    (h : f ∈ g.orderFinding d) : f.IsOf .missingSemanticFallback := by
  unfold orderFinding at h
  dsimp only at h
  split at h
  · rw [List.mem_singleton.1 h]
    exact ⟨rfl, rfl⟩
  · split at h
    · split at h
      · simp at h
      · rw [List.mem_singleton.1 h]
        exact ⟨rfl, rfl⟩
    · simp at h

theorem ruleId_of_mem_orderFinding {g : Graph} {d : Declaration} {f : Diagnostic}
    (h : f ∈ g.orderFinding d) : f.ruleId = Rule.missingSemanticFallback.id :=
  (isOf_of_mem_orderFinding h).ruleId

theorem mem_declarationFindings {g : Graph} {c : Config} {onCycle : List String} {d : Declaration}
    {f : Diagnostic} :
    f ∈ g.declarationFindings c onCycle d ↔
      f ∈ g.referenceFindings c d.name d.file d.references ∨
        d.tier = .component ∧ (f ∈ colorFinding d ∨ d.name ∉ onCycle ∧ f ∈ g.orderFinding d) := by
  unfold declarationFindings
  by_cases ht : d.tier = .component
  · by_cases hn : d.name ∈ onCycle
    · simp [ht, hn]
    · simp [ht, hn]
  · simp [ht]

theorem exists_rule_of_mem_check {g : Graph} {c : Config} {f : Diagnostic} (h : f ∈ g.check c) :
    ∃ rule ∈ Rule.ofGraph, f.ruleId = rule.id := by
  have of_references {owner file : String} {rs : List Reference}
      (h : f ∈ g.referenceFindings c owner file rs) :
      ∃ rule ∈ Rule.ofGraph, f.ruleId = rule.id := by
    rcases ruleId_of_mem_referenceFindings h with e | e
    · exact ⟨.variableUnresolved, by decide, e⟩
    · exact ⟨.primitiveLeak, by decide, e⟩
  rcases mem_check.1 h with ⟨cycle, -, h⟩ | ⟨d, -, h⟩ | ⟨u, -, h⟩
  · exact ⟨.variableCycle, by decide, ruleId_of_mem_cycleFinding h⟩
  · rcases mem_declarationFindings.1 h with h | ⟨-, h | ⟨-, h⟩⟩
    · exact of_references h
    · exact ⟨.hardcodedColor, by decide, ruleId_of_mem_colorFinding h⟩
    · exact ⟨.missingSemanticFallback, by decide, ruleId_of_mem_orderFinding h⟩
  · exact of_references h

/-- A missing fallback is reported for the component declarations of names on no reported cycle. -/
theorem mem_check_of_missingSemanticFallback {g : Graph} {c : Config} {f : Diagnostic}
    (hf : f.ruleId = Rule.missingSemanticFallback.id) :
    f ∈ g.check c ↔ ∃ d ∈ g.declarations, d.tier = .component ∧ d.name ∉ g.cycles.flatten ∧
      f ∈ g.orderFinding d := by
  rw [mem_check]
  constructor
  · rintro (⟨cycle, -, h⟩ | ⟨d, hd, h⟩ | ⟨u, -, h⟩)
    · simp [ruleId_of_mem_cycleFinding h, Rule.id_inj] at hf
    · rcases mem_declarationFindings.1 h with h | ⟨ht, h | ⟨hn, h⟩⟩
      · rcases ruleId_of_mem_referenceFindings h with h | h <;> simp [h, Rule.id_inj] at hf
      · simp [ruleId_of_mem_colorFinding h, Rule.id_inj] at hf
      · exact ⟨d, hd, ht, hn, h⟩
    · rcases ruleId_of_mem_referenceFindings h with h | h <;> simp [h, Rule.id_inj] at hf
  · rintro ⟨d, hd, ht, hn, h⟩
    exact Or.inr (Or.inl ⟨d, hd, mem_declarationFindings.2 (Or.inr ⟨ht, Or.inr ⟨hn, h⟩⟩)⟩)

end Graph

end BeamLint
