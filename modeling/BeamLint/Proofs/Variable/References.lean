import BeamLint.Proofs.Variable.Findings

/-!
# The findings on references

Two rules are on references: a reference to a name that is never declared, and a reference outside
the theme to a name that has a primitive declaration. `Graph.breaks` says which references break
them, and the findings of these rules are reported once at each of those references, whatever name
owns it and whether or not a fallback follows.
-/

namespace BeamLint

/-- The places at which a rule is reported. -/
def Rule.primaries (rule : Rule) (ds : List Diagnostic) : List Location :=
  (ds.filter fun d => d.ruleId = rule.id).map (·.primary)

/-- The rules on references. -/
def Rule.onReferences : List Rule := [.variableUnresolved, .primitiveLeak]

namespace Rule

@[simp] theorem primaries_append (rule : Rule) (as bs : List Diagnostic) :
    rule.primaries (as ++ bs) = rule.primaries as ++ rule.primaries bs := by
  simp [primaries]

theorem primaries_flatMap {α : Type} (rule : Rule) (f : α → List Diagnostic) (as : List α) :
    rule.primaries (as.flatMap f) = as.flatMap fun a => rule.primaries (f a) := by
  simp [primaries, List.filter_flatMap, List.map_flatMap]

theorem primaries_eq_nil {rule : Rule} {ds : List Diagnostic} (h : ∀ d ∈ ds, d.ruleId ≠ rule.id) :
    rule.primaries ds = [] := by
  rw [primaries, filter_ruleId_eq_nil h, List.map_nil]

/-- A rule on references is not the rule `other`, which is not on references. -/
theorem id_ne_of_mem_onReferences {rule other : Rule} (h : rule ∈ onReferences)
    (ho : other ∉ onReferences) : other.id ≠ rule.id := by
  intro e
  exact ho (id_inj.1 e ▸ h)

end Rule

theorem Tier.max_eq_primitive_iff {a b : Tier} :
    a.max b = .primitive ↔ a = .primitive ∨ b = .primitive := by
  cases a <;> cases b <;> decide

namespace Graph

variable (g : Graph) (c : Config)

/-- A name is primitive as soon as one of its declarations is. -/
theorem tierOf_eq_primitive_iff (name : String) :
    g.tierOf name = .primitive ↔ ∃ d ∈ g.declarations, d.name = name ∧ d.tier = .primitive := by
  have hfold : ∀ (ds : List Declaration) (t : Tier),
      ds.foldl (fun t d => t.max d.tier) t = .primitive ↔
        t = .primitive ∨ ∃ d ∈ ds, d.tier = .primitive := by
    intro ds
    induction ds with
    | nil => simp
    | cons d ds ih =>
      intro t
      simp [ih, Tier.max_eq_primitive_iff, or_assoc]
  rw [tierOf, hfold]
  simp [mem_declarationsOf, and_assoc]

/-- Whether a reference, in the theme or not, breaks the rule. -/
def breaks (rule : Rule) (fromTheme : Bool) (r : Reference) : Bool :=
  match rule with
  | .variableUnresolved => !g.declares r.name
  | .primitiveLeak => g.declares r.name && !fromTheme && g.tierOf r.name == .primitive
  | _ => false

theorem primaries_referenceFinding (rule : Rule) (owner : String) (fromTheme : Bool)
    (r : Reference) :
    rule.primaries (g.referenceFinding owner fromTheme r) =
      if g.breaks rule fromTheme r then [r.location] else [] := by
  unfold referenceFinding
  by_cases hd : g.declares r.name = true
  · by_cases hp : (!fromTheme && g.tierOf r.name == .primitive) = true
    · simp only [hd, hp]
      cases rule <;> simp_all [breaks, Rule.primaries, Rule.finding, Rule.id]
    · simp only [hd, hp]
      cases rule <;> simp_all [breaks, Rule.primaries]
  · simp only [hd]
    cases rule <;> simp_all [breaks, Rule.primaries, Rule.finding, Rule.id]

theorem primaries_referenceFindings (rule : Rule) (owner file : String) (rs : List Reference) :
    rule.primaries (g.referenceFindings c owner file rs) =
      (rs.filter (g.breaks rule (c.isTheme file))).map (·.location) := by
  rw [referenceFindings, Rule.primaries_flatMap]
  simp only [primaries_referenceFinding]
  induction rs with
  | nil => rfl
  | cons r rs ih =>
    rw [List.flatMap_cons, ih]
    by_cases h : g.breaks rule (c.isTheme file) r = true
    · simp [h]
    · simp [h]

variable {rule : Rule}

theorem primaries_declarationFindings (h : rule ∈ Rule.onReferences) (onCycle : List String)
    (d : Declaration) :
    rule.primaries (g.declarationFindings c onCycle d) =
      (d.references.filter (g.breaks rule (c.isTheme d.file))).map (·.location) := by
  rw [declarationFindings, Rule.primaries_append, primaries_referenceFindings,
    Rule.primaries_eq_nil, List.append_nil]
  intro f hf
  split at hf
  · rcases List.mem_append.1 hf with hf | hf
    · rw [ruleId_of_mem_colorFinding hf]
      exact Rule.id_ne_of_mem_onReferences h (by decide)
    · split at hf
      · simp at hf
      · rw [ruleId_of_mem_orderFinding hf]
        exact Rule.id_ne_of_mem_onReferences h (by decide)
  · simp at hf

/-- A rule on references is reported at the references that break it, those of the declarations and
those of the uses. -/
theorem primaries_check_perm (h : rule ∈ Rule.onReferences) :
    (rule.primaries (g.check c)).Perm
      ((g.declarations.flatMap fun d =>
          (d.references.filter (g.breaks rule (c.isTheme d.file))).map (·.location)) ++
        g.usages.flatMap fun u =>
          (u.references.filter (g.breaks rule (c.isTheme u.file))).map (·.location)) := by
  have hcycles : rule.primaries (g.cycles.flatMap g.cycleFinding) = [] := by
    refine Rule.primaries_eq_nil fun f hf => ?_
    obtain ⟨cycle, -, hf⟩ := List.mem_flatMap.1 hf
    rw [ruleId_of_mem_cycleFinding hf]
    exact Rule.id_ne_of_mem_onReferences h (by decide)
  rw [check, Rule.primaries_append, Rule.primaries_append, hcycles, List.nil_append,
    ← List.flatMap_assoc, Rule.primaries_flatMap, Rule.primaries_flatMap]
  simp only [primaries_declarationFindings g c h, primaries_referenceFindings]
  exact ((flatMap_declarationsOf_perm g).flatMap_right _).append_right _

end Graph

end BeamLint
