import BeamLint.Proofs.Variable.Landing
import BeamLint.Proofs.Variable.References
import Mathlib

/-!
# Graphs with the same declarations in another order

Two rules follow paths through the graph: the one on cycles and the one on missing fallbacks. What
they find depends on the order of the edges, and so on the order of the declarations. All other
rules find the same in graphs that only differ in the order of declarations and uses
(`Reordered.mem_check_iff`), and what they find is told by its key (`eq_of_key_eq`).

Where the declarations of each name are in the same order, every rule finds the same, and the
findings on cycles and declarations even come in the same order (`SameDeclarations`).
-/

namespace BeamLint

/-- The rules that follow paths through the graph. -/
def Rule.onPaths : List Rule := [.variableCycle, .missingSemanticFallback]

/-- Whether the finding is one of a rule that follows paths through the graph. -/
def Diagnostic.isOnPath (d : Diagnostic) : Bool := d.ruleId ∈ Rule.onPaths.map Rule.id

theorem Tier.max_right_comm (a b c : Tier) : (a.max b).max c = (a.max c).max b := by
  cases a <;> cases b <;> cases c <;> rfl

namespace Graph

variable {g g' : Graph} {c : Config}

/-! ### The order of declarations and uses -/

/-- The same declarations and uses, in whatever order. -/
structure Reordered (g g' : Graph) : Prop where
  declarations : g.declarations.Perm g'.declarations
  usages : g.usages.Perm g'.usages

/-- The findings of the rules that do not follow paths, by where they come from. -/
theorem mem_check_of_isOnPath_eq_false {f : Diagnostic} (hf : f.isOnPath = false) :
    f ∈ g.check c ↔
      (∃ d ∈ g.declarations, f ∈ g.referenceFindings c d.name d.file d.references ∨
        d.tier = .component ∧ f ∈ colorFinding d) ∨
      ∃ u ∈ g.usages, f ∈ g.referenceFindings c u.property u.file u.references := by
  have hcycle : f.ruleId ≠ Rule.variableCycle.id := by
    simp only [Diagnostic.isOnPath, Rule.onPaths, List.map_cons, List.mem_cons,
      decide_eq_false_iff_not, not_or] at hf
    exact hf.1
  have horder : f.ruleId ≠ Rule.missingSemanticFallback.id := by
    simp only [Diagnostic.isOnPath, Rule.onPaths, List.map_cons, List.mem_cons,
      decide_eq_false_iff_not, not_or] at hf
    exact hf.2.1
  rw [mem_check]
  constructor
  · rintro (⟨cycle, -, h⟩ | ⟨d, hd, h⟩ | h)
    · exact absurd (ruleId_of_mem_cycleFinding h) hcycle
    · rcases mem_declarationFindings.1 h with h | ⟨ht, h | ⟨-, h⟩⟩
      · exact Or.inl ⟨d, hd, Or.inl h⟩
      · exact Or.inl ⟨d, hd, Or.inr ⟨ht, h⟩⟩
      · exact absurd (ruleId_of_mem_orderFinding h) horder
    · exact Or.inr h
  · rintro (⟨d, hd, h⟩ | h)
    · refine Or.inr (Or.inl ⟨d, hd, mem_declarationFindings.2 ?_⟩)
      exact h.imp_right fun ⟨ht, h⟩ => ⟨ht, Or.inl h⟩
    · exact Or.inr (Or.inr h)

/-- The findings on references depend on which names are declared, and on their tiers. -/
theorem referenceFindings_congr (hd : g.declares = g'.declares) (ht : g.tierOf = g'.tierOf) :
    g.referenceFindings c = g'.referenceFindings c := by
  have hr : g.referenceFinding = g'.referenceFinding := by
    funext owner fromTheme r
    rw [referenceFinding, referenceFinding, hd, ht]
  funext owner file rs
  rw [referenceFindings, referenceFindings, hr]

namespace Reordered

theorem declarationsOf_perm (h : g.Reordered g') (name : String) :
    (g.declarationsOf name).Perm (g'.declarationsOf name) := h.declarations.filter _

theorem declares_eq (h : g.Reordered g') : g.declares = g'.declares := by
  funext name
  rw [Bool.eq_iff_iff, declares_iff, declares_iff]
  simp only [h.declarations.mem_iff]

theorem tierOf_eq (h : g.Reordered g') : g.tierOf = g'.tierOf := by
  funext name
  refine (h.declarationsOf_perm name).foldl_eq' (fun d _ e _ t => ?_) _
  exact Tier.max_right_comm t d.tier e.tier

theorem mem_edges_iff (h : g.Reordered g') {u v : String} : v ∈ g.edges u ↔ v ∈ g'.edges u := by
  simp only [edges, mem_firsts_id, List.mem_flatMap, (h.declarationsOf_perm u).mem_iff]

theorem edge_iff (h : g.Reordered g') {u v : String} : g.Edge u v ↔ g'.Edge u v := by
  simp only [Edge, h.declares_eq, h.mem_edges_iff]

/-- Rules that do not follow paths find the same in whatever order. -/
theorem mem_check_iff (h : g.Reordered g') {f : Diagnostic} (hf : f.isOnPath = false) :
    f ∈ g.check c ↔ f ∈ g'.check c := by
  rw [mem_check_of_isOnPath_eq_false hf, mem_check_of_isOnPath_eq_false hf,
    referenceFindings_congr h.declares_eq h.tierOf_eq]
  simp only [h.declarations.mem_iff, h.usages.mem_iff]

end Reordered

/-! ### Findings are told by their keys -/

/-- The references of all declarations and uses. -/
def references (g : Graph) : List Reference :=
  g.declarations.flatMap (·.references) ++ g.usages.flatMap (·.references)

/-- What is advised on a finding of a rule that does not follow paths; `name` is the name that is
referred to. -/
def advice (rule : Rule) (name : String) : String :=
  match rule with
  | .variableUnresolved => "Declare the token in the theme or remove the reference"
  | .primitiveLeak => s!"Reference a semantic token that wraps '{name}' instead"
  | _ => "Fall back to a semantic token from the theme instead of a hex value"

theorem exists_advice_of_mem_referenceFindings {owner file : String} {rs : List Reference}
    {f : Diagnostic} (h : f ∈ g.referenceFindings c owner file rs) :
    ∃ rule : Rule, ∃ r ∈ rs, f = rule.finding f.message r.location [] (advice rule r.name) := by
  obtain ⟨r, hr, h⟩ := List.mem_flatMap.1 h
  unfold referenceFinding at h
  split at h
  · exact ⟨.variableUnresolved, r, hr, by rw [List.mem_singleton.1 h]; rfl⟩
  · split at h
    · exact ⟨.primitiveLeak, r, hr, by rw [List.mem_singleton.1 h]; rfl⟩
    · simp at h

theorem eq_finding_of_mem_colorFinding {d : Declaration} {f : Diagnostic} (h : f ∈ colorFinding d) :
    f = Rule.hardcodedColor.finding f.message d.location [] (advice .hardcodedColor d.name) := by
  unfold colorFinding at h
  split at h
  · rw [List.mem_singleton.1 h]
    rfl
  · simp at h

/-- The finding is made up of its rule, its message, its place and an advice, which depends on a
name only where a reference to the name stands at the place. -/
def Advised (g : Graph) (f : Diagnostic) : Prop :=
  ∃ (rule : Rule) (name : String), f = rule.finding f.message f.primary [] (advice rule name) ∧
    (rule = .hardcodedColor ∨ ∃ r ∈ g.references, r.name = name ∧ r.location = f.primary)

theorem advised_of_mem_check {f : Diagnostic} (hf : f.isOnPath = false) (h : f ∈ g.check c) :
    g.Advised f := by
  have of_references {owner file : String} {rs : List Reference}
      (h : f ∈ g.referenceFindings c owner file rs) (hrs : ∀ r ∈ rs, r ∈ g.references) :
      g.Advised f := by
    obtain ⟨rule, r, hr, e⟩ := exists_advice_of_mem_referenceFindings h
    have hp : r.location = f.primary := by rw [e]; rfl
    exact ⟨rule, r.name, hp ▸ e, Or.inr ⟨r, hrs r hr, rfl, hp⟩⟩
  rcases (mem_check_of_isOnPath_eq_false hf).1 h with ⟨d, hd, h | ⟨-, h⟩⟩ | ⟨u, hu, h⟩
  · refine of_references h fun r hr => ?_
    exact List.mem_append_left _ (List.mem_flatMap.2 ⟨d, hd, hr⟩)
  · have e := eq_finding_of_mem_colorFinding h
    have hp : d.location = f.primary := by rw [e]; rfl
    exact ⟨_, _, hp ▸ e, Or.inl rfl⟩
  · refine of_references h fun r hr => ?_
    exact List.mem_append_right _ (List.mem_flatMap.2 ⟨u, hu, hr⟩)

/-- Where different references stand at different places, a key tells the finding of a rule that
does not follow paths. -/
theorem eq_of_key_eq
    (hr : ∀ r ∈ g.references, ∀ s ∈ g.references, r.location = s.location → r = s)
    {f f' : Diagnostic} (hf : f.isOnPath = false) (h : f ∈ g.check c) (h' : f' ∈ g.check c)
    (hk : f.key = f'.key) : f = f' := by
  simp only [Diagnostic.key, Prod.mk.injEq] at hk
  obtain ⟨hid, hp, hm⟩ := hk
  have hf' : f'.isOnPath = false := by rwa [Diagnostic.isOnPath, ← hid]
  obtain ⟨rule, name, e, hn⟩ := advised_of_mem_check hf h
  obtain ⟨rule', name', e', hn'⟩ := advised_of_mem_check hf' h'
  obtain rfl : rule = rule' := by
    rw [e, e'] at hid
    exact Rule.id_inj.1 hid
  have ha : advice rule name = advice rule name' := by
    rcases hn with rfl | ⟨r, hr₁, rfl, hl⟩
    · rfl
    · rcases hn' with rfl | ⟨s, hs, rfl, hl'⟩
      · rfl
      · rw [hr r hr₁ s hs (by rw [hl, hl', hp])]
  rw [e, e', hp, hm, ha]

/-! ### The same edges in the same order -/

/-- The same names are declared, with the same tiers and the same edges in the same order. -/
structure SameEdges (g g' : Graph) : Prop where
  declares_eq : g.declares = g'.declares
  tierOf_eq : g.tierOf = g'.tierOf
  edges_eq : g.edges = g'.edges

namespace SameEdges

theorem names_eq (h : g.SameEdges g') : g.names = g'.names := by
  refine List.Perm.eq_of_pairwise (fun a b _ _ => le_antisymm) (pairwise_increasing _)
    (pairwise_increasing _) ?_
  refine (List.perm_ext_iff_of_nodup g.nodup_names g'.nodup_names).2 fun name => ?_
  rw [mem_names_iff, mem_names_iff, h.declares_eq]

theorem searchFrom_eq (h : g.SameEdges g') (depth : Nat) :
    g.searchFrom depth = g'.searchFrom depth := by
  induction depth with
  | zero => funext trail s; rfl
  | succ depth ih =>
    funext trail s
    cases trail with
    | nil => rfl
    | cons name trail => rw [searchFrom, searchFrom, h.edges_eq, h.declares_eq, ih]

theorem cycles_eq (h : g.SameEdges g') : g.cycles = g'.cycles := by
  rw [cycles, cycles, h.names_eq, h.searchFrom_eq]

theorem declarationFindings_eq (h : g.SameEdges g') :
    g.declarationFindings c = g'.declarationFindings c := by
  have hl : g.landing? = g'.landing? := by
    funext name
    exact landing?_congr h.declares_eq h.tierOf_eq fun _ u _ _ _ => by rw [h.edges_eq]
  have ho : g.orderFinding = g'.orderFinding := by
    funext d
    rw [orderFinding, orderFinding, landings, landings, hl, h.tierOf_eq]
  funext onCycle d
  rw [declarationFindings, declarationFindings, ho,
    referenceFindings_congr h.declares_eq h.tierOf_eq]

end SameEdges

/-! ### The same declarations for every name -/

/-- The declarations of every name are the same, in the same order. -/
def SameDeclarations (g g' : Graph) : Prop := ∀ name, g.declarationsOf name = g'.declarationsOf name

namespace SameDeclarations

theorem sameEdges (h : g.SameDeclarations g') : g.SameEdges g' where
  declares_eq := by
    have hd (g : Graph) (name : String) : g.declares name = !(g.declarationsOf name).isEmpty := by
      rw [Bool.eq_iff_iff, declares_iff]
      simp [declarationsOf]
    funext name
    rw [hd, hd, h]
  tierOf_eq := by
    funext name
    rw [tierOf, tierOf, h]
  edges_eq := by
    funext name
    rw [edges, edges, h]

/-- The findings on cycles and on declarations come in the same order. -/
theorem check_eq (h : g.SameDeclarations g') :
    ∃ ds, g.check c =
        ds ++ g.usages.flatMap (fun u => g.referenceFindings c u.property u.file u.references) ∧
      g'.check c =
        ds ++ g'.usages.flatMap fun u => g'.referenceFindings c u.property u.file u.references := by
  refine ⟨_, rfl, ?_⟩
  have hc : g.cycleFinding = g'.cycleFinding := by
    funext cycle
    rw [cycleFinding, cycleFinding]
    simp only [h _]
  rw [check, h.sameEdges.cycles_eq, hc, h.sameEdges.names_eq, h.sameEdges.declarationFindings_eq]
  simp only [h _]

end SameDeclarations

end Graph

end BeamLint
