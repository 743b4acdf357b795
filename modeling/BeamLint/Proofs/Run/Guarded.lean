import BeamLint.Proofs.Source.Locations
import BeamLint.Proofs.Variable.ColorSearch
import BeamLint.Run

/-!
# Guarded runs

A run uses operations that have no result on some inputs: reading a class token, locating a place of
a text, adding to a graph builder, the steps of the cycle search, resolving a name, reporting at the
first of several locations. In a guarded run each of them fails with a `Fault` of its own where it
has no result, and only a class token that cannot be read is dealt with.

The facts that a guarded run takes are those that a run takes: every place that is located is a mark
of the scan (`Reading.Inside`), and marks stand in the text.
-/

namespace BeamLint

/-- An operation of a run that has no result. -/
inductive Fault where
  /-- A class token that cannot be read. -/
  | malformed (e : SelectorError)
  /-- A place beyond the end of the text. -/
  | outside (offset : Nat)
  /-- A contribution to a graph that is frozen. -/
  | frozen (e : FrozenError)
  /-- A step of the cycle search. -/
  | search (e : SearchFault)
  /-- A name that is never declared. -/
  | unresolved (e : Unresolved)
  /-- A finding without a location. -/
  | unlocated
  /-- A finding of a rule that is not listed. -/
  | unlisted (ruleId : String)
  deriving Repr, DecidableEq

/-- A computation that may meet an operation without a result. -/
abbrev Guarded := Except Fault

namespace Guarded

/-! ### Facts -/

/-- The location of a place in the text. -/
def locate (r : Reading) (offset : Nat) : Guarded Location :=
  if offset < r.text.length then .ok (r.locate offset) else .error (.outside offset)

/-- Reads one class token, and turns a fault of the token into a finding. -/
def token (r : Reading) (t : TokenSite) : Guarded (Except Diagnostic Occurrence) := do
  let location ← locate r t.offset
  tryCatch
    (do
      let selector ← (Selector.parse r.config.layoutPrefix t.text).mapError Fault.malformed
      return .ok ⟨selector, location⟩)
    fun
      | .malformed e => return .error (Reading.tokenFinding e location)
      | fault => throw fault

/-- The class tokens that can be read, and the findings on the others. -/
def tokens (r : Reading) (ts : List TokenSite) : Guarded (List Occurrence × List Diagnostic) := do
  let results ← ts.mapM (token r)
  return (results.filterMap Except.toOption, results.filterMap fun
    | .ok _ => none
    | .error d => some d)

/-- The references of a value, at their locations. -/
def references (r : Reading) (p : PropertySite) (v : Value) : Guarded (List Reference) :=
  v.references.mapM fun ref => do
    return ⟨ref.name, ← locate r (p.valueOffset + ref.offset), ref.hasFallback⟩

/-- A declaration; `tier` is its tier when the place decides it. -/
def declaration (r : Reading) (tier : Option Tier) (p : PropertySite) : Guarded Declaration := do
  let v := Value.parse p.value.toList
  return {
    name := p.name
    tier := tier.getD (.classify p.name r.isTheme r.config.primitivePrefix)
    references := ← references r p v
    literal := v.literal
    location := ← locate r p.offset }

/-- A use of custom properties, unless its value refers to none. -/
def usage? (r : Reading) (p : PropertySite) : Guarded (Option Usage) := do
  let v := Value.parse p.value.toList
  if v.references.isEmpty then return none
  else
    return some {
      property := p.name
      references := ← references r p v
      location := ← locate r p.offset
      fromTheme := r.isTheme }

/-- The findings of a stylesheet. -/
def stylesheet (r : Reading) (tier : Option Tier) (s : StylesheetScan) : Guarded Findings := do
  let (occurrences, diagnostics) ← tokens r s.classTokens
  let declarations ← s.declarations.mapM (declaration r tier)
  let usages ← s.usages.mapM (usage? r)
  return { occurrences, declarations, usages := usages.filterMap id, diagnostics }

/-- The findings of a class attribute; a token counts once. -/
def classAttribute (r : Reading) (a : ClassAttribute) : Guarded Findings := do
  let sites := firsts (·.text) a.tokens
  let (occurrences, diagnostics) ← tokens r sites
  let location ← locate r a.offset
  return { occurrences, classLists := [⟨sites.map (·.text), occurrences, location⟩], diagnostics }

/-- The findings of markup. -/
def markup (r : Reading) (m : MarkupScan) : Guarded Findings := do
  let elements ← stylesheet r none m.styleBlocks
  let attributes ← stylesheet r (some .unknown) m.inlineStyles
  m.classAttributes.foldlM (fun found a => do return found ++ (← classAttribute r a))
    (elements ++ attributes)

/-- The findings of a text of the given kind. -/
def findings (r : Reading) : SourceKind → Guarded Findings
  | .stylesheet => stylesheet r none (scanStylesheet 0 false r.text)
  | .markup => markup r (scanMarkup r.text)
  | .unknown => return {}

/-- The facts of a source with the findings of the rules that look at it alone. -/
def facts (c : Config) (s : Source) : Guarded Facts := do
  let kind := SourceKind.ofPath s.path
  let isTheme := c.isTheme s.path
  if kind = .unknown then return { path := s.path, kind, isTheme }
  else
    match s.content.decode with
    | none =>
      return {
        path := s.path, kind, isTheme, excluded := true
        found := { diagnostics := [unreadableFinding s.path] } }
    | some text =>
      let found ← findings ⟨c, s.path, isTheme, text.toList⟩ kind
      return {
        path := s.path, kind, isTheme
        found := { found with diagnostics := found.diagnostics ++ Facts.ruleFindings c found } }

/-! ### The graph -/

/-- Merges the contribution of a source, unless it cannot be read. -/
def contribute (b : GraphBuilder) (f : Facts) : Guarded GraphBuilder :=
  if f.excluded then return b
  else (b.merge f.found.declarations f.found.usages).mapError Fault.frozen

/-- The graph of the readable sources: all contributions are merged, then the builder is frozen. -/
def graph (facts : List Facts) : Guarded Graph := do
  let b ← facts.foldlM contribute {}
  return b.freeze.1

/-- The location of the first declaration of a name. -/
def firstLocation (g : Graph) (name : String) : Guarded Location := do
  match ← (g.resolve name).mapError Fault.unresolved with
  | d :: _ => return d.location
  | [] => throw .unlocated

/-- The finding on a cycle, at the first declarations of its names. -/
def cycleFinding (g : Graph) (cycle : List String) : Guarded (List Diagnostic) := do
  let chain := " -> ".intercalate (cycle ++ cycle.take 1)
  match ← cycle.mapM (firstLocation g) with
  | primary :: related =>
    return [Rule.variableCycle.finding s!"Custom property fallback cycle: {chain}" primary related
      "Break the cycle so the chain ends in a semantic token or literal"]
  | [] => throw .unlocated

/-- All findings on the graph. -/
def checkGraph (g : Graph) (c : Config) : Guarded (List Diagnostic) := do
  let cycles ← (ColorSearch.run g (.start g)).mapError Fault.search
  let onCycles ← cycles.mapM (cycleFinding g)
  return onCycles.flatten ++
    (g.names.flatMap fun name =>
      (g.declarationsOf name).flatMap (g.declarationFindings c cycles.flatten)) ++
    g.usages.flatMap fun u => g.referenceFindings c u.property u.file u.references

/-! ### Runs -/

/-- A finding, whose rule has to be listed. -/
def listed (d : Diagnostic) : Guarded Diagnostic :=
  if d.ruleId ∈ Rule.all.map Rule.id then .ok d else .error (.unlisted d.ruleId)

/-- The report on the sources, from a run that is not cancelled. -/
def report (c : Config) (sources : List Source) : Guarded Report := do
  let facts ← sources.mapM (facts c)
  let graph ← graph facts
  let onGraph ← checkGraph graph c
  let found ← (facts.flatMap (·.found.diagnostics) ++ onGraph).mapM listed
  return .aggregate found

end Guarded

/-! ### Computations that succeed -/

theorem mapM_eq_ok {ε α β : Type} {f : α → Except ε β} {g : α → β} {as : List α}
    (h : ∀ a ∈ as, f a = .ok (g a)) : as.mapM f = .ok (as.map g) := by
  induction as with
  | nil => rfl
  | cons a as ih =>
    obtain ⟨ha, has⟩ := List.forall_mem_cons.1 h
    rw [List.mapM_cons, ha, ih has]
    rfl

theorem foldlM_eq_ok {ε α β : Type} {f : β → α → Except ε β} {g : β → α → β} {as : List α}
    (h : ∀ a ∈ as, ∀ b, f b a = .ok (g b a)) (b : β) : as.foldlM f b = .ok (as.foldl g b) := by
  induction as generalizing b with
  | nil => rfl
  | cons a as ih =>
    obtain ⟨ha, has⟩ := List.forall_mem_cons.1 h
    rw [List.foldlM_cons, ha, List.foldl_cons]
    exact ih has (g b a)

/-! ### The facts of a source -/

namespace Reading

variable {r : Reading}

/-- The place lies in the text. -/
def Inside (r : Reading) (offset : Nat) : Prop := offset < r.text.length

theorem inside_of_standsIn {m : Mark} (h : m.StandsIn 0 r.text) : r.Inside m.place := by
  simpa [Inside] using h.lt

theorem guarded_locate {offset : Nat} (h : r.Inside offset) :
    Guarded.locate r offset = .ok (r.locate offset) := if_pos h

theorem guarded_token {t : TokenSite} (h : r.Inside t.offset) :
    Guarded.token r t = .ok (r.token t) := by
  rw [Guarded.token, guarded_locate h, Reading.token]
  cases Selector.parse r.config.layoutPrefix t.text with
  | ok s => rfl
  | error e => rfl

theorem guarded_tokens {ts : List TokenSite} (h : ∀ t ∈ ts, r.Inside t.offset) :
    Guarded.tokens r ts = .ok (r.occurrences ts, r.tokenFindings ts) := by
  have hread : ts.mapM (Guarded.token r) = .ok (ts.map r.token) :=
    mapM_eq_ok fun t ht => guarded_token (h t ht)
  rw [Guarded.tokens, hread]
  show Except.ok _ = _
  rw [List.filterMap_map, List.filterMap_map]
  rfl

theorem guarded_references {p : PropertySite} (h : ∀ m ∈ p.referenceMarks, r.Inside m.place) :
    Guarded.references r p (Value.parse p.value.toList) =
      .ok (r.references p (Value.parse p.value.toList)) := by
  refine mapM_eq_ok fun ref href => ?_
  have hin : r.Inside (p.valueOffset + ref.offset) := h _ (List.mem_map_of_mem href)
  rw [guarded_locate hin]
  rfl

theorem guarded_declaration {p : PropertySite} (tier : Option Tier)
    (h : ∀ m ∈ p.marks, r.Inside m.place) :
    Guarded.declaration r tier p = .ok (r.declaration tier p) := by
  obtain ⟨hname, hrefs⟩ := List.forall_mem_cons.1 h
  rw [Guarded.declaration, guarded_references hrefs, guarded_locate hname]
  rfl

theorem guarded_usage? {p : PropertySite} (h : ∀ m ∈ p.marks, r.Inside m.place) :
    Guarded.usage? r p = .ok (r.usage? p) := by
  obtain ⟨hname, hrefs⟩ := List.forall_mem_cons.1 h
  rw [Guarded.usage?, guarded_references hrefs, guarded_locate hname, Reading.usage?]
  dsimp only
  split <;> rfl

theorem guarded_stylesheet {s : StylesheetScan} (tier : Option Tier)
    (h : ∀ m ∈ s.marks, r.Inside m.place) :
    Guarded.stylesheet r tier s = .ok (r.stylesheet tier s) := by
  have hsite (p : PropertySite) (hp : p ∈ s.properties) : ∀ m ∈ p.marks, r.Inside m.place :=
    fun m hm => h m (StylesheetScan.mem_marks.2 (Or.inr ⟨p, hp, hm⟩))
  have htokens : Guarded.tokens r s.classTokens = _ := guarded_tokens fun t ht =>
    h t.dot (StylesheetScan.mem_marks.2 (Or.inl ⟨t, ht, rfl⟩))
  have hdeclarations : s.declarations.mapM (Guarded.declaration r tier) = _ :=
    mapM_eq_ok fun p hp => guarded_declaration tier (hsite p (List.mem_append_left _ hp))
  have husages : s.usages.mapM (Guarded.usage? r) = _ :=
    mapM_eq_ok fun p hp => guarded_usage? (hsite p (List.mem_append_right _ hp))
  rw [Guarded.stylesheet, htokens, hdeclarations, husages]
  show Except.ok _ = _
  rw [List.filterMap_map]
  rfl

theorem guarded_classAttribute {a : ClassAttribute} (ha : r.Inside a.offset)
    (h : ∀ t ∈ a.tokens, r.Inside t.offset) :
    Guarded.classAttribute r a = .ok (r.classAttribute a) := by
  have htokens : Guarded.tokens r (firsts (·.text) a.tokens) = _ :=
    guarded_tokens fun t ht => h t ((firsts_sublist _ _).subset ht)
  rw [Guarded.classAttribute]
  dsimp only
  rw [htokens, guarded_locate ha]
  rfl

/-- Every place that is located lies in the text, so the findings are the same. -/
theorem guarded_findings (r : Reading) (kind : SourceKind) :
    Guarded.findings r kind = .ok (r.findings kind) := by
  cases kind with
  | stylesheet =>
    refine guarded_stylesheet none fun m hm => inside_of_standsIn ?_
    simpa using (standsIn_of_mem_marks hm).1
  | markup =>
    have helements : Guarded.stylesheet r none (scanMarkup r.text).styleBlocks = _ :=
      guarded_stylesheet none fun m hm => inside_of_standsIn (standsIn_of_mem_styleBlocks hm).1
    have hattributes : Guarded.stylesheet r (some .unknown) (scanMarkup r.text).inlineStyles = _ :=
      guarded_stylesheet _ fun m hm => inside_of_standsIn (standsIn_of_mem_inlineStyles hm).1
    rw [Guarded.findings, Guarded.markup, helements, hattributes]
    refine foldlM_eq_ok (fun a ha found => ?_) _
    obtain ⟨hmark, htokens⟩ := standsIn_of_mem_classLists ha
    rw [guarded_classAttribute (inside_of_standsIn hmark.1) fun t ht =>
      inside_of_standsIn (htokens t ht).1]
    rfl
  | unknown => rfl

end Reading

theorem Facts.guarded_facts (c : Config) (s : Source) : Guarded.facts c s = .ok (check c s) := by
  unfold Guarded.facts check collect
  dsimp only
  -- How the kind is told from the path does not matter.
  generalize SourceKind.ofPath s.path = kind
  by_cases hk : kind = .unknown
  · simp [hk, pure, Except.pure]
  · rw [if_neg hk, if_neg hk]
    cases s.content.decode with
    | none => simp [pure, Except.pure]
    | some text =>
      dsimp only
      rw [Reading.guarded_findings]
      simp [hk, bind, Except.bind, pure, Except.pure]

end BeamLint
