import BeamLint.Proofs.Report.SourceOrder
import BeamLint.Proofs.Run.Guarded
import BeamLint.Proofs.Variable.Builder
import Mathlib

/-!
# Every run ends in a report

Under settings that can be used, every list of sources gets a report, and a guarded run gets the
same one: no contribution comes after the graph is frozen, the search for cycles takes every step
that it comes to, every name of a cycle is declared, and every finding is of a listed rule. A class
token that cannot be read does not end the run but is found fault with in the report
(`Report.EndsRun`).
-/

namespace BeamLint

/-! ### The graph -/

/-- Merging appends to the graph, and a builder that has not been frozen stays so. -/
theorem foldlM_contribute (facts : List Facts) (g : Graph) :
    facts.foldlM Guarded.contribute ⟨g, false⟩ =
      .ok ⟨⟨g.declarations ++ (Run.graphOf facts).declarations,
        g.usages ++ (Run.graphOf facts).usages⟩, false⟩ := by
  induction facts generalizing g with
  | nil => simp [Run.graphOf, pure, Except.pure]
  | cons f facts ih =>
    rw [List.foldlM_cons]
    by_cases hf : f.excluded
    · have hstep : Guarded.contribute ⟨g, false⟩ f = .ok ⟨g, false⟩ := if_pos hf
      rw [hstep]
      refine (ih g).trans ?_
      simp [Run.graphOf, hf]
    · have hstep : Guarded.contribute ⟨g, false⟩ f =
          .ok ⟨⟨g.declarations ++ f.found.declarations, g.usages ++ f.found.usages⟩, false⟩ :=
        if_neg hf
      rw [hstep]
      refine (ih _).trans ?_
      simp [Run.graphOf, hf]

theorem guarded_graph (facts : List Facts) : Guarded.graph facts = .ok (Run.graphOf facts) := by
  have hmerged : facts.foldlM Guarded.contribute {} = _ := foldlM_contribute facts {}
  rw [Guarded.graph, hmerged]
  simp [bind, Except.bind, pure, Except.pure, GraphBuilder.freeze]

namespace Graph

variable {g : Graph} {cycle : List String}

theorem exists_resolve_eq {name : String} (h : g.declares name) :
    ∃ d ds, g.declarationsOf name = d :: ds ∧ g.resolve name = .ok (d :: ds) := by
  obtain ⟨d, hd⟩ := exists_head?_declarationsOf h
  obtain ⟨ds, hds⟩ := List.head?_eq_some_iff.1 hd
  exact ⟨d, ds, hds, resolve_eq_ok_iff.2 ⟨List.cons_ne_nil d ds, hds.symm⟩⟩

/-- Declared names all have a first declaration, so none is left out. -/
theorem mapM_firstLocation {names : List String} (h : ∀ name ∈ names, g.declares name) :
    names.mapM (Guarded.firstLocation g) =
      .ok (names.filterMap fun name => (g.declarationsOf name).head?.map (·.location)) := by
  induction names with
  | nil => rfl
  | cons name names ih =>
    obtain ⟨hname, hnames⟩ := List.forall_mem_cons.1 h
    obtain ⟨d, ds, hds, hresolve⟩ := exists_resolve_eq hname
    have hfirst : Guarded.firstLocation g name = .ok d.location := by
      rw [Guarded.firstLocation, hresolve]
      rfl
    rw [List.mapM_cons, hfirst, ih hnames, List.filterMap_cons, hds]
    rfl

theorem guarded_cycleFinding (h : cycle ∈ g.cycles) :
    Guarded.cycleFinding g cycle = .ok (g.cycleFinding cycle) := by
  rw [Guarded.cycleFinding, mapM_firstLocation fun name => declares_of_mem_cycles h, cycleFinding]
  cases cycle with
  | nil => exact absurd rfl (isCanonicalCycle_of_mem_cycles h).closedWalk.1
  | cons name names =>
    obtain ⟨d, ds, hds, -⟩ := exists_resolve_eq (declares_of_mem_cycles h List.mem_cons_self)
    rw [List.filterMap_cons, hds]
    rfl

theorem guarded_check (g : Graph) (c : Config) : Guarded.checkGraph g c = .ok (g.check c) := by
  have hcycles : g.cycles.mapM (Guarded.cycleFinding g) = .ok (g.cycles.map g.cycleFinding) :=
    mapM_eq_ok fun cycle h => guarded_cycleFinding h
  rw [Guarded.checkGraph, ColorSearch.run_start]
  simp only [Except.mapError, bind, Except.bind, hcycles, pure, Except.pure, check,
    List.flatMap_def]

end Graph

/-! ### Findings of listed rules -/

/-- The finding is of a listed rule. -/
def Diagnostic.IsListed (d : Diagnostic) : Prop := d.ruleId ∈ Rule.all.map Rule.id

theorem Diagnostic.isListed_of_ruleId_eq {d : Diagnostic} {rule : Rule} (h : d.ruleId = rule.id) :
    d.IsListed := List.mem_map.2 ⟨rule, rule.mem_all, h.symm⟩

/-- Whatever is found, in the sources or in their graph, is of a listed rule. -/
theorem isListed_of_mem_findings {c : Config} {sources : List Source} {d : Diagnostic}
    (h : d ∈ sourceFindings c sources ++ (sourceGraph c sources).check c) : d.IsListed := by
  rcases List.mem_append.1 h with h | h
  · obtain ⟨s, -, h⟩ := List.mem_flatMap.1 h
    obtain ⟨rule, -, e⟩ := Facts.ofSource_of_mem_check c s h
    exact Diagnostic.isListed_of_ruleId_eq e
  · obtain ⟨rule, -, e⟩ := Graph.exists_rule_of_mem_check h
    exact Diagnostic.isListed_of_ruleId_eq e

theorem guarded_report (c : Config) (sources : List Source) :
    Guarded.report c sources = .ok (sourceReport c sources) := by
  have hfacts : sources.mapM (Guarded.facts c) = .ok (sources.map (Facts.check c)) :=
    mapM_eq_ok fun s _ => Facts.guarded_facts c s
  have hlisted : (sourceFindings c sources ++ (sourceGraph c sources).check c).mapM Guarded.listed =
      .ok (sourceFindings c sources ++ (sourceGraph c sources).check c) := by
    refine (mapM_eq_ok (g := id) fun d hd => ?_).trans (by rw [List.map_id])
    exact if_pos (isListed_of_mem_findings hd)
  simp only [Guarded.report, hfacts, bind, Except.bind, guarded_graph, Graph.guarded_check,
    graphOf_check, List.flatMap_map]
  change (sourceFindings c sources ++ (sourceGraph c sources).check c).mapM Guarded.listed >>= _ = _
  rw [hlisted]
  rfl

/-! ### Class tokens that cannot be read -/

namespace Reading

/-- The class tokens that are read in a text of the given kind. -/
def classTokens (r : Reading) : SourceKind → List TokenSite
  | .stylesheet => (scanStylesheet 0 false r.text).classTokens
  | .markup =>
    let m := scanMarkup r.text
    m.styleBlocks.classTokens ++ m.inlineStyles.classTokens ++
      m.classAttributes.flatMap fun a => firsts (·.text) a.tokens
  | .unknown => []

theorem diagnostics_foldl_classAttribute (r : Reading) (as : List ClassAttribute) (f : Findings) :
    (as.foldl (fun found a => found ++ r.classAttribute a) f).diagnostics =
      f.diagnostics ++ r.tokenFindings (as.flatMap fun a => firsts (·.text) a.tokens) := by
  induction as generalizing f with
  | nil => simp [tokenFindings]
  | cons a as ih =>
    rw [List.foldl_cons, ih, List.flatMap_cons, tokenFindings, tokenFindings,
      List.filterMap_append, ← List.append_assoc]
    rfl

/-- What is found fault with while a text is read are its class tokens. -/
theorem diagnostics_findings (r : Reading) (kind : SourceKind) :
    (r.findings kind).diagnostics = r.tokenFindings (r.classTokens kind) := by
  cases kind with
  | stylesheet => rfl
  | markup =>
    rw [findings, markup, diagnostics_foldl_classAttribute, classTokens, tokenFindings,
      tokenFindings, List.filterMap_append, List.filterMap_append]
    rfl
  | unknown => rfl

theorem tokenFinding_mem_tokenFindings {r : Reading} {ts : List TokenSite} {t : TokenSite}
    {e : SelectorError} (ht : t ∈ ts)
    (he : Selector.parse r.config.layoutPrefix t.text = .error e) :
    tokenFinding e (r.locate t.offset) ∈ r.tokenFindings ts :=
  List.mem_filterMap.2 ⟨t, ht, by simp [token, he]⟩

end Reading

/-- How a source that can be read is read. -/
def Source.reading (c : Config) (s : Source) (text : String) : Reading :=
  ⟨c, s.path, c.isTheme s.path, text.toList⟩

/-- A class token that cannot be read is found fault with. -/
theorem Facts.tokenFinding_mem_check {c : Config} {s : Source} {text : String}
    (hs : s.content.decode = some text) {t : TokenSite} {e : SelectorError}
    (ht : t ∈ (s.reading c text).classTokens (SourceKind.ofPath s.path))
    (he : Selector.parse c.layoutPrefix t.text = .error e) :
    Reading.tokenFinding e ((s.reading c text).locate t.offset) ∈
      (check c s).found.diagnostics := by
  obtain ⟨ds, -, hcheck⟩ := check_cases c s
  have hfound : (collect c s).found = (s.reading c text).findings (SourceKind.ofPath s.path) := by
    simp only [collect_eq c s hs, Source.reading]
  rw [hcheck]
  refine List.mem_append_left _ ?_
  rw [hfound, Reading.diagnostics_findings]
  exact Reading.tokenFinding_mem_tokenFindings ht he

/-! ### Runs -/

/-- What is found is reported, if only by an earlier finding that it repeats. -/
theorem Report.exists_key_eq_of_mem {d : Diagnostic} {ds : List Diagnostic} (h : d ∈ ds) :
    ∃ e ∈ (aggregate ds).diagnostics, e.key = d.key := by
  have hkey := exists_mem_aggregate_iff (p := fun key => key = d.key).2 ⟨d, h, by simp⟩
  simpa using hkey

/-- What holds of a run on the sources that ends in the report. -/
structure Report.EndsRun (r : Report) (c : Config) (sources : List Source) : Prop where
  /-- No operation of the run lacks a result. -/
  guarded : Guarded.report c sources = .ok r
  /-- A class token that cannot be read is in the report, with its fault and at its place. -/
  refused : ∀ s ∈ sources, ∀ text, s.content.decode = some text →
    ∀ t ∈ (s.reading c text).classTokens (SourceKind.ofPath s.path), ∀ e,
      Selector.parse c.layoutPrefix t.text = .error e →
        ∃ d ∈ r.diagnostics,
          d.key = (Reading.tokenFinding e ((s.reading c text).locate t.offset)).key
  /-- In every state of the search for cycles the gray names are those of the path and of the stack,
  and the search can go on. -/
  search : ∀ state, ColorSearch.Reachable (sourceGraph c sources) state →
    state.Consistent ∧ ∃ next, ColorSearch.step (sourceGraph c sources) state = .ok next
  /-- A cycle has a name, and every name of it a first declaration. -/
  resolved : ∀ cycle ∈ (sourceGraph c sources).cycles, cycle ≠ [] ∧ ∀ name ∈ cycle,
    ∃ d ds, (sourceGraph c sources).resolve name = .ok (d :: ds)
  /-- Every finding has a location and is of a listed rule. -/
  findings : ∀ d ∈ r.diagnostics, d.locations ≠ [] ∧ d.IsListed

/-- **Every run ends in a report.** -/
theorem checkSources_total (c : Config) (sources : List Source) (hc : c.validate = .ok c) :
    ∃ r, checkSources c sources = .ok r ∧ r.EndsRun c sources := by
  refine ⟨_, checkSources_eq_sourceReport hc sources, guarded_report c sources, ?_, ?_, ?_, ?_⟩
  · intro s hs text htext t ht e he
    have hfound : Reading.tokenFinding e ((s.reading c text).locate t.offset) ∈
        sourceFindings c sources :=
      List.mem_flatMap.2 ⟨s, hs, Facts.tokenFinding_mem_check htext ht he⟩
    exact Report.exists_key_eq_of_mem (List.mem_append_left _ hfound)
  · exact fun state h => ⟨h.consistent, h.consistent.exists_step _⟩
  · intro cycle h
    refine ⟨(Graph.isCanonicalCycle_of_mem_cycles h).closedWalk.1, fun name hn => ?_⟩
    obtain ⟨d, ds, -, hresolve⟩ := Graph.exists_resolve_eq (Graph.declares_of_mem_cycles h hn)
    exact ⟨d, ds, hresolve⟩
  · intro d hd
    exact ⟨List.cons_ne_nil _ _, isListed_of_mem_findings (Report.mem_of_mem_aggregate hd)⟩

/-- A component with a class token that cannot be read. -/
def malformedCard : Source := ⟨"card.css", .text ".card--wide\x7btop:0\x7d"⟩

/-- The component, and markup with two tokens that fall back to each other. -/
def malformedAndCycle : List Source :=
  [malformedCard, ⟨"page.html", .text "<p style=\"--a:var(--b);--b:var(--a)\">"⟩]

theorem checkSources_malformedAndCycle :
    Config.validate {} = .ok {} ∧
      (sourceGraph {} malformedAndCycle).cycles = [["--a", "--b"]] ∧
      ∃ r, checkSources {} malformedAndCycle = .ok r ∧ r.EndsRun {} malformedAndCycle ∧
        ∃ d ∈ r.diagnostics, d.ruleId = Rule.selectorSyntax.id := by
  refine ⟨by decide, by cbv, ?_⟩
  obtain ⟨r, hr, hends⟩ := checkSources_total {} malformedAndCycle (by decide)
  have hread : malformedCard.content.decode = some ".card--wide\x7btop:0\x7d" := by cbv
  have htokens : (malformedCard.reading {} ".card--wide\x7btop:0\x7d").classTokens
      (SourceKind.ofPath malformedCard.path) = [⟨"card--wide", 0⟩] := by cbv
  have hparse : Selector.parse (Config.layoutPrefix {}) "card--wide" =
      .error ⟨"card--wide", .doubleHyphen⟩ := by cbv
  obtain ⟨d, hd, hk⟩ := hends.refused malformedCard List.mem_cons_self _ hread ⟨"card--wide", 0⟩
    (htokens ▸ List.mem_cons_self) _ hparse
  exact ⟨r, hr, hends, d, hd, congrArg Prod.fst hk⟩

end BeamLint
