import BeamLint.Proofs.Report.Aggregate
import BeamLint.Proofs.Report.References
import BeamLint.Proofs.Variable.TierOrder
import Mathlib

/-!
# The order of the sources

A report orders its findings, so the order of the sources shows only where it decides what is
found. Findings of a source by itself are in its file, and those of most rules on the graph do not
depend on the order of its declarations; so neither can change. What the rules on paths find depends
on the order of the edges of a name, and this order changes only for names that several sources
declare (`DeclaredInSeveral`). Where there is no such name, the whole report stays the same.

The order may decide even whether a run fails: a reference of a component token may pass a name that
several sources declare, and land on a token of the theme or on a component token, whichever comes
first (`AmbiguousLanding`). In all other cases the status stays the same.
-/

namespace BeamLint

open Diagnostic

/-- The graph of the sources. -/
def sourceGraph (c : Config) (sources : List Source) : Graph :=
  Run.graphOf (sources.map (Facts.collect c))

/-- What is found in the sources by themselves. -/
def sourceFindings (c : Config) (sources : List Source) : List Diagnostic :=
  sources.flatMap fun s => (Facts.check c s).found.diagnostics

/-- The report on the sources. -/
def sourceReport (c : Config) (sources : List Source) : Report :=
  .aggregate (sourceFindings c sources ++ (sourceGraph c sources).check c)

/-- The source declares the name. -/
def Source.Declares (c : Config) (name : String) (s : Source) : Prop :=
  ∃ d ∈ (Facts.collect c s).found.declarations, d.name = name

/-- Two sources with different paths declare the name. -/
def DeclaredInSeveral (c : Config) (sources : List Source) (name : String) : Prop :=
  ∃ s ∈ sources, ∃ t ∈ sources, s.path ≠ t.path ∧ s.Declares c name ∧ t.Declares c name

/-- A reference of a component token may land on a token of the theme or on a component token, and
passes a name that several sources declare. -/
def AmbiguousLanding (c : Config) (sources : List Source) : Prop :=
  ∃ d ∈ (sourceGraph c sources).declarations, d.tier = .component ∧ ∃ r ∈ d.references,
    (sourceGraph c sources).Ambiguous r.name ∧ ∃ k u, (sourceGraph c sources).Passes r.name k u ∧
      (sourceGraph c sources).declares u ∧ (sourceGraph c sources).tierOf u = .unknown ∧
      DeclaredInSeveral c sources u

variable {c : Config} {sources sources' : List Source}

theorem report_check_eq_sourceReport (c : Config) (sources : List Source) :
    (Run.check c sources .never).report = sourceReport c sources := by
  rw [Run.report_check_never, Run.reportOf, graphOf_check, List.flatMap_map]
  rfl

theorem checkSources_eq_sourceReport (hc : c.validate = .ok c) (sources : List Source) :
    checkSources c sources = .ok (sourceReport c sources) := by
  rw [checkSources, hc, ← report_check_eq_sourceReport]
  rfl

/-! ### Findings of the sources by themselves -/

/-- A key tells the file, so at most one source has findings with it. -/
theorem firstOf_sourceFindings (hs : (sources.map (·.path)).Nodup) (hp : sources.Perm sources')
    (key : String × Location × String) :
    firstOf (sourceFindings c sources) key = firstOf (sourceFindings c sources') key := by
  have hfile {s : Source} (h : ((Facts.check c s).found.diagnostics.filter fun d => d.key = key) ≠
      []) : key.2.1.file = s.path := by
    obtain ⟨d, hd⟩ := List.exists_mem_of_ne_nil _ h
    obtain ⟨hd, hk⟩ := List.mem_filter.1 hd
    rw [← Facts.file_of_mem_check c s hd, ← of_decide_eq_true hk]
    rfl
  have hfilter : ((sourceFindings c sources).filter fun d => d.key = key) =
      (sourceFindings c sources').filter fun d => d.key = key := by
    rw [sourceFindings, sourceFindings, List.filter_flatMap, List.filter_flatMap]
    refine flatMap_eq_of_perm hp ((List.pairwise_map.1 hs).imp fun {s t} hst => ?_)
    by_contra hno
    obtain ⟨h₁, h₂⟩ := not_or.1 hno
    exact hst ((hfile h₁).symm.trans (hfile h₂))
  rw [firstOf, firstOf, ← List.head?_filter, ← List.head?_filter, hfilter]

theorem isOnPath_of_mem_sourceFindings {d : Diagnostic} (h : d ∈ sourceFindings c sources) :
    d.isOnPath = false := by
  obtain ⟨s, -, h⟩ := List.mem_flatMap.1 h
  obtain ⟨rule, hr, e⟩ := Facts.ofSource_of_mem_check c s h
  have hno : rule ∉ Rule.onPaths := by
    revert hr
    cases rule <;> decide
  rw [isOnPath, e, decide_eq_false_iff_not]
  rintro hm
  obtain ⟨other, ho, e⟩ := List.mem_map.1 hm
  exact hno (Rule.id_inj.1 e ▸ ho)

/-! ### The graph of the sources -/

theorem reordered_sourceGraph (hp : sources.Perm sources') :
    (sourceGraph c sources).Reordered (sourceGraph c sources') where
  declarations := ((hp.map _).filter _).flatMap_right _
  usages := ((hp.map _).filter _).flatMap_right _

/-- Different references of the sources stand at different places. -/
theorem reference_eq_of_location_eq (hs : (sources.map (·.path)).Nodup) :
    ∀ r ∈ (sourceGraph c sources).references, ∀ s ∈ (sourceGraph c sources).references,
      r.location = s.location → r = s := by
  have hplaced : ∀ f ∈ sources.map (Facts.collect c), f.Placed := by
    intro f hf
    obtain ⟨s, -, rfl⟩ := List.mem_map.1 hf
    exact Facts.placed_collect c s
  have hpaths : ((sources.map (Facts.collect c)).map (·.path)).Nodup := by
    simpa only [List.map_map, Function.comp_def, Facts.path_collect] using hs
  have hperm : ((ownedReferences (sources.map (Facts.collect c))).map (·.2)).Perm
      (sourceGraph c sources).references := by
    rw [Graph.references, sourceGraph, Run.graphOf, List.flatMap_assoc, List.flatMap_assoc,
      ownedReferences, List.map_flatMap]
    refine List.Perm.trans ?_ (List.flatMap_append_perm _ _ _).symm
    simp [readable, Findings.references, Function.comp_def]
  have hnodup := nodup_locations_ownedReferences hplaced hpaths
  rw [← Function.comp_def (fun r : Reference => r.location) Prod.snd, ← List.map_map,
    (hperm.map _).nodup_iff] at hnodup
  exact fun r hr s h => List.inj_on_of_nodup_map hnodup hr h

/-- The declarations of a name that no two sources declare come in the same order. -/
theorem declarationsOf_sourceGraph (hs : (sources.map (·.path)).Nodup)
    (hp : sources.Perm sources') {name : String} (hn : ¬ DeclaredInSeveral c sources name) :
    (sourceGraph c sources).declarationsOf name = (sourceGraph c sources').declarationsOf name := by
  have hdecl {f : Facts} (h : (f.found.declarations.filter fun d => d.name = name) ≠ []) :
      ∃ d ∈ f.found.declarations, d.name = name := by
    obtain ⟨d, hd⟩ := List.exists_mem_of_ne_nil _ h
    exact ⟨d, (List.mem_filter.1 hd).1, of_decide_eq_true (List.mem_filter.1 hd).2⟩
  simp only [sourceGraph, Run.graphOf, Graph.declarationsOf, List.filter_flatMap]
  refine flatMap_eq_of_perm ((hp.map _).filter _) (List.Pairwise.filter _ ?_)
  rw [List.pairwise_map]
  refine (List.pairwise_map.1 hs).imp_of_mem fun {s t} hms hmt hst => ?_
  by_contra hno
  obtain ⟨h₁, h₂⟩ := not_or.1 hno
  exact hn ⟨s, hms, t, hmt, hst, hdecl h₁, hdecl h₂⟩

/-- A rule that does not follow paths finds the same first, in whatever order. -/
theorem firstOf_check_of_isOnPath_eq_false (hs : (sources.map (·.path)).Nodup)
    (hp : sources.Perm sources') {key : String × Location × String}
    (hk : key.1 ∉ Rule.onPaths.map Rule.id) :
    firstOf ((sourceGraph c sources).check c) key =
      firstOf ((sourceGraph c sources').check c) key := by
  have hpath {d : Diagnostic} (h : decide (d.key = key) = true) : d.isOnPath = false := by
    have hid : d.ruleId = key.1 := congrArg (·.1) (of_decide_eq_true h)
    rwa [isOnPath, decide_eq_false_iff_not, hid]
  refine find?_eq_of_mem_iff (fun d h => (reordered_sourceGraph hp).mem_check_iff (hpath h)) ?_
  intro d hd e he hdk hek
  refine Graph.eq_of_key_eq (reference_eq_of_location_eq hs) (hpath hdk) hd he ?_
  rw [of_decide_eq_true hdk, of_decide_eq_true hek]

/-- Where no name is declared in several sources, every rule finds the same first. -/
theorem firstOf_check (hs : (sources.map (·.path)).Nodup) (hp : sources.Perm sources')
    (hn : ∀ name, ¬ DeclaredInSeveral c sources name) (key : String × Location × String) :
    firstOf ((sourceGraph c sources).check c) key =
      firstOf ((sourceGraph c sources').check c) key := by
  by_cases hk : key.1 ∈ Rule.onPaths.map Rule.id
  · -- The uses have no findings on paths, and all that is before them is in the same order.
    have huses (g : Graph) : firstOf (g.usages.flatMap fun u =>
        g.referenceFindings c u.property u.file u.references) key = none := by
      refine List.find?_eq_none.2 fun d hd hdk => ?_
      obtain ⟨u, -, hd⟩ := List.mem_flatMap.1 hd
      have hid : d.ruleId = key.1 := congrArg (·.1) (of_decide_eq_true hdk)
      rcases Graph.ruleId_of_mem_referenceFindings hd with h | h <;>
        simp [← hid, h, Rule.onPaths, Rule.id_inj] at hk
    have hsame : (sourceGraph c sources).SameDeclarations (sourceGraph c sources') :=
      fun name => declarationsOf_sourceGraph hs hp (hn name)
    obtain ⟨ds, h, h'⟩ := hsame.check_eq (c := c)
    rw [h, h', firstOf_append, firstOf_append, huses, huses]
  · exact firstOf_check_of_isOnPath_eq_false hs hp hk

/-! ### The report -/

theorem filter_sourceReport_perm (hs : (sources.map (·.path)).Nodup) (hp : sources.Perm sources') :
    ((sourceReport c sources).diagnostics.filter fun d => !d.isOnPath) =
      (sourceReport c sources').diagnostics.filter fun d => !d.isOnPath := by
  refine Report.filter_aggregate_congr (p := fun key => !decide (key.1 ∈ Rule.onPaths.map Rule.id))
    fun key hk => ?_
  rw [firstOf_append, firstOf_append, firstOf_sourceFindings hs hp,
    firstOf_check_of_isOnPath_eq_false hs hp (by simpa using hk)]

/-- **The order of the sources.** It changes no finding of a rule that does not follow paths, and
nothing at all where every name is declared in at most one source. -/
theorem checkSources_perm (hc : c.validate = .ok c) (hs : (sources.map (·.path)).Nodup)
    (hp : sources.Perm sources') :
    ∃ r r', checkSources c sources = .ok r ∧ checkSources c sources' = .ok r' ∧
      (r.diagnostics.filter fun d => !d.isOnPath) = (r'.diagnostics.filter fun d => !d.isOnPath) ∧
      ((∀ name, ¬ DeclaredInSeveral c sources name) → r = r') := by
  refine ⟨_, _, checkSources_eq_sourceReport hc _, checkSources_eq_sourceReport hc _,
    filter_sourceReport_perm hs hp, fun hn => Report.aggregate_congr fun key => ?_⟩
  rw [firstOf_append, firstOf_append, firstOf_sourceFindings hs hp, firstOf_check hs hp hn]

/-- A theme and a component token, with a reference that leads nowhere in either source. -/
def themeAndToken : List Source :=
  [⟨"theme.css", .text ":root\x7b--s:1\x7da\x7btop:var(--t)\x7d"⟩,
   ⟨"card.css", .text "a\x7b--c:var(--s,var(--u))\x7d"⟩]

theorem not_declaredInSeveral_themeAndToken (name : String) :
    ¬ DeclaredInSeveral {} themeAndToken name := by
  have hapart : ∀ s ∈ themeAndToken, ∀ t ∈ themeAndToken, s.path ≠ t.path →
      ∀ d ∈ (Facts.collect {} s).found.declarations,
        ∀ e ∈ (Facts.collect {} t).found.declarations, e.name ≠ d.name := by
    decide +kernel
  rintro ⟨s, hs, t, ht, hne, ⟨d, hd, rfl⟩, e, he, hde⟩
  exact hapart s hs t ht hne d hd e he hde

theorem checkSources_perm_themeAndToken :
    Config.validate {} = .ok {} ∧ (themeAndToken.map (·.path)).Nodup ∧
      themeAndToken.Perm themeAndToken.reverse ∧
      (∀ name, ¬ DeclaredInSeveral {} themeAndToken name) ∧
      ∃ r, checkSources {} themeAndToken = .ok r ∧
        checkSources {} themeAndToken.reverse = .ok r := by
  have hperm : themeAndToken.Perm themeAndToken.reverse := themeAndToken.reverse_perm.symm
  obtain ⟨r, r', h, h', -, heq⟩ := checkSources_perm (c := {}) (by decide) (by decide) hperm
  obtain rfl := heq not_declaredInSeveral_themeAndToken
  exact ⟨by decide, by decide, hperm, not_declaredInSeveral_themeAndToken, r, h, h'⟩

/-! ### The status -/

theorem severity_of_isOnPath {d : Diagnostic} (hpath : d.isOnPath)
    (h : d ∈ (sourceReport c sources).diagnostics) : d.severity = .error := by
  rcases List.mem_append.1 (Report.mem_of_mem_aggregate h) with h | h
  · exact absurd hpath (Bool.eq_false_iff.1 (isOnPath_of_mem_sourceFindings h))
  · exact Graph.severity_of_isOnPath hpath h

/-- Whether a report shows a finding on paths, the graph alone tells. -/
theorem exists_isOnPath_sourceReport_iff :
    (∃ d ∈ (sourceReport c sources).diagnostics, d.isOnPath) ↔
      ∃ d ∈ (sourceGraph c sources).check c, d.isOnPath := by
  refine (Report.exists_mem_aggregate_iff
    (p := fun key => decide (key.1 ∈ Rule.onPaths.map Rule.id))).trans ?_
  constructor
  · rintro ⟨d, hd, hpath⟩
    rcases List.mem_append.1 hd with hd | hd
    · exact absurd hpath (Bool.eq_false_iff.1 (isOnPath_of_mem_sourceFindings hd))
    · exact ⟨d, hd, hpath⟩
  · rintro ⟨d, hd, hpath⟩
    exact ⟨d, List.mem_append_right _ hd, hpath⟩

/-- **Whether a run fails** does not depend on the order of the sources, as long as no reference of
a component token has an ambiguous landing past a name that several sources declare. -/
theorem checkSources_status_perm (hc : c.validate = .ok c) (hs : (sources.map (·.path)).Nodup)
    (hp : sources.Perm sources') (ha : ¬ AmbiguousLanding c sources) :
    ∃ r r', checkSources c sources = .ok r ∧ checkSources c sources' = .ok r' ∧
      r.status = r'.status ∧ ∀ strict, r.exitCode strict = r'.exitCode strict := by
  refine ⟨_, _, checkSources_eq_sourceReport hc _, checkSources_eq_sourceReport hc _, ?_⟩
  have honpath : (∃ d ∈ (sourceGraph c sources).check c, d.isOnPath) ↔
      ∃ d ∈ (sourceGraph c sources').check c, d.isOnPath := by
    refine (reordered_sourceGraph hp).exists_isOnPath_iff ?_
    intro d hd ht r hr hr' k u hu hdecl htu
    have hn : ¬ DeclaredInSeveral c sources u := fun hn =>
      ha ⟨d, hd, ht, r, hr, hr', k, u, hu, hdecl, htu, hn⟩
    rw [Graph.edges, Graph.edges, declarationsOf_sourceGraph hs hp hn]
  have hstatus : (sourceReport c sources).status = (sourceReport c sources').status := by
    change Report.statusOf (sourceReport c sources).diagnostics =
      Report.statusOf (sourceReport c sources').diagnostics
    refine Report.statusOf_congr (filter_sourceReport_perm hs hp) (fun d hd hpath => ?_) ?_
    · have hpath : d.isOnPath := by simpa using hpath
      exact (List.mem_append.1 hd).elim (severity_of_isOnPath hpath) (severity_of_isOnPath hpath)
    · simpa only [Bool.not_eq_false', exists_isOnPath_sourceReport_iff] using honpath
  refine ⟨hstatus, fun strict => ?_⟩
  rw [Report.exitCode, Report.exitCode, hstatus]

/-- A page with an inline style that lets `--x` fall back to the name. -/
def pageWith (path name : String) : Source := ⟨path, .text s!"<p style='--x:var({name})'>"⟩

/-- A component token falls back to a name that two pages declare, each with another token of the
theme. -/
def sharedName : List Source :=
  [⟨"theme.css", .text ":root\x7b--s:1;--t:2\x7d"⟩, ⟨"card.css", .text "a\x7b--c:var(--x)\x7d"⟩,
   pageWith "p.html" "--s", pageWith "q.html" "--t"]

theorem not_ambiguousLanding_sharedName : ¬ AmbiguousLanding {} sharedName := by
  let g := sourceGraph {} sharedName
  have hstart : ∀ d ∈ g.declarations, d.tier = .component → ∀ r ∈ d.references, r.name = "--x" := by
    decide +kernel
  have hstep : ∀ u ∈ ["--x", "--s", "--t"], g.tierOf u = .unknown → ∀ v ∈ g.edges u,
      v ∈ ["--x", "--s", "--t"] := by
    decide +kernel
  have htiers : ∀ u ∈ ["--x", "--s", "--t"], g.tierOf u ≠ .component := by decide +kernel
  have hpasses : ∀ k u, g.Passes "--x" k u → u ∈ ["--x", "--s", "--t"] := by
    intro k u h
    induction h with
    | here => decide
    | step _ _ ht he ih => exact hstep _ ih ht _ he
  rintro ⟨d, hd, ht, r, hr, ⟨-, w, -, -, ⟨-, k, hw, -⟩, hwt⟩, -⟩
  rw [hstart d hd ht r hr] at hw
  exact htiers w (hpasses k w hw) hwt

theorem checkSources_status_perm_sharedName :
    Config.validate {} = .ok {} ∧ (sharedName.map (·.path)).Nodup ∧
      sharedName.Perm sharedName.reverse ∧ ¬ AmbiguousLanding {} sharedName ∧
      ∃ r r', checkSources {} sharedName = .ok r ∧ checkSources {} sharedName.reverse = .ok r' ∧
        r.status = r'.status ∧ ∀ strict, r.exitCode strict = r'.exitCode strict :=
  have hperm : sharedName.Perm sharedName.reverse := sharedName.reverse_perm.symm
  ⟨by decide, by decide, hperm, not_ambiguousLanding_sharedName,
    checkSources_status_perm (by decide) (by decide) hperm not_ambiguousLanding_sharedName⟩

/-! ### Where the order decides -/

/-- A theme, and two component tokens: `--c` falls back to `--x`, which only pages declare. -/
def themeAndTokens : List Source :=
  [⟨"theme.css", .text ":root\x7b--s:1\x7d"⟩,
   ⟨"card.css", .text "a\x7b--c:var(--x);--l:var(--s)\x7d"⟩]

/-- One page lets `--x` fall back to a token of the theme, the page after it to a component
token. -/
def tokenFirst : List Source :=
  themeAndTokens ++ [pageWith "p.html" "--s", pageWith "q.html" "--l"]

/-- The same pages in the other order. -/
def componentFirst : List Source :=
  themeAndTokens ++ [pageWith "q.html" "--l", pageWith "p.html" "--s"]

/-- What is found in a page with an inline style. -/
def pageFacts (path name : String) : Facts where
  path := path
  kind := .markup
  isTheme := false
  found.declarations := [⟨"--x", .unknown, [⟨name, ⟨path, 1, 19⟩, false⟩], none, ⟨path, 1, 11⟩⟩]

/-- What is found in the theme and in the component tokens. -/
def tokenFacts : List Facts :=
  [{ path := "theme.css", kind := .stylesheet, isTheme := true
     found.declarations := [⟨"--s", .semantic, [], some "1", ⟨"theme.css", 1, 7⟩⟩] },
   { path := "card.css", kind := .stylesheet, isTheme := false
     found.declarations :=
       [⟨"--c", .component, [⟨"--x", ⟨"card.css", 1, 11⟩, false⟩], none, ⟨"card.css", 1, 3⟩⟩,
        ⟨"--l", .component, [⟨"--s", ⟨"card.css", 1, 24⟩, false⟩], none, ⟨"card.css", 1, 16⟩⟩] }]

/-- Of the same sources, the report is clean in one order and fails in another. -/
theorem order_decides_status :
    Config.validate {} = .ok {} ∧ (tokenFirst.map (·.path)).Nodup ∧
      tokenFirst.Perm componentFirst ∧
      ∃ r r', checkSources {} tokenFirst = .ok r ∧ checkSources {} componentFirst = .ok r' ∧
        r.status = .clean ∧ r'.status = .failed ∧
        ∀ strict, r.exitCode strict = 0 ∧ r'.exitCode strict = 1 := by
  have htokens : themeAndTokens.map (Facts.check {}) = tokenFacts := by decide +kernel
  have hp : Facts.check {} (pageWith "p.html" "--s") = pageFacts "p.html" "--s" := by decide +kernel
  have hq : Facts.check {} (pageWith "q.html" "--l") = pageFacts "q.html" "--l" := by decide +kernel
  have hclean : (Run.reportOf {} (tokenFacts ++ [pageFacts "p.html" "--s",
      pageFacts "q.html" "--l"])).status = .clean := by cbv
  have hfailed : (Run.reportOf {} (tokenFacts ++ [pageFacts "q.html" "--l",
      pageFacts "p.html" "--s"])).status = .failed := by cbv
  refine ⟨by decide, by decide, (List.Perm.swap _ _ _).append_left _, _, _,
    checkSources_eq (by decide) _, checkSources_eq (by decide) _, ?_⟩
  simp only [tokenFirst, componentFirst, List.map_append, List.map_cons, List.map_nil, htokens, hp,
    hq]
  refine ⟨hclean, hfailed, fun strict => ?_⟩
  simp [Report.exitCode, hclean, hfailed]

end BeamLint
