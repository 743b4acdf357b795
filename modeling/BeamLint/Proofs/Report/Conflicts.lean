import BeamLint.Proofs.Report.Aggregate
import BeamLint.Proofs.Report.References
import Mathlib

/-!
# Layout conflicts in a report

A class attribute has a conflict when one of its tokens is read as a layout primitive and another
one as a block or an element (`Reading.conflict?`). Tokens that are refused or malformed are read as
neither, and only the texts of the tokens tell whether there is a conflict. Class attributes of a
page have different locations, so a report shows every conflict once, even those of attributes that
are written alike, and no others (`Report.ShowsConflicts`); and what it shows of one attribute does
not depend on the tokens of another.
-/

namespace BeamLint

/-- The places that the findings of a rule tell: the primary location, and the further ones. -/
def Rule.places (rule : Rule) (ds : List Diagnostic) : List (Location × List Location) :=
  (ds.filter fun d => d.ruleId = rule.id).map fun d => (d.primary, d.related)

theorem Rule.map_fst_places (rule : Rule) (ds : List Diagnostic) :
    (rule.places ds).map Prod.fst = rule.primaries ds := by
  rw [places, List.map_map]
  rfl

namespace Reading

variable (r : Reading)

/-! ### Conflicts -/

/-- The first token that is read as asked. -/
def firstToken? (p : Selector → Bool) (ts : List TokenSite) : Option TokenSite :=
  ts.find? fun t => (Selector.parse r.config.layoutPrefix t.text).toOption.any p

/-- The conflict of a class attribute: its own location, and the locations of its first layout
primitive and of its first block or element. -/
def conflict? (a : ClassAttribute) : Option (Location × List Location) :=
  match r.firstToken? Selector.isLayout a.tokens, r.firstToken? Selector.isComponent a.tokens with
  | some layout, some component =>
    some (r.locate a.offset, [r.locate layout.offset, r.locate component.offset])
  | _, _ => none

theorem fst_of_conflict? {a : ClassAttribute} {p : Location × List Location}
    (h : r.conflict? a = some p) : p.1 = r.locate a.offset := by
  unfold conflict? at h
  split at h
  · rw [← Option.some.inj h]
  · contradiction

theorem isSome_conflict? (a : ClassAttribute) : (r.conflict? a).isSome =
    ((r.firstToken? Selector.isLayout a.tokens).isSome &&
      (r.firstToken? Selector.isComponent a.tokens).isSome) := by
  unfold conflict?
  cases r.firstToken? Selector.isLayout a.tokens <;>
    cases r.firstToken? Selector.isComponent a.tokens <;> rfl

/-- Only the texts of the tokens tell whether one of them is read as asked. -/
theorem isSome_firstToken?_congr {p : Selector → Bool} {ts ts' : List TokenSite}
    (h : ∀ text, text ∈ ts.map (·.text) ↔ text ∈ ts'.map (·.text)) :
    (r.firstToken? p ts).isSome = (r.firstToken? p ts').isSome := by
  have hany (ts : List TokenSite) : (r.firstToken? p ts).isSome ↔
      ∃ text ∈ ts.map (·.text),
        (Selector.parse r.config.layoutPrefix text).toOption.any p := by
    simp [firstToken?, List.find?_isSome]
  rw [Bool.eq_iff_iff, hany, hany]
  simp only [h]

theorem isSome_conflict?_congr {a : ClassAttribute} {ts : List TokenSite}
    (h : ∀ text, text ∈ ts.map (·.text) ↔ text ∈ a.tokens.map (·.text)) :
    (r.conflict? ⟨a.offset, ts⟩).isSome = (r.conflict? a).isSome := by
  rw [isSome_conflict?, isSome_conflict?, r.isSome_firstToken?_congr h,
    r.isSome_firstToken?_congr h]

/-- A token that repeats an earlier one is never the first that is read as asked. -/
theorem head?_filter_occurrences (p : Selector → Bool) (ts : List TokenSite) :
    ((r.occurrences (firsts (·.text) ts)).filter fun o => p o.selector).head?.map (·.location) =
      (r.firstToken? p ts).map fun t => r.locate t.offset := by
  have hread (t : TokenSite) : ((r.token t).toOption.any fun o => p o.selector) =
      (Selector.parse r.config.layoutPrefix t.text).toOption.any p := by
    unfold token
    cases Selector.parse r.config.layoutPrefix t.text <;> rfl
  have hfirst := find?_firsts TokenSite.text
    (fun text => (Selector.parse r.config.layoutPrefix text).toOption.any p) ts
  rw [List.head?_filter, occurrences, List.find?_filterMap, firstToken?, ← hfirst]
  simp only [hread]
  cases hf : (firsts TokenSite.text ts).find? fun t =>
      (Selector.parse r.config.layoutPrefix t.text).toOption.any p with
  | none => rfl
  | some t =>
    have ht := List.find?_some hf
    unfold token
    cases hp : Selector.parse r.config.layoutPrefix t.text with
    | error e => simp [hp, Except.toOption] at ht
    | ok s => simp [hp, Except.toOption]

/-- A class list is found fault with where the attribute has a conflict. -/
theorem places_checkLayout (a : ClassAttribute) :
    ((r.classAttribute a).classLists.flatMap ClassList.checkLayout).map
      (fun d => (d.primary, d.related)) = (r.conflict? a).toList := by
  have hlayout := r.head?_filter_occurrences Selector.isLayout a.tokens
  have hcomponent := r.head?_filter_occurrences Selector.isComponent a.tokens
  simp only [classAttribute, List.flatMap_singleton, ClassList.checkLayout, conflict?]
  cases hl : (r.occurrences (firsts (·.text) a.tokens)).filter (·.selector.isLayout) with
  | nil =>
    rw [hl] at hlayout
    rw [Option.map_eq_none_iff.1 hlayout.symm]
    rfl
  | cons layout layouts =>
    rw [hl] at hlayout
    obtain ⟨t, ht, hlt⟩ := Option.map_eq_some_iff.1 hlayout.symm
    rw [ht]
    cases hc : (r.occurrences (firsts (·.text) a.tokens)).filter (·.selector.isComponent) with
    | nil =>
      rw [hc] at hcomponent
      rw [Option.map_eq_none_iff.1 hcomponent.symm]
      rfl
    | cons component components =>
      rw [hc] at hcomponent
      obtain ⟨u, hu, hcu⟩ := Option.map_eq_some_iff.1 hcomponent.symm
      rw [hu]
      change [(r.locate a.offset, [layout.location, component.location])] =
        [(r.locate a.offset, [r.locate t.offset, r.locate u.offset])]
      rw [hlt, hcu]

/-! ### Reports on markup -/

/-- The facts of a page that is scanned as told. -/
def markupFacts (m : MarkupScan) : Facts :=
  let found := r.markup m
  { path := r.path
    kind := .markup
    isTheme := r.isTheme
    found :=
      { found with
        diagnostics := found.diagnostics ++ Facts.ruleFindings r.config found } }

/-- All that is found on such a page. -/
def markupFindings (m : MarkupScan) : List Diagnostic :=
  [r.markupFacts m].flatMap (·.found.diagnostics) ++
    (Run.graphOf [r.markupFacts m]).check r.config

/-- The report on such a page. -/
def markupReport (m : MarkupScan) : Report := Run.reportOf r.config [r.markupFacts m]

theorem markupReport_eq (m : MarkupScan) :
    r.markupReport m = Report.aggregate (r.markupFindings m) := rfl

/-- What is found fault with in the class lists. -/
def conflictFindings (as : List ClassAttribute) : List Diagnostic :=
  as.flatMap fun a => (r.classAttribute a).classLists.flatMap ClassList.checkLayout

theorem classLists_classLists (as : List ClassAttribute) :
    (r.classLists as).classLists = as.flatMap fun a => (r.classAttribute a).classLists := by
  induction as with
  | nil => rfl
  | cons a as ih =>
    rw [classLists, List.foldl_cons, Findings.foldl_append, Findings.empty_append,
      List.flatMap_cons, ← ih]
    rfl

theorem ruleId_of_mem_tokenFindings {ts : List TokenSite} {d : Diagnostic}
    (h : d ∈ r.tokenFindings ts) : d.ruleId = Rule.selectorSyntax.id := by
  obtain ⟨t, -, h⟩ := List.mem_filterMap.1 h
  unfold token at h
  cases hp : Selector.parse r.config.layoutPrefix t.text with
  | ok s => simp [hp] at h
  | error e =>
    simp only [hp, Option.some.injEq] at h
    rw [← h]
    rfl

theorem ruleId_of_mem_markup {m : MarkupScan} {d : Diagnostic} (h : d ∈ (r.markup m).diagnostics) :
    d.ruleId = Rule.selectorSyntax.id := by
  have hlists : ∀ d ∈ (r.classLists m.classAttributes).diagnostics,
      d.ruleId = Rule.selectorSyntax.id := by
    refine List.foldlRecOn (motive := fun f : Findings => ∀ d ∈ f.diagnostics,
      d.ruleId = Rule.selectorSyntax.id) m.classAttributes _ (by simp) fun f hf a _ => ?_
    exact List.forall_mem_append.2 ⟨hf, fun d hd => r.ruleId_of_mem_tokenFindings hd⟩
  rw [markup_eq] at h
  rcases List.mem_append.1 h with h | h
  · rcases List.mem_append.1 h with h | h
    · exact r.ruleId_of_mem_tokenFindings h
    · exact r.ruleId_of_mem_tokenFindings h
  · exact hlists d h

theorem flatMap_checkLayout_markup (m : MarkupScan) :
    (r.markup m).classLists.flatMap ClassList.checkLayout =
      r.conflictFindings m.classAttributes := by
  have e : (r.markup m).classLists = (r.classLists m.classAttributes).classLists := by
    rw [markup_eq]
    rfl
  rw [e, classLists_classLists, List.flatMap_assoc]
  rfl

theorem ruleId_of_mem_conflictFindings {as : List ClassAttribute} {d : Diagnostic}
    (h : d ∈ r.conflictFindings as) : d.ruleId = Rule.layoutBlockMutex.id := by
  obtain ⟨a, -, h⟩ := List.mem_flatMap.1 h
  obtain ⟨l, -, h⟩ := List.mem_flatMap.1 h
  exact (ClassList.of_mem_checkLayout h).1

/-- Of all that is found on a page, the findings of the rule on layouts are those on its class
lists. -/
theorem filter_markupFindings (m : MarkupScan) :
    ((r.markupFindings m).filter fun d => d.ruleId = Rule.layoutBlockMutex.id) =
      r.conflictFindings m.classAttributes := by
  have hgraph : (((Run.graphOf [r.markupFacts m]).check r.config).filter
      fun d => d.ruleId = Rule.layoutBlockMutex.id) = [] :=
    filter_ruleId_eq_nil fun d hd =>
      Rule.ruleId_ne (Graph.exists_rule_of_mem_check hd) (by decide)
  have hread : ((r.markup m).diagnostics.filter
      fun d => d.ruleId = Rule.layoutBlockMutex.id) = [] :=
    filter_ruleId_eq_nil fun d hd => by
      rw [r.ruleId_of_mem_markup hd]
      decide
  have hnames : (((r.markup m).occurrences.flatMap (Naming.check r.config)).filter
      fun d => d.ruleId = Rule.layoutBlockMutex.id) = [] :=
    filter_ruleId_eq_nil fun d hd => by
      obtain ⟨o, -, hd⟩ := List.mem_flatMap.1 hd
      exact Rule.ruleId_ne (Naming.of_mem_check hd).1 (by decide)
  have hlists : (r.conflictFindings m.classAttributes).filter
      (fun d => d.ruleId = Rule.layoutBlockMutex.id) = r.conflictFindings m.classAttributes :=
    List.filter_eq_self.2 fun d hd => decide_eq_true (r.ruleId_of_mem_conflictFindings hd)
  rw [markupFindings, List.filter_append, hgraph, List.append_nil]
  simp only [markupFacts, Facts.ruleFindings, List.flatMap_singleton, List.filter_append, hread,
    hnames, flatMap_checkLayout_markup, hlists, List.nil_append]

theorem places_conflictFindings (as : List ClassAttribute) :
    (r.conflictFindings as).map (fun d => (d.primary, d.related)) = as.filterMap r.conflict? := by
  rw [conflictFindings, List.map_flatMap, List.filterMap_eq_flatMap_toList]
  exact List.flatMap_congr fun a _ => r.places_checkLayout a

theorem map_fst_conflicts_sublist (as : List ClassAttribute) :
    ((as.filterMap r.conflict?).map Prod.fst).Sublist (as.map fun a => r.locate a.offset) := by
  induction as with
  | nil => exact List.Sublist.slnil
  | cons a as ih =>
    cases h : r.conflict? a with
    | none =>
      rw [List.filterMap_cons_none h]
      exact ih.cons _
    | some p =>
      rw [List.filterMap_cons_some h, List.map_cons, List.map_cons, r.fst_of_conflict? h]
      exact ih.cons_cons _

end Reading

/-- The class attributes have different locations. The report has one finding of the rule on layouts
for each of them that has a conflict, at the places of the conflict, and no other. -/
structure Report.ShowsConflicts (r : Reading) (as : List ClassAttribute) (report : Report) :
    Prop where
  distinct : (as.map fun a => r.locate a.offset).Nodup
  places : (Rule.layoutBlockMutex.places report.diagnostics).Perm (as.filterMap r.conflict?)

/-- The findings of the rule on layouts that are at other locations. -/
def Report.conflictsBeside (l : Location) (report : Report) : List Diagnostic :=
  report.diagnostics.filter fun d => d.ruleId = Rule.layoutBlockMutex.id ∧ d.primary ≠ l

namespace Reading

variable (r : Reading)

theorem showsConflicts_markupReport {m : MarkupScan}
    (h : (m.classAttributes.map fun a => r.locate a.offset).Nodup) :
    (r.markupReport m).ShowsConflicts r m.classAttributes where
  distinct := h
  places := by
    have hfilter := r.filter_markupFindings m
    have hplaces := r.places_conflictFindings m.classAttributes
    rw [← hfilter] at hplaces
    rw [← hplaces, markupReport_eq]
    refine (Report.filter_aggregate_perm ?_).map _
    rw [← Rule.map_fst_places, Rule.places, hplaces]
    exact h.sublist (r.map_fst_conflicts_sublist _)

/-! ### One attribute and the others -/

theorem primary_of_mem_classAttribute {a : ClassAttribute} {d : Diagnostic}
    (h : d ∈ (r.classAttribute a).classLists.flatMap ClassList.checkLayout) :
    d.primary = r.locate a.offset := by
  simp only [classAttribute, List.flatMap_singleton] at h
  exact (ClassList.of_mem_checkLayout h).2

/-- Beside the location of an attribute, nothing is found on it. -/
theorem filter_conflictFindings (before after : List ClassAttribute) (a : ClassAttribute) :
    (r.conflictFindings (before ++ a :: after)).filter (fun d => d.primary ≠ r.locate a.offset) =
      (r.conflictFindings (before ++ after)).filter fun d => d.primary ≠ r.locate a.offset := by
  have hnone : ((r.classAttribute a).classLists.flatMap ClassList.checkLayout).filter
      (fun d => d.primary ≠ r.locate a.offset) = [] := by
    refine List.filter_eq_nil_iff.2 fun d hd => ?_
    simpa using r.primary_of_mem_classAttribute hd
  rw [conflictFindings, conflictFindings, List.flatMap_append, List.flatMap_append,
    List.flatMap_cons, List.filter_append, List.filter_append, List.filter_append, hnone,
    List.nil_append]

/-- What a report shows of the other attributes does not depend on the tokens of one. -/
theorem conflictsBeside_markupReport {m m' : MarkupScan} {before after : List ClassAttribute}
    {a : ClassAttribute} {ts : List TokenSite} (h : m.classAttributes = before ++ a :: after)
    (h' : m'.classAttributes = before ++ ⟨a.offset, ts⟩ :: after) :
    (r.markupReport m').conflictsBeside (r.locate a.offset) =
      (r.markupReport m).conflictsBeside (r.locate a.offset) := by
  let beside (key : String × Location × String) : Bool :=
    key.1 = Rule.layoutBlockMutex.id ∧ key.2.1 ≠ r.locate a.offset
  have hfilter (m : MarkupScan) :
      (r.markupFindings m).filter (fun d => beside d.key) =
        (r.conflictFindings m.classAttributes).filter fun d => d.primary ≠ r.locate a.offset := by
    rw [← r.filter_markupFindings, List.filter_filter]
    refine List.filter_congr fun d _ => ?_
    simp [beside, Diagnostic.key, Bool.and_comm]
  have hsame : (r.markupFindings m').filter (fun d => beside d.key) =
      (r.markupFindings m).filter fun d => beside d.key := by
    rw [hfilter, hfilter, h, h', r.filter_conflictFindings before after a]
    exact r.filter_conflictFindings before after ⟨a.offset, ts⟩
  rw [markupReport_eq, markupReport_eq]
  refine Report.filter_aggregate_congr (p := beside) fun k hk => ?_
  rw [← Diagnostic.firstOf_filter hk (r.markupFindings m'), hsame, Diagnostic.firstOf_filter hk]

end Reading

/-- An attribute is reported exactly when it has a conflict. -/
theorem Report.ShowsConflicts.mem_primaries_iff {r : Reading} {before after : List ClassAttribute}
    {a : ClassAttribute} {report : Report}
    (h : report.ShowsConflicts r (before ++ a :: after)) :
    r.locate a.offset ∈ Rule.layoutBlockMutex.primaries report.diagnostics ↔
      (r.conflict? a).isSome := by
  rw [← Rule.map_fst_places, (h.places.map Prod.fst).mem_iff, List.mem_map]
  constructor
  · rintro ⟨p, hp, e⟩
    obtain ⟨b, hb, hc⟩ := List.mem_filterMap.1 hp
    -- Different attributes have different locations.
    have hab : a = b := by
      refine List.inj_on_of_nodup_map h.distinct (by simp) hb ?_
      rw [← e, r.fst_of_conflict? hc]
    rw [hab, hc]
    rfl
  · intro hs
    obtain ⟨p, hp⟩ := Option.isSome_iff_exists.1 hs
    exact ⟨p, List.mem_filterMap.2 ⟨a, by simp, hp⟩, r.fst_of_conflict? hp⟩

/-! ### The report on a page -/

theorem nodup_locations_scanMarkup (r : Reading) :
    ((scanMarkup r.text).classAttributes.map fun a => r.locate a.offset).Nodup := by
  have hplaces : (((scanMarkup r.text).classAttributes.map ClassAttribute.mark).map
      Mark.place).Nodup := by
    rw [List.map_map, List.Nodup, List.pairwise_map]
    exact (pairwise_classAttributes _).imp fun {a b} hlt => hlt.ne
  have hmarks := r.nodup_map_locate hplaces fun m hm => by
    obtain ⟨a, ha, rfl⟩ := List.mem_map.1 hm
    exact (standsIn_of_mem_classLists ha).1.1
  rwa [List.map_map] at hmarks

theorem classAttributes_of_isAllBlank {text : List Char} (h : Text.isAllBlank text) :
    (scanMarkup text).classAttributes = [] := by
  refine List.eq_nil_iff_forall_not_mem.2 fun a ha => ?_
  obtain ⟨before, after, e, -⟩ := (standsIn_of_mem_classLists ha).1.1.stands
  have hc : 'c' ∈ text := by
    rw [e]
    simp [ClassAttribute.mark]
  exact absurd (List.all_eq_true.1 h 'c' hc) (by decide)

theorem Facts.check_eq_markupFacts (c : Config) {s : Source} {text : String}
    (hk : SourceKind.ofPath s.path = .markup) (hd : s.content.decode = some text) :
    Facts.check c s = Reading.markupFacts ⟨c, s.path, c.isTheme s.path, text.toList⟩
      (scanMarkup text.toList) := by
  have e := Facts.collect_eq c s hd
  rw [hk] at e
  unfold Facts.check
  rw [e]
  rfl

/-- A blank page cannot be read, so nothing is found on its class lists. -/
theorem ruleId_ne_of_blank_page (c : Config) {path text : String}
    (hk : SourceKind.ofPath path = .markup) (hb : Text.isAllBlank text.toList) :
    ∀ d ∈ (Run.reportOf c [Facts.check c ⟨path, .text text⟩]).diagnostics,
      d.ruleId ≠ Rule.layoutBlockMutex.id := by
  intro d hd
  have hdecode : (Content.text text).decode = none := by simp [Content.decode, hb]
  have hfound : (Facts.check c ⟨path, .text text⟩).found.diagnostics =
      [unreadableFinding path] := by
    simp [Facts.check, Facts.collect, hk, hdecode]
  rcases List.mem_append.1 (Report.mem_of_mem_aggregate hd) with hd | hd
  · rw [List.flatMap_singleton, hfound, List.mem_singleton] at hd
    rw [hd]
    exact Rule.ruleId_ne ⟨.inputError, List.mem_singleton_self _, rfl⟩ (by decide)
  · exact Rule.ruleId_ne (Graph.exists_rule_of_mem_check hd) (by decide)

/-- The report on a page shows the conflicts of its class attributes, each once, and no others.
Another list of the same tokens for one attribute, in another order or with repetitions, changes
neither whether it is reported nor anything that is reported of the others. -/
theorem checkSources_showsConflicts (c : Config) (hc : c.validate = .ok c) (path : String)
    (hk : SourceKind.ofPath path = .markup) (text : String) :
    let r : Reading := ⟨c, path, c.isTheme path, text.toList⟩
    let m := scanMarkup text.toList
    ∃ report, checkSources c [⟨path, .text text⟩] = .ok report ∧
      (¬ Text.isAllBlank text.toList → report = r.markupReport m) ∧
      report.ShowsConflicts r m.classAttributes ∧
      ∀ before a after ts, m.classAttributes = before ++ a :: after →
        (∀ token, token ∈ ts.map TokenSite.text ↔ token ∈ a.tokens.map TokenSite.text) →
        let changed := before ++ ⟨a.offset, ts⟩ :: after
        let other := r.markupReport { m with classAttributes := changed }
        other.ShowsConflicts r changed ∧
          (r.locate a.offset ∈ Rule.layoutBlockMutex.primaries other.diagnostics ↔
            r.locate a.offset ∈ Rule.layoutBlockMutex.primaries report.diagnostics) ∧
          other.conflictsBeside (r.locate a.offset) =
            report.conflictsBeside (r.locate a.offset) := by
  intro r m
  by_cases hb : Text.isAllBlank text.toList
  · -- A blank page cannot be read, and it has no class attributes.
    have hnil : m.classAttributes = [] := classAttributes_of_isAllBlank hb
    refine ⟨_, checkSources_eq hc _, fun hno => absurd hb hno, ⟨by simp [hnil], ?_⟩, ?_⟩
    · rw [hnil]
      refine List.Perm.of_eq (List.map_eq_nil_iff.2 (List.filter_eq_nil_iff.2 fun d hd => ?_))
      have hne := ruleId_ne_of_blank_page c hk hb d hd
      simpa using hne
    · intro before a after ts h
      simp [hnil] at h
  · have hd : (Content.text text).decode = some text := by simp [Content.decode, hb]
    have hreport : checkSources c [⟨path, .text text⟩] = .ok (r.markupReport m) := by
      rw [checkSources_eq hc, List.map_singleton,
        Facts.check_eq_markupFacts c (s := ⟨path, .text text⟩) hk hd]
      rfl
    have hdistinct : (m.classAttributes.map fun a => r.locate a.offset).Nodup :=
      nodup_locations_scanMarkup r
    have hshows := r.showsConflicts_markupReport hdistinct
    refine ⟨_, hreport, fun _ => rfl, hshows, fun before a after ts h hts => ?_⟩
    let other : MarkupScan := { m with classAttributes := before ++ ⟨a.offset, ts⟩ :: after }
    have hother : (r.markupReport other).ShowsConflicts r other.classAttributes := by
      refine r.showsConflicts_markupReport ?_
      rw [h] at hdistinct
      simpa [other] using hdistinct
    refine ⟨hother, ?_, r.conflictsBeside_markupReport h rfl⟩
    have hiff := hother.mem_primaries_iff
    rw [h] at hshows
    rw [hiff, hshows.mem_primaries_iff, r.isSome_conflict?_congr hts]

/-- A page with two class attributes that are written alike, and one with a layout primitive beside
tokens that are malformed, refused and interpolated. -/
def alikePage : String :=
  "<p class='l_box card l_box'><p class='l_box card l_box'><p class='l_row Card a--b \x7bcard\x7d'>"

/-- The class attributes of the page behind the first one. -/
def laterOnAlikePage : List ClassAttribute :=
  [⟨31, [⟨"l_box", 38⟩, ⟨"card", 44⟩, ⟨"l_box", 49⟩]⟩,
   ⟨59, [⟨"l_row", 66⟩, ⟨"Card", 72⟩, ⟨"a--b", 77⟩]⟩]

theorem checkSources_showsConflicts_alikePage :
    let r : Reading := ⟨{}, "a.html", Config.isTheme {} "a.html", alikePage.toList⟩
    let m := scanMarkup alikePage.toList
    let first : ClassAttribute := ⟨3, [⟨"l_box", 10⟩, ⟨"card", 16⟩, ⟨"l_box", 21⟩]⟩
    let swapped : List ClassAttribute := ⟨3, [⟨"card", 16⟩, ⟨"l_box", 10⟩]⟩ :: laterOnAlikePage
    let other := r.markupReport { m with classAttributes := swapped }
    Config.validate {} = .ok {} ∧ SourceKind.ofPath "a.html" = .markup ∧
      m.classAttributes = first :: laterOnAlikePage ∧
      ∃ report, checkSources {} [⟨"a.html", .text alikePage⟩] = .ok report ∧
        (Rule.layoutBlockMutex.places report.diagnostics).Perm
          [(⟨"a.html", 1, 4⟩, [⟨"a.html", 1, 11⟩, ⟨"a.html", 1, 17⟩]),
           (⟨"a.html", 1, 32⟩, [⟨"a.html", 1, 39⟩, ⟨"a.html", 1, 45⟩])] ∧
        r.locate 3 ∈ Rule.layoutBlockMutex.primaries other.diagnostics ∧
        other.conflictsBeside (r.locate 3) = report.conflictsBeside (r.locate 3) := by
  intro r m first swapped other
  have hscan : m.classAttributes = first :: laterOnAlikePage := by decide +kernel
  have hconflicts : m.classAttributes.filterMap r.conflict? =
      [(⟨"a.html", 1, 4⟩, [⟨"a.html", 1, 11⟩, ⟨"a.html", 1, 17⟩]),
       (⟨"a.html", 1, 32⟩, [⟨"a.html", 1, 39⟩, ⟨"a.html", 1, 45⟩])] := by decide +kernel
  obtain ⟨report, hreport, -, hshows, hall⟩ :=
    checkSources_showsConflicts {} (by decide) "a.html" (by cbv) alikePage
  obtain ⟨-, hiff, hbeside⟩ := hall [] first laterOnAlikePage [⟨"card", 16⟩, ⟨"l_box", 10⟩] hscan
    (by simp [first])
  have hplaces := hshows.places
  rw [hconflicts] at hplaces
  refine ⟨by decide, by cbv, hscan, report, hreport, hplaces, hiff.2 ?_, hbeside⟩
  rw [← Rule.map_fst_places, (hplaces.map Prod.fst).mem_iff]
  decide +kernel

end BeamLint
