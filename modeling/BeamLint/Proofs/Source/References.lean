import BeamLint.Proofs.Source.Locations

/-!
# The references of a source

All references of a source have different locations, each in the file of the source: they stand at
different places of the text, and a location tells its place. A source by itself is judged under
rules of its own (`Rule.ofSource`), so none of its findings is on a reference. All but one of these
rules look at what the source says; the last one is broken by a source that cannot be read.
-/

namespace BeamLint

open Text

/-! ### In the file of the source -/

namespace Findings

/-- All declarations, uses and references are in the given file. -/
structure InFile (file : String) (f : Findings) : Prop where
  declarations : ∀ d ∈ f.declarations, d.file = file
  usages : ∀ u ∈ f.usages, u.file = file
  references : ∀ r ∈ f.references, r.location.file = file

theorem Shown.inFile {file : String} {text : List Char} {ok : Nat → Prop}
    {token : String → List Char} {f : Findings} (h : f.Shown file text ok token) :
    f.InFile file where
  declarations d hd := (h.declarations d hd).file_eq
  usages u hu := (h.usages u hu).file_eq
  references r hr := (h.references r hr).file_eq

theorem InFile.append {file : String} {a b : Findings} (ha : a.InFile file) (hb : b.InFile file) :
    (a ++ b).InFile file where
  declarations := List.forall_mem_append.2 ⟨ha.declarations, hb.declarations⟩
  usages := List.forall_mem_append.2 ⟨ha.usages, hb.usages⟩
  references r hr := by
    rw [(references_append_perm a b).mem_iff, List.mem_append] at hr
    exact hr.elim (ha.references r) (hb.references r)

end Findings

namespace Reading

variable (r : Reading)

/-- What holds of everything that is shown, and of two parts together when it holds of both, holds
of all findings of a text. -/
theorem findings_of_shown {P : Findings → Prop} (empty : P {})
    (append : ∀ a b, P a → P b → P (a ++ b))
    (shown : ∀ ok token f, Findings.Shown r.path r.text ok token f → P f) (kind : SourceKind) :
    P (r.findings kind) := by
  have h := r.located_findings kind
  cases kind with
  | stylesheet => exact shown _ _ _ h
  | markup =>
    obtain ⟨e, h₁, h₂, h₃⟩ := h
    rw [e]
    exact append _ _ (append _ _ (shown _ _ _ h₁) (shown _ _ _ h₂)) (shown _ _ _ h₃)
  | unknown => exact empty

theorem inFile_findings (kind : SourceKind) : (r.findings kind).InFile r.path :=
  r.findings_of_shown ⟨by simp, by simp, by simp⟩ (fun _ _ => .append) (fun _ _ _ h => h.inFile)
    kind

/-! ### At different locations -/

/-- The references of the findings are those that the scan marks. -/
theorem locations_stylesheet (tier : Option Tier) (s : StylesheetScan) :
    (r.stylesheet tier s).references.map (·.location) =
      s.referenceMarks.map fun m => r.locate m.place := by
  have hd (p : PropertySite) : (r.declaration tier p).references.map (·.location) =
      p.referenceMarks.map fun m => r.locate m.place := by
    simp [references_declaration, references, PropertySite.referenceMarks]
  have hu (p : PropertySite) :
      (r.usage? p).toList.flatMap (fun u => u.references.map (·.location)) =
        p.referenceMarks.map fun m => r.locate m.place := by
    rw [← hd]
    unfold usage?
    dsimp only
    split
    · next he => simp [references_declaration, references, List.isEmpty_iff.1 he]
    · simp [references_declaration]
  simp only [Findings.references, stylesheet, StylesheetScan.referenceMarks,
    StylesheetScan.properties, List.map_append, List.flatMap_append, List.map_flatMap,
    List.flatMap_map, List.filterMap_eq_flatMap_toList, List.flatMap_assoc, hd, hu]

theorem nodup_map_locate {ms : List Mark} (h : (ms.map Mark.place).Nodup)
    (hm : ∀ m ∈ ms, m.StandsIn 0 r.text) : (ms.map fun m => r.locate m.place).Nodup := by
  refine List.Nodup.map_on (fun m hm' n hn' e => ?_) (h.of_map _)
  have hml := (hm m hm').lt
  have hnl := (hm n hn').lt
  have hp : m.place = n.place := (Location.ofOffset_inj (by omega) (by omega)).1 e
  exact List.inj_on_of_nodup_map h hm' hn' hp

/-- Class lists refer to nothing. -/
theorem references_classLists (as : List ClassAttribute) : (r.classLists as).references = [] := by
  refine List.foldlRecOn (motive := fun f : Findings => f.references = []) as _ rfl ?_
  intro f hf a _
  have hp := Findings.references_append_perm f (r.classAttribute a)
  rw [hf] at hp
  exact hp.eq_nil

/-- No two references of a text have the same location. -/
theorem nodup_locations_findings (kind : SourceKind) :
    ((r.findings kind).references.map (·.location)).Nodup := by
  cases kind with
  | stylesheet =>
    rw [findings, locations_stylesheet]
    refine r.nodup_map_locate nodup_referenceMarks_scanStylesheet fun m hm => ?_
    exact (standsIn_of_mem_marks (StylesheetScan.mem_marks_of_mem_referenceMarks hm)).1
  | markup =>
    have hp : (r.findings .markup).references.Perm
        ((r.stylesheet none (scanMarkup r.text).styleBlocks).references ++
          (r.stylesheet (some .unknown) (scanMarkup r.text).inlineStyles).references) := by
      rw [findings, markup_eq]
      refine (Findings.references_append_perm _ _).trans ?_
      rw [references_classLists, List.append_nil]
      exact Findings.references_append_perm _ _
    rw [(hp.map _).nodup_iff, List.map_append, locations_stylesheet, locations_stylesheet,
      ← List.map_append]
    refine r.nodup_map_locate (nodup_referenceMarks_scanMarkup r.text) fun m hm => ?_
    rcases List.mem_append.1 hm with hm | hm
    · exact (standsIn_of_mem_styleBlocks (StylesheetScan.mem_marks_of_mem_referenceMarks hm)).1
    · exact (standsIn_of_mem_inlineStyles (StylesheetScan.mem_marks_of_mem_referenceMarks hm)).1
  | unknown => exact List.nodup_nil

end Reading

/-! ### Rules of a source -/

/-- The rules that are applied to class names. -/
def Rule.ofNames : List Rule := [.blockCase, .elementCase, .flatNesting, .stateInClass]

/-- The rules that are applied to what a source says. -/
def Rule.ofText : List Rule :=
  [.blockCase, .elementCase, .flatNesting, .stateInClass, .selectorSyntax, .layoutBlockMutex]

/-- The rules that are applied to a source by itself. -/
def Rule.ofSource : List Rule :=
  [.blockCase, .elementCase, .flatNesting, .stateInClass, .selectorSyntax, .layoutBlockMutex,
   .inputError]

/-- The finding is one of a rule that is applied to what a source says. -/
def Diagnostic.OfText (d : Diagnostic) : Prop := ∃ rule ∈ Rule.ofText, d.ruleId = rule.id

/-- The finding is one of a rule that is applied to a source by itself. -/
def Diagnostic.OfSource (d : Diagnostic) : Prop := ∃ rule ∈ Rule.ofSource, d.ruleId = rule.id

theorem Diagnostic.OfText.ofSource {d : Diagnostic} (h : d.OfText) : d.OfSource := by
  obtain ⟨rule, hr, e⟩ := h
  refine ⟨rule, ?_, e⟩
  revert hr
  cases rule <;> decide

theorem eq_of_mem_ite {p : Prop} [Decidable p] {d e : Diagnostic}
    (h : d ∈ if p then [e] else []) : d = e := by
  split at h
  · exact List.mem_singleton.1 h
  · simp at h

/-- A finding on a class name is of a rule on names, and is where the class token is. -/
theorem Naming.of_mem_check {c : Config} {o : Occurrence} {d : Diagnostic}
    (h : d ∈ Naming.check c o) :
    (∃ rule ∈ Rule.ofNames, d.ruleId = rule.id) ∧ d.primary = o.location := by
  simp only [Naming.check, List.mem_append] at h
  rcases h with ((h | h) | h) | h
  · rw [eq_of_mem_ite h]
    exact ⟨⟨.blockCase, by decide, rfl⟩, rfl⟩
  · rw [eq_of_mem_ite h]
    exact ⟨⟨.elementCase, by decide, rfl⟩, rfl⟩
  · rw [eq_of_mem_ite h]
    exact ⟨⟨.flatNesting, by decide, rfl⟩, rfl⟩
  · unfold Naming.stateInClass at h
    split at h
    · rw [List.mem_singleton.1 h]
      exact ⟨⟨.stateInClass, by decide, rfl⟩, rfl⟩
    · simp at h

theorem Naming.ofText_of_mem_check {c : Config} {o : Occurrence} {d : Diagnostic}
    (h : d ∈ Naming.check c o) : d.OfText := by
  obtain ⟨⟨rule, hr, e⟩, -⟩ := Naming.of_mem_check h
  refine ⟨rule, ?_, e⟩
  revert hr
  cases rule <;> decide

/-- A finding on a class list is of the rule on layouts, and is where the class list is. -/
theorem ClassList.of_mem_checkLayout {l : ClassList} {d : Diagnostic} (h : d ∈ l.checkLayout) :
    d.ruleId = Rule.layoutBlockMutex.id ∧ d.primary = l.location := by
  unfold ClassList.checkLayout at h
  split at h
  · rw [List.mem_singleton.1 h]
    exact ⟨rfl, rfl⟩
  · simp at h

theorem ClassList.ofText_of_mem_checkLayout {l : ClassList} {d : Diagnostic}
    (h : d ∈ l.checkLayout) : d.OfText :=
  ⟨.layoutBlockMutex, by decide, (ClassList.of_mem_checkLayout h).1⟩

theorem Findings.Shown.ofText {file : String} {text : List Char} {ok : Nat → Prop}
    {token : String → List Char} {f : Findings} (h : f.Shown file text ok token) :
    ∀ d ∈ f.diagnostics, d.OfText := by
  intro d hd
  obtain ⟨e, l, rfl, -⟩ := h.refused d hd
  exact ⟨.selectorSyntax, by decide, rfl⟩

theorem Reading.ofText_of_mem_findings (r : Reading) (kind : SourceKind) :
    ∀ d ∈ (r.findings kind).diagnostics, d.OfText :=
  r.findings_of_shown (P := fun f => ∀ d ∈ f.diagnostics, d.OfText) (by simp)
    (fun _ _ ha hb => List.forall_mem_append.2 ⟨ha, hb⟩) (fun _ _ _ h => h.ofText) kind

/-! ### Facts -/

namespace Facts

variable (c : Config) (s : Source)

/-- What is found comes from a text, if only the empty one of an unknown kind, or the source cannot
be read. -/
theorem found_collect_cases :
    (∃ r : Reading, r.path = s.path ∧ (collect c s).found = r.findings (collect c s).kind) ∨
      (collect c s).found = { diagnostics := [unreadableFinding s.path] } := by
  unfold collect
  dsimp only
  -- How the kind is told from the path does not matter.
  generalize SourceKind.ofPath s.path = kind
  split
  · next hk =>
    refine Or.inl ⟨⟨c, s.path, c.isTheme s.path, []⟩, rfl, ?_⟩
    simp only [hk, Reading.findings]
  · split
    · exact Or.inr rfl
    · exact Or.inl ⟨_, rfl, rfl⟩

theorem path_collect : (collect c s).path = s.path := by
  unfold collect
  dsimp only
  split
  · rfl
  · split <;> rfl

/-- Everything found is in the file of the source, and no two references have the same location. -/
structure Placed (f : Facts) : Prop where
  inFile : f.found.InFile f.path
  distinct : (f.found.references.map (·.location)).Nodup

theorem placed_collect : (collect c s).Placed := by
  have hp := path_collect c s
  rcases found_collect_cases c s with ⟨r, hr, h⟩ | h
  · constructor
    · rw [h, hp, ← hr]
      exact r.inFile_findings _
    · rw [h]
      exact r.nodup_locations_findings _
  · constructor
    · rw [h]
      exact ⟨by simp, by simp, by simp⟩
    · rw [h]
      exact List.nodup_nil

/-- The rules that look at one source add findings and change nothing else. -/
theorem check_cases : ∃ ds, (∀ d ∈ ds, d.OfText) ∧ check c s =
    { collect c s with found.diagnostics := (collect c s).found.diagnostics ++ ds } := by
  unfold check
  dsimp only
  split
  · exact ⟨[], by simp, by simp⟩
  · refine ⟨ruleFindings c (collect c s).found, fun d hd => ?_, rfl⟩
    rcases List.mem_append.1 hd with hd | hd
    · obtain ⟨o, -, hd⟩ := List.mem_flatMap.1 hd
      exact Naming.ofText_of_mem_check hd
    · obtain ⟨l, -, hd⟩ := List.mem_flatMap.1 hd
      exact ClassList.ofText_of_mem_checkLayout hd

@[simp] theorem excluded_check : (check c s).excluded = (collect c s).excluded := by
  obtain ⟨ds, -, e⟩ := check_cases c s
  rw [e]

@[simp] theorem declarations_check :
    (check c s).found.declarations = (collect c s).found.declarations := by
  obtain ⟨ds, -, e⟩ := check_cases c s
  rw [e]

@[simp] theorem usages_check : (check c s).found.usages = (collect c s).found.usages := by
  obtain ⟨ds, -, e⟩ := check_cases c s
  rw [e]

/-- Everything that rules look at, and every finding so far, is in the given file. -/
structure FoundIn (file : String) (f : Findings) : Prop where
  occurrences : ∀ o ∈ f.occurrences, o.location.file = file
  classLists : ∀ l ∈ f.classLists, l.location.file = file
  diagnostics : ∀ d ∈ f.diagnostics, d.primary.file = file

theorem foundIn_collect : FoundIn s.path (collect c s).found := by
  rcases found_collect_cases c s with ⟨r, hr, h⟩ | h
  · rw [h, ← hr]
    refine r.findings_of_shown ⟨by simp, by simp, by simp⟩ (fun a b ha hb => ?_) ?_ _
    · exact ⟨List.forall_mem_append.2 ⟨ha.1, hb.1⟩, List.forall_mem_append.2 ⟨ha.2, hb.2⟩,
        List.forall_mem_append.2 ⟨ha.3, hb.3⟩⟩
    · intro ok token f hf
      refine ⟨fun o ho => (hf.occurrences o ho).file_eq, fun l hl => (hf.classLists l hl).file_eq,
        fun d hd => ?_⟩
      obtain ⟨e, l, rfl, hl⟩ := hf.refused d hd
      exact hl.file_eq
  · rw [h]
    exact ⟨by simp, by simp, by simp [unreadableFinding, Rule.finding, Location.wholeFile]⟩

/-- A finding of a source is in its file. -/
theorem file_of_mem_check {d : Diagnostic} (h : d ∈ (check c s).found.diagnostics) :
    d.primary.file = s.path := by
  have hf := foundIn_collect c s
  unfold check at h
  dsimp only at h
  split at h
  · exact hf.diagnostics d h
  · rcases List.mem_append.1 h with h | h
    · exact hf.diagnostics d h
    · rcases List.mem_append.1 h with h | h
      · obtain ⟨o, ho, h⟩ := List.mem_flatMap.1 h
        rw [(Naming.of_mem_check h).2, hf.occurrences o ho]
      · obtain ⟨l, hl, h⟩ := List.mem_flatMap.1 h
        rw [(ClassList.of_mem_checkLayout h).2, hf.classLists l hl]

/-- A source is found fault with for what it says, or because it cannot be read. -/
theorem mem_check_cases {d : Diagnostic} (h : d ∈ (check c s).found.diagnostics) :
    d.OfText ∨ d = unreadableFinding s.path := by
  obtain ⟨ds, hds, e⟩ := check_cases c s
  rw [e] at h
  rcases List.mem_append.1 h with h | h
  · rcases found_collect_cases c s with ⟨r, -, hf⟩ | hf
    · exact Or.inl (r.ofText_of_mem_findings _ d (hf ▸ h))
    · rw [hf] at h
      exact Or.inr (List.mem_singleton.1 h)
  · exact Or.inl (hds d h)

theorem ofSource_of_mem_check {d : Diagnostic} (h : d ∈ (check c s).found.diagnostics) :
    d.OfSource := by
  rcases mem_check_cases c s h with h | rfl
  · exact h.ofSource
  · exact ⟨.inputError, by decide, rfl⟩

end Facts

end BeamLint
