import BeamLint.Proofs.Json.Roundtrip
import BeamLint.Proofs.Report.References
import BeamLint.Proofs.Report.NormalForm
import BeamLint.Proofs.Text.Title
import BeamLint.Report.Json
import BeamLint.Report.Text
import BeamLint.Service.Response
import Mathlib

/-!
# The views of a report agree

The plain view and the Markdown view go through the findings and begin a new heading where the file
changes. A report is ordered by file first, so every file has one heading, and the headings and
what stands under them are told by the findings alone (`IsSectioned.unique`). Under its heading each
finding has its lines (`findingText`, `findingMarkdown`), which are spelled out here, apart from the
functions that write them.

The counts by severity and by rule count every finding once. The service and the JSON view write
findings each in a way of its own; but for the order of the fields of an object it is the same.
-/

namespace BeamLint

namespace Report

/-! ### Headings -/

/-- The findings under headings: every file that has findings is a heading once, the headings are in
strictly increasing order, and the findings stand under their own file and in their order. -/
structure IsSectioned (ds : List Diagnostic) (sections : List (String × List Diagnostic)) :
    Prop where
  increasing : (sections.map Prod.fst).Pairwise (· < ·)
  heading_iff : ∀ file, file ∈ sections.map Prod.fst ↔ ∃ d ∈ ds, d.primary.file = file
  findings : sections.flatMap Prod.snd = ds
  own : ∀ s ∈ sections, ∀ d ∈ s.2, d.primary.file = s.1

variable {ds : List Diagnostic}

theorem IsSectioned.nodup {sections : List (String × List Diagnostic)}
    (h : IsSectioned ds sections) : (sections.map Prod.fst).Nodup :=
  h.increasing.imp fun {_ _} hlt => ne_of_lt hlt

/-- Under a heading stand all findings of the file. -/
theorem IsSectioned.eq_filter {sections : List (String × List Diagnostic)}
    (h : IsSectioned ds sections) {s : String × List Diagnostic} (hs : s ∈ sections) :
    s.2 = ds.filter fun d => d.primary.file = s.1 := by
  obtain ⟨before, after, rfl⟩ := List.append_of_mem hs
  -- The other headings differ from this one, so nothing under them has its file.
  have hother : ∀ t ∈ before ++ after, t.1 ≠ s.1 := by
    have hnodup := h.nodup
    rw [List.map_append, List.map_cons, List.nodup_middle, List.nodup_cons,
      ← List.map_append] at hnodup
    intro t ht e
    exact hnodup.1 (e ▸ List.mem_map_of_mem ht)
  have hnone (ss : List (String × List Diagnostic)) (hss : ss ⊆ before ++ after) :
      (ss.flatMap Prod.snd).filter (fun d => d.primary.file = s.1) = [] := by
    refine List.filter_eq_nil_iff.2 fun d hd => ?_
    obtain ⟨t, ht, hd⟩ := List.mem_flatMap.1 hd
    have hmem : t ∈ before ++ s :: after := by
      have := hss ht
      simp only [List.mem_append, List.mem_cons] at this ⊢
      tauto
    simpa [h.own t hmem d hd] using hother t (hss ht)
  have hself : s.2.filter (fun d => d.primary.file = s.1) = s.2 :=
    List.filter_eq_self.2 fun d hd => by simpa using h.own s hs d hd
  rw [← h.findings, List.flatMap_append, List.flatMap_cons, List.filter_append, List.filter_append,
    hself, hnone before (by simp), hnone after (by simp), List.nil_append, List.append_nil]

theorem IsSectioned.unique {sections sections' : List (String × List Diagnostic)}
    (h : IsSectioned ds sections) (h' : IsSectioned ds sections') : sections = sections' := by
  have htold {ss : List (String × List Diagnostic)} (hss : IsSectioned ds ss) :
      ss = (ss.map Prod.fst).map fun file => (file, ds.filter fun d => d.primary.file = file) := by
    rw [List.map_map]
    refine (List.map_id ss).symm.trans (List.map_congr_left fun s hs => ?_)
    exact Prod.ext rfl (hss.eq_filter hs)
  have hheadings : sections.map Prod.fst = sections'.map Prod.fst := by
    refine List.Perm.eq_of_pairwise (fun a b _ _ hab hba => absurd hab hba.not_gt) h.increasing
      h'.increasing ((List.perm_ext_iff_of_nodup h.nodup h'.nodup).2 fun file => ?_)
    rw [h.heading_iff, h'.heading_iff]
  rw [htold h, htold h', hheadings]

@[simp] theorem flatMap_byFile (ds : List Diagnostic) : (byFile ds).flatMap Prod.snd = ds := by
  induction ds with
  | nil => rfl
  | cons d rest ih =>
    rw [byFile]
    split
    · next file group groups hrest =>
      rw [hrest] at ih
      split <;> simpa using ih
    · next hrest =>
      rw [hrest] at ih
      simpa using ih

/-- A stretch has findings, all of them of its file. -/
theorem file_of_mem_byFile {s : String × List Diagnostic} (hs : s ∈ byFile ds) :
    s.2 ≠ [] ∧ ∀ d ∈ s.2, d.primary.file = s.1 := by
  induction ds generalizing s with
  | nil => simp [byFile] at hs
  | cons d rest ih =>
    rw [byFile] at hs
    split at hs
    · next file group groups hrest =>
      rw [hrest] at ih
      have hfirst := (ih List.mem_cons_self).2
      split at hs
      · next e =>
        rcases List.mem_cons.1 hs with rfl | hs
        · exact ⟨by simp, List.forall_mem_cons.2 ⟨e.symm, hfirst⟩⟩
        · exact ih (List.mem_cons_of_mem _ hs)
      · rcases List.mem_cons.1 hs with rfl | hs
        · simp
        · exact ih hs
    · obtain rfl := List.mem_singleton.1 hs
      simp

theorem mem_map_fst_byFile {file : String} :
    file ∈ (byFile ds).map Prod.fst ↔ ∃ d ∈ ds, d.primary.file = file := by
  constructor
  · intro h
    obtain ⟨s, hs, rfl⟩ := List.mem_map.1 h
    obtain ⟨hne, hown⟩ := file_of_mem_byFile hs
    obtain ⟨d, hd⟩ := List.exists_mem_of_ne_nil _ hne
    refine ⟨d, ?_, hown d hd⟩
    rw [← flatMap_byFile ds]
    exact List.mem_flatMap.2 ⟨s, hs, hd⟩
  · rintro ⟨d, hd, rfl⟩
    rw [← flatMap_byFile ds] at hd
    obtain ⟨s, hs, hd⟩ := List.mem_flatMap.1 hd
    exact List.mem_map.2 ⟨s, hs, ((file_of_mem_byFile hs).2 d hd).symm⟩

/-- In findings that are ordered by file, no file comes back after its stretch. -/
theorem pairwise_map_fst_byFile
    (h : ds.Pairwise fun a b => a.primary.file ≤ b.primary.file) :
    ((byFile ds).map Prod.fst).Pairwise (· < ·) := by
  induction ds with
  | nil => exact List.Pairwise.nil
  | cons d rest ih =>
    obtain ⟨hd, hrest⟩ := List.pairwise_cons.1 h
    have hlater := ih hrest
    have hle : ∀ file ∈ (byFile rest).map Prod.fst, d.primary.file ≤ file := by
      intro file hfile
      obtain ⟨e, he, rfl⟩ := mem_map_fst_byFile.1 hfile
      exact hd e he
    rw [byFile]
    split
    · next file group groups e =>
      rw [e, List.map_cons] at hlater hle
      split
      · exact hlater
      · next hne =>
        have hlt : d.primary.file < file :=
          lt_of_le_of_ne (hle file List.mem_cons_self) (Ne.symm hne)
        refine List.pairwise_cons.2 ⟨List.forall_mem_cons.2 ⟨hlt, fun other ho => ?_⟩, hlater⟩
        exact hlt.trans (List.rel_of_pairwise_cons hlater ho)
    · exact List.pairwise_singleton _ _

/-- A report is ordered by file first. -/
theorem pairwise_file_aggregate (ds : List Diagnostic) :
    (aggregate ds).diagnostics.Pairwise fun a b => a.primary.file ≤ b.primary.file := by
  refine (pairwise_aggregate ds).imp fun {a b} h => ?_
  have hkey := Diagnostic.order_eq_lt_iff.1 h
  rw [Diagnostic.sortKey, Diagnostic.sortKey, Prod.Lex.toLex_lt_toLex] at hkey
  rcases hkey with hlt | ⟨he, -⟩
  · exact le_of_lt hlt
  · exact le_of_eq he

theorem isSectioned_byFile_aggregate (ds : List Diagnostic) :
    IsSectioned (aggregate ds).diagnostics (byFile (aggregate ds).diagnostics) where
  increasing := pairwise_map_fst_byFile (pairwise_file_aggregate ds)
  heading_iff _ := mem_map_fst_byFile
  findings := flatMap_byFile _
  own _ hs := (file_of_mem_byFile hs).2

/-! ### The names of rules in the Markdown view -/

theorem removeAll_of_notMem {pattern text : List Char} {mark : Char} (hp : mark ∈ pattern)
    (h : mark ∉ text) : removeAll pattern 0 text = text := by
  induction text with
  | nil => rfl
  | cons c text ih =>
    have hno : ¬ pattern.isPrefixOf (c :: text) := fun hpre =>
      h ((List.isPrefixOf_iff_prefix.1 hpre).subset hp)
    rw [removeAll, if_neg hno, ih fun hm => h (List.mem_cons_of_mem c hm)]

/-- A rule is called by the words of its identifier, each with a capital. -/
theorem headingCase_rule {words : List (List Char)} (h : Text.AreWords words) :
    headingCase ("rule:" ++ String.ofList (['-'].intercalate words)) =
      String.ofList ([' '].intercalate (words.map Text.capitalized)) := by
  have hcolon : ':' ∉ ['-'].intercalate words := fun hm => by
    simpa using Text.isAlpha_of_mem_intercalate h hm
  have hremoved : removeAll ruleMark 0
      ("rule:" ++ String.ofList (['-'].intercalate words)).toList = ['-'].intercalate words := by
    rw [String.toList_append, String.toList_ofList, String.toList_ofList]
    exact removeAll_of_notMem (by decide : ':' ∈ ruleMark) hcolon
  have hwords : Text.replaceChar '_' ' ' (Text.replaceChar '-' ' ' (['-'].intercalate words)) =
      [' '].intercalate words := by
    rw [Text.replaceChar_intercalate h (by decide), Text.replaceChar_intercalate h (by decide)]
    rfl
  rw [headingCase, hremoved, hwords, Text.trim_words h, Text.title_words h]

/-! ### What is shown of a finding -/

/-- A place as a reader is told it. -/
def shownPlace (l : Location) : String :=
  l.file ++ ":" ++ toString l.line ++ ":" ++ toString l.column

/-- The way to mend a finding, where there is one to tell. -/
def shownMend (d : Diagnostic) : List String := (d.suggestion.filter (· ≠ "")).toList

/-- What the plain view shows of a finding: its position, severity, rule and message in one line,
and under it every further place and the way to mend it. -/
def findingText (d : Diagnostic) : List String :=
  ["  " ++ toString d.primary.line ++ ":" ++ toString d.primary.column ++ "  " ++
      (if d.severity = .error then "ERROR  " else "WARNING") ++ "  " ++ d.ruleId ++ "  " ++
      d.message] ++
    (d.related.map fun l => "      see " ++ shownPlace l) ++
    (shownMend d).map ("      Fix: " ++ ·)

/-- What the Markdown view shows of a finding: a line with its position, rule and severity, the
message, and a list of the further places and the way to mend it. -/
def findingMarkdown (d : Diagnostic) : List String :=
  let places := d.related.map fun l => "`" ++ shownPlace l ++ "`"
  ["**Line " ++ toString d.primary.line ++ ":" ++ toString d.primary.column ++ " · " ++
      headingCase d.ruleId ++ " · " ++ (if d.severity = .error then "Error" else "Warning") ++ "**",
    "", d.message, ""] ++
    (if places = [] then [] else ["- **Related:** " ++ ", ".intercalate places]) ++
    (shownMend d).map ("- **Fix:** " ++ ·) ++
    [""]

theorem toString_text (s : String) : toString s = s := rfl

theorem shownPlace_eq (l : Location) : shownPlace l = l.render := rfl

theorem severityTag_eq (s : Severity) :
    severityTag s = if s = .error then "ERROR  " else "WARNING" := by
  cases s <;> decide +kernel

theorem headingCase_severity (s : Severity) :
    headingCase s.name = if s = .error then "Error" else "Warning" := by
  cases s <;> decide +kernel

theorem shownMend_eq (d : Diagnostic) :
    shownMend d = d.suggestion.elim [] fun s => if s.isEmpty then [] else [s] := by
  rw [shownMend]
  cases d.suggestion with
  | none => rfl
  | some s => by_cases hs : s = "" <;> simp [Option.filter, hs]

theorem textLines_eq (d : Diagnostic) : textLines d = findingText d := by
  rw [textLines, findingText, shownMend_eq, ← severityTag_eq]
  simp only [shownPlace_eq]
  cases d.suggestion with
  | none => simp [toString_text]
  | some s => by_cases hs : s = "" <;> simp [hs, toString_text]

theorem markdownLines_eq (d : Diagnostic) : markdownLines d = findingMarkdown d := by
  rw [markdownLines, findingMarkdown, shownMend_eq, ← headingCase_severity]
  simp only [shownPlace_eq]
  cases d.suggestion with
  | none => simp [toString_text]
  | some s => by_cases hs : s = "" <;> simp [hs, toString_text]

/-! ### The plain view and the Markdown view -/

/-- A line across the page. -/
def acrossPage (c : Char) : String := String.ofList (List.replicate 80 c)

/-- The plain view of findings under headings. -/
def sectionText (r : Report) (sections : List (String × List Diagnostic)) : String :=
  let errors := r.diagnostics.countP fun d => d.severity = .error
  let warnings := r.diagnostics.countP fun d => d.severity = .warning
  if sections = [] then "\n✓ No BEAM convention issues found\n"
  else
    "\n".intercalate
      (["\n" ++ acrossPage '=', "BEAM Conformance Report", acrossPage '='] ++
        (sections.flatMap fun s =>
          ["\n" ++ s.1, acrossPage '-'] ++ s.2.flatMap findingText) ++
        ["\nSummary: " ++ toString errors ++ " errors, " ++ toString warnings ++ " warnings (" ++
          r.status.name ++ ")", acrossPage '='])

/-- The Markdown view of findings under headings. -/
def sectionMarkdown (r : Report) (generated : Option Moment)
    (sections : List (String × List Diagnostic)) : String :=
  let errors := r.diagnostics.countP fun d => d.severity = .error
  let warnings := r.diagnostics.countP fun d => d.severity = .warning
  "\n".intercalate
    (["# BEAM Conformance Results", ""] ++
      (generated.toList.flatMap fun m => ["Generated: " ++ m.render, ""]) ++
      ["**Status: " ++ r.status.name ++ "** · " ++ toString errors ++ " error(s), " ++
        toString warnings ++ " warning(s).", ""] ++
      if sections = [] then ["No convention issues found.", ""]
      else sections.flatMap fun s => ["## " ++ s.1, ""] ++ s.2.flatMap findingMarkdown)

theorem byFile_eq_nil_iff : byFile ds = [] ↔ ds = [] := by
  constructor
  · intro h
    rw [← flatMap_byFile ds, h]
    rfl
  · rintro rfl
    rfl

theorem status_aggregate_ne_cancelled (ds : List Diagnostic) :
    (aggregate ds).status ≠ .cancelled := by
  change statusOf _ ≠ _
  unfold statusOf
  split
  · simp
  · split <;> simp

theorem errorCount_eq (r : Report) :
    r.errorCount = r.diagnostics.countP fun d => d.severity = .error := by
  rw [errorCount, ofSeverity, List.countP_eq_length_filter]

theorem warningCount_eq (r : Report) :
    r.warningCount = r.diagnostics.countP fun d => d.severity = .warning := by
  rw [warningCount, ofSeverity, List.countP_eq_length_filter]

theorem renderText_aggregate (ds : List Diagnostic) :
    (aggregate ds).renderText =
      (aggregate ds).sectionText (byFile (aggregate ds).diagnostics) := by
  rw [renderText, if_neg (status_aggregate_ne_cancelled ds), sectionText, ← errorCount_eq,
    ← warningCount_eq]
  have hacross (c : Char) : ruleLine c = acrossPage c := rfl
  simp only [List.isEmpty_iff, byFile_eq_nil_iff, funext textLines_eq, hacross]
  simp [toString_text]

theorem renderMarkdown_aggregate (ds : List Diagnostic) (generated : Option Moment) :
    (aggregate ds).renderMarkdown generated =
      (aggregate ds).sectionMarkdown generated (byFile (aggregate ds).diagnostics) := by
  unfold renderMarkdown markdownBody
  rw [if_neg (status_aggregate_ne_cancelled ds), sectionMarkdown, ← errorCount_eq,
    ← warningCount_eq]
  simp only [List.isEmpty_iff, byFile_eq_nil_iff, funext markdownLines_eq]
  cases generated <;> split_ifs <;> simp [toString_text]

/-! ### Counts -/

theorem errorCount_add_warningCount (r : Report) :
    r.errorCount + r.warningCount = r.diagnostics.length := by
  rw [errorCount_eq, warningCount_eq,
    List.length_eq_countP_add_countP (fun d => d.severity = .error)]
  congr 1
  refine List.countP_congr fun d _ => ?_
  cases d.severity <;> simp

theorem pairwise_increasingSet (texts : List String) :
    (increasingSet texts).Pairwise (· < ·) := by
  have hnodup : (increasingSet texts).Nodup := by
    rw [increasingSet, (perm_increasing _).nodup_iff]
    simpa using nodup_map_firsts id texts
  exact (pairwise_increasing _).imp₂ (fun _ _ hle hne => lt_of_le_of_ne hle hne) hnodup

theorem mem_increasingSet {a : String} {texts : List String} :
    a ∈ increasingSet texts ↔ a ∈ texts := by
  rw [increasingSet, mem_increasing, mem_firsts_id]

theorem map_fst_byRule (r : Report) :
    r.byRule.map Prod.fst = increasingSet (r.diagnostics.map (·.ruleId)) := by
  rw [byRule, List.map_map]
  exact List.map_id _

theorem mem_byRule_iff {r : Report} {id : String} {n : Nat} :
    (id, n) ∈ r.byRule ↔ 0 < n ∧ n = r.diagnostics.countP fun d => d.ruleId = id := by
  have hcount : (r.diagnostics.map (·.ruleId)).count id =
      r.diagnostics.countP fun d => d.ruleId = id := by
    rw [List.count, List.countP_map]
    rfl
  rw [← hcount]
  constructor
  · intro h
    obtain ⟨id', hid, e⟩ := List.mem_map.1 h
    obtain ⟨rfl, rfl⟩ := Prod.mk.inj e
    exact ⟨List.count_pos_iff.2 (mem_increasingSet.1 hid), rfl⟩
  · rintro ⟨hpos, rfl⟩
    exact List.mem_map.2 ⟨id, mem_increasingSet.2 (List.count_pos_iff.1 hpos), rfl⟩

/-- Every finding is counted for one rule. -/
theorem sum_byRule (r : Report) : (r.byRule.map Prod.snd).sum = r.diagnostics.length := by
  have hperm := flatMap_filter_perm id
    ((pairwise_increasingSet (r.diagnostics.map (·.ruleId))).imp fun {_ _} hlt => ne_of_lt hlt)
    fun a ha => mem_increasingSet.2 ha
  have hlength := hperm.length_eq
  rw [List.length_flatMap, List.length_map] at hlength
  rw [byRule, List.map_map, ← hlength]
  congr 1
  refine List.map_congr_left fun id _ => ?_
  simp only [Function.comp_apply, List.count, List.countP_eq_length_filter]
  rfl

end Report

/-! ### Findings in the answers of the service -/

namespace Json

mutual

/-- The value with the fields of every object in increasing order of their names. -/
def sorted : Json → Json
  | .arr items => .arr (sortedItems items)
  | .obj fields => .obj ((sortedFields fields).insertionSort fun f g => f.1 ≤ g.1)
  | .null => .null
  | .bool b => .bool b
  | .num mantissa exponent => .num mantissa exponent
  | .str s => .str s

/-- The items of an array, each sorted. -/
def sortedItems : List Json → List Json
  | [] => []
  | item :: items => item.sorted :: sortedItems items

/-- The fields of an object, the value of each sorted. -/
def sortedFields : List (String × Json) → List (String × Json)
  | [] => []
  | (name, value) :: fields => (name, value.sorted) :: sortedFields fields

end

theorem sortedItems_eq_map (items : List Json) : sortedItems items = items.map sorted := by
  induction items with
  | nil => rfl
  | cons item items ih => rw [sortedItems, ih, List.map_cons]

end Json

namespace Service

theorem sorted_locationJson (l : Location) : (locationJson l).sorted = l.toJson := by
  simp [locationJson, Location.toJson, Json.sorted, Json.sortedFields, Json.int,
    List.insertionSort, List.orderedInsert]

theorem sorted_findingJson (d : Diagnostic) : (findingJson d).sorted = d.toJson := by
  have hlocations : (d.locations.map locationJson).map Json.sorted =
      d.locations.map Location.toJson := by
    rw [List.map_map]
    exact List.map_congr_left fun l _ => sorted_locationJson l
  have hsuggestion : (Json.strOrNull d.suggestion).sorted = Json.strOrNull d.suggestion := by
    cases d.suggestion <;> rfl
  simp [findingJson, Diagnostic.toJson, Json.sorted, Json.sortedFields, Json.sortedItems_eq_map,
    hlocations, hsuggestion, List.insertionSort, List.orderedInsert]

/-- The sources that a request asks to check. -/
def CheckRequest.sources (request : CheckRequest) : List Source :=
  request.files.map fun f => ⟨f.path, .text f.content⟩

variable {service : Except ConfigError Config} {method target : String} {body : Option Json}
  {request : CheckRequest} {c : Config} {r : Report}

theorem answer_check (hroute : Route.ofTarget? target = some .check)
    (hmethod : Text.upperString method = Route.check.method)
    (hrequest : readRequest body = .ok request)
    (hsettings : settings service request.options = .ok c)
    (hr : checkSources c request.sources = .ok r) :
    answer service method target body = ⟨200, .json (checkJson c r)⟩ := by
  have hrun : run service request = .ok (r, c) := by
    rw [run, hsettings]
    show (do let report ← checkSources c request.sources; return (report, c)) = _
    rw [hr]
    rfl
  simp only [answer, hroute, hmethod, answerCheck, hrequest, hrun]
  rfl

/-- What a run that is not cancelled reports is put together from findings. -/
theorem exists_aggregate_eq {sources : List Source} (hr : checkSources c sources = .ok r) :
    ∃ ds, r = Report.aggregate ds := by
  rw [checkSources] at hr
  cases hc : c.validate with
  | error e => simp [hc, bind, Except.bind] at hr
  | ok c' =>
    rw [hc] at hr
    have hreport : (Run.check c' sources .never).report = r := Except.ok.inj hr
    rw [Run.report_check_never] at hreport
    exact ⟨_, hreport.symm⟩

end Service

open Service in
/-- **The views of a report agree.** The findings of a report can be put under headings in one way,
with every file once and in increasing order, and this is how the plain view and the Markdown view
show them: each finding once, with its position, severity, rule, message, further places and mend.
In the Markdown view a rule is called by its words, with capitals and blanks between them.

The errors and the warnings together are as many as the findings, and so are the findings counted by
rule; the count by rule has the rules that are found, in increasing order, each with how often it is
found. The answer to a request for a check has the findings of the JSON view for the same files and
settings, but for the order of the fields of an object, and the exit code. -/
theorem Report.aggregate_views (ds : List Diagnostic) :
    (∃ sections, (∀ ss, IsSectioned (aggregate ds).diagnostics ss ↔ ss = sections) ∧
      (aggregate ds).renderText = (aggregate ds).sectionText sections ∧
      ∀ generated, (aggregate ds).renderMarkdown generated =
        (aggregate ds).sectionMarkdown generated sections) ∧
    (∀ words, Text.AreWords words →
      headingCase ("rule:" ++ String.ofList (['-'].intercalate words)) =
        String.ofList ([' '].intercalate (words.map Text.capitalized))) ∧
    ((aggregate ds).errorCount + (aggregate ds).warningCount = (aggregate ds).diagnostics.length ∧
      ((aggregate ds).byRule.map Prod.snd).sum = (aggregate ds).diagnostics.length) ∧
    (((aggregate ds).byRule.map Prod.fst).Pairwise (· < ·) ∧
      ∀ id n, (id, n) ∈ (aggregate ds).byRule ↔
        0 < n ∧ n = (aggregate ds).diagnostics.countP fun d => d.ruleId = id) ∧
    ∀ (service : Except ConfigError Config) (method target : String) (body : Option Json)
      (request : CheckRequest) (c : Config) (r : Report),
      Route.ofTarget? target = some .check → Text.upperString method = Route.check.method →
      readRequest body = .ok request → settings service request.options = .ok c →
      checkSources c request.sources = .ok r →
        (∃ ds', r = aggregate ds') ∧
        ∃ answered reported findings,
          answer service method target body = ⟨200, .json (.obj answered)⟩ ∧
          Json.read r.renderJson.toList = some (.obj reported) ∧
          Json.field? answered "diagnostics" = some (.arr findings) ∧
          Json.field? reported "diagnostics" = some (.arr (findings.map Json.sorted)) ∧
          Json.field? answered "exit_code" = some (.int (r.exitCode c.strict)) := by
  refine ⟨⟨_, fun ss => ?_, renderText_aggregate ds, renderMarkdown_aggregate ds⟩,
    fun _ => headingCase_rule, ⟨errorCount_add_warningCount _, sum_byRule _⟩,
    ⟨?_, fun id n => mem_byRule_iff⟩, ?_⟩
  · constructor
    · intro h
      exact h.unique (isSectioned_byFile_aggregate ds)
    · rintro rfl
      exact isSectioned_byFile_aggregate ds
  · rw [map_fst_byRule]
    exact pairwise_increasingSet _
  · intro service method target body request c r hroute hmethod hrequest hsettings hr
    have hread : Json.read r.renderJson.toList = some r.toJson := by
      rw [renderJson, String.toList_ofList, Json.read_print]
    have hsorted : (r.diagnostics.map findingJson).map Json.sorted =
        r.diagnostics.map Diagnostic.toJson := by
      rw [List.map_map]
      exact List.map_congr_left fun d _ => sorted_findingJson d
    refine ⟨exists_aggregate_eq hr, _, _, r.diagnostics.map findingJson,
      answer_check hroute hmethod hrequest hsettings hr, hread, rfl, ?_, rfl⟩
    rw [hsorted]
    rfl

/-- A request to check two stylesheets: the one has a state in the name of a class, the other has
custom properties that fall back to each other. -/
def cardAndCycle : Service.CheckRequest :=
  ⟨[⟨"b.css", ".card-is_open\x7b\x7d"⟩, ⟨"a.css", "a\x7b--a:var(--b);--b:var(--a)\x7d"⟩], none⟩

/-- The request as it is sent. -/
def cardAndCycleBody : Json :=
  .obj [("files", .arr
    (cardAndCycle.files.map fun f => .obj [("path", .str f.path), ("content", .str f.content)]))]

/-- The finding in the first sheet. -/
def openCard : Diagnostic :=
  Rule.stateInClass.finding "Class 'card-is_open' encodes the state 'open' in its name"
    ⟨"b.css", 1, 1⟩ [] "Use a data attribute instead, e.g. [data-state=\"open\"]"

/-- The finding in the second sheet. -/
def fallbackCycle : Diagnostic :=
  Rule.variableCycle.finding "Custom property fallback cycle: --a -> --b -> --a"
    ⟨"a.css", 1, 3⟩ [⟨"a.css", 1, 16⟩]
    "Break the cycle so the chain ends in a semantic token or literal"

/-- The custom properties of the two sheets. -/
def cardAndCycleGraph : Graph where
  declarations :=
    [⟨"--a", .component, [⟨"--b", ⟨"a.css", 1, 11⟩, false⟩], none, ⟨"a.css", 1, 3⟩⟩,
     ⟨"--b", .component, [⟨"--a", ⟨"a.css", 1, 24⟩, false⟩], none, ⟨"a.css", 1, 16⟩⟩]
  usages := []

theorem checkSources_cardAndCycle :
    checkSources {} cardAndCycle.sources = .ok (.aggregate [openCard, fallbackCycle]) := by
  have hsheets : (cardAndCycle.sources.map (Facts.check {})).flatMap (·.found.diagnostics) =
      [openCard] := by decide +kernel
  have hgraph : Run.graphOf (cardAndCycle.sources.map (Facts.check {})) = cardAndCycleGraph := by
    decide +kernel
  have hcycle : cardAndCycleGraph.check {} = [fallbackCycle] := by cbv
  rw [checkSources_eq (by decide), Run.reportOf, hsheets, hgraph, hcycle]
  rfl

theorem diagnostics_cardAndCycle :
    (Report.aggregate [openCard, fallbackCycle]).diagnostics = [fallbackCycle, openCard] := by
  have hfirsts : firsts Diagnostic.key [fallbackCycle, openCard] = [fallbackCycle, openCard] := by
    decide
  have horder : (fallbackCycle.order openCard).isLE := by decide +kernel
  rw [← Report.aggregate_perm (List.Perm.swap _ _ []) (by decide), Report.aggregate, hfirsts]
  exact List.mergeSort_of_pairwise (by simpa using horder)

/-- The words of the rule of the second finding. -/
def cycleWords : List (List Char) :=
  [['v', 'a', 'r', 'i', 'a', 'b', 'l', 'e'], ['c', 'y', 'c', 'l', 'e']]

theorem Report.isSectioned_cardAndCycle : IsSectioned [fallbackCycle, openCard]
    [("a.css", [fallbackCycle]), ("b.css", [openCard])] where
  increasing := by decide
  heading_iff file := by simp [fallbackCycle, openCard, Rule.finding, eq_comm]
  findings := rfl
  own := by decide

open Service in
theorem Report.aggregate_views_cardAndCycle :
    Text.AreWords cycleWords ∧
      headingCase "rule:variable-cycle" = "Variable Cycle" ∧
      (aggregate [openCard, fallbackCycle]).renderText = "\n".intercalate
        ["",
         "================================================================================",
         "BEAM Conformance Report",
         "================================================================================",
         "",
         "a.css",
         "--------------------------------------------------------------------------------",
         "  1:3  ERROR    rule:variable-cycle  Custom property fallback cycle: --a -> --b -> --a",
         "      see a.css:1:16",
         "      Fix: Break the cycle so the chain ends in a semantic token or literal",
         "",
         "b.css",
         "--------------------------------------------------------------------------------",
         "  1:1  WARNING  rule:state-in-class  " ++
           "Class 'card-is_open' encodes the state 'open' in its name",
         "      Fix: Use a data attribute instead, e.g. [data-state=\"open\"]",
         "",
         "Summary: 1 errors, 1 warnings (failed)",
         "================================================================================"] ∧
      (aggregate [openCard, fallbackCycle]).renderMarkdown none = "\n".intercalate
        ["# BEAM Conformance Results",
         "",
         "**Status: failed** · 1 error(s), 1 warning(s).",
         "",
         "## a.css",
         "",
         "**Line 1:3 · Variable Cycle · Error**",
         "",
         "Custom property fallback cycle: --a -> --b -> --a",
         "",
         "- **Related:** `a.css:1:16`",
         "- **Fix:** Break the cycle so the chain ends in a semantic token or literal",
         "",
         "## b.css",
         "",
         "**Line 1:1 · State In Class · Warning**",
         "",
         "Class 'card-is_open' encodes the state 'open' in its name",
         "",
         "- **Fix:** Use a data attribute instead, e.g. [data-state=\"open\"]",
         ""] ∧
      ∃ answered findings,
        answer (.ok {}) "POST" "/check" (some cardAndCycleBody) = ⟨200, .json (.obj answered)⟩ ∧
          Json.field? answered "diagnostics" = some (.arr findings) ∧
          findings.map Json.sorted = [fallbackCycle.toJson, openCard.toJson] ∧
          Json.field? answered "exit_code" = some (.int 1) := by
  have hwords : Text.AreWords cycleWords := by simp [Text.AreWords, cycleWords]
  have hroute : Route.ofTarget? "/check" = some .check := by decide +kernel
  have hmethod : Text.upperString "POST" = Route.check.method := by decide +kernel
  have hrequest : readRequest (some cardAndCycleBody) = .ok cardAndCycle := by rfl
  have hstatus : (aggregate [openCard, fallbackCycle]).status = .failed := by
    change statusOf (aggregate [openCard, fallbackCycle]).diagnostics = _
    rw [diagnostics_cardAndCycle]
    rfl
  obtain ⟨⟨sections, hunique, htext, hmarkdown⟩, hheading, -, -, hviews⟩ :=
    Report.aggregate_views [openCard, fallbackCycle]
  obtain rfl := (hunique _).1 (diagnostics_cardAndCycle ▸ isSectioned_cardAndCycle)
  obtain ⟨-, answered, reported, findings, hanswer, hread, hfindings, hsame, hcode⟩ :=
    hviews (.ok {}) "POST" "/check" _ _ {} _ hroute hmethod hrequest rfl checkSources_cardAndCycle
  have hreport : (aggregate [openCard, fallbackCycle]).toJson = .obj reported := by
    rw [renderJson, String.toList_ofList, Json.read_print] at hread
    exact Option.some.inj hread
  obtain rfl := Json.obj.inj hreport
  refine ⟨hwords, ?_, ?_, ?_, answered, findings, hanswer, hfindings, ?_, ?_⟩
  · have hid : "rule:variable-cycle" = "rule:" ++ String.ofList (['-'].intercalate cycleWords) := by
      decide +kernel
    rw [hid, hheading _ hwords]
    decide +kernel
  · rw [htext, sectionText, diagnostics_cardAndCycle, hstatus]
    decide +kernel
  · rw [hmarkdown, sectionMarkdown, diagnostics_cardAndCycle, hstatus]
    decide +kernel
  · rw [diagnostics_cardAndCycle] at hsame
    exact (Json.arr.inj (Option.some.inj hsame)).symm
  · rw [hcode, exitCode, hstatus]
    rfl

end BeamLint
