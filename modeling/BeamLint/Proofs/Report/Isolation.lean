import BeamLint.Proofs.Report.SourceOrder
import Mathlib

/-!
# Sources that have no say

A source whose kind is not known, or which cannot be read, has no say in what is found in other
sources: it declares nothing and uses nothing, so the graph is the same without it. A source of
unknown kind leaves no trace at all. One that cannot be read has a finding of its own, on the file
as a whole, which no other rule can find; so the report is the one without the source, with this
finding put into its place (`Report.diagnostics_aggregate_insert`).
-/

namespace BeamLint

open Diagnostic

/-! ### Contents that cannot be read -/

/-- Contents without a text to check: bytes that are not UTF-8, bytes with the trace of an earlier
lossy decoding, and nothing but blanks. -/
inductive Content.Unreadable : Content → Prop where
  | invalid {b : ByteArray} (h : String.fromUTF8? b = none) : Unreadable (.bytes b)
  | lossy {b : ByteArray} {s : String} (h : String.fromUTF8? b = some s)
      (hr : replacementChar ∈ s.toList) : Unreadable (.bytes b)
  | blankBytes {b : ByteArray} {s : String} (h : String.fromUTF8? b = some s)
      (hb : Text.isAllBlank s.toList) : Unreadable (.bytes b)
  | blankText {s : String} (hb : Text.isAllBlank s.toList) : Unreadable (.text s)

/-- These are all contents that are refused. -/
theorem Content.decode_eq_none_iff {content : Content} :
    content.decode = none ↔ content.Unreadable := by
  cases content with
  | text s =>
    constructor
    · intro h
      exact .blankText (by simpa [decode] using h)
    · rintro ⟨⟩
      simpa [decode]
  | bytes b =>
    cases hb : String.fromUTF8? b with
    | none => exact ⟨fun _ => .invalid hb, fun _ => by simp [decode, decodeBytes, hb]⟩
    | some s =>
      have hiff : (Content.bytes b).decode = none ↔
          replacementChar ∈ s.toList ∨ Text.isAllBlank s.toList := by
        by_cases hr : replacementChar ∈ s.toList <;> simp [decode, decodeBytes, hb, hr]
      rw [hiff]
      constructor
      · exact fun h => h.elim (.lossy hb) (.blankBytes hb)
      · rintro (h | ⟨h, hr⟩ | ⟨h, hblank⟩)
        · simp [hb] at h
        · obtain rfl := Option.some.inj (hb.symm.trans h)
          exact Or.inl hr
        · obtain rfl := Option.some.inj (hb.symm.trans h)
          exact Or.inr hblank

namespace Facts

variable {c : Config} {s : Source}

theorem found_check_of_unreadable (hk : SourceKind.ofPath s.path ≠ .unknown)
    (hs : s.content.Unreadable) :
    (check c s).found = { diagnostics := [unreadableFinding s.path] } := by
  simp [check, collect, hk, Content.decode_eq_none_iff.2 hs]

theorem found_check_of_unknown (hk : SourceKind.ofPath s.path = .unknown) :
    (check c s).found = {} := by
  simp [check, collect, hk]

/-- Neither kind of source declares or uses anything. -/
theorem found_check_silent (h : SourceKind.ofPath s.path = .unknown ∨ s.content.Unreadable) :
    (check c s).found.declarations = [] ∧ (check c s).found.usages = [] := by
  by_cases hk : SourceKind.ofPath s.path = .unknown
  · simp [found_check_of_unknown hk]
  · simp [found_check_of_unreadable hk (h.resolve_left hk)]

end Facts

/-! ### A finding that is put into a report -/

namespace Report

variable {d : Diagnostic} {ds as bs : List Diagnostic}

/-- Put into its place, a finding with a new key leaves the order strict. -/
theorem pairwise_orderedInsert (h : ds.Pairwise fun a b => a.order b = .lt)
    (hd : ∀ e ∈ ds, e.key ≠ d.key) :
    (ds.orderedInsert (fun a b => (a.order b).isLE) d).Pairwise fun a b => a.order b = .lt := by
  induction ds with
  | nil => exact List.pairwise_singleton _ d
  | cons e ds ih =>
    obtain ⟨he, hds⟩ := List.pairwise_cons.1 h
    obtain ⟨hne, hd⟩ := List.forall_mem_cons.1 hd
    rw [List.orderedInsert_cons]
    split
    · next hle =>
      have hlt : d.order e = .lt := by
        cases ho : d.order e with
        | lt => rfl
        | eq => exact absurd (key_eq_of_order_eq ho).symm hne
        | gt => simp [ho] at hle
      refine List.pairwise_cons.2 ⟨List.forall_mem_cons.2 ⟨hlt, fun a ha => ?_⟩, h⟩
      exact Std.TransCmp.lt_trans hlt (he a ha)
    · next hle =>
      have hlt : e.order d = .lt := by
        rw [← order_swap]
        cases ho : d.order e <;> simp_all
      refine List.pairwise_cons.2 ⟨fun a ha => ?_, ih hds hd⟩
      rcases (List.mem_orderedInsert _).1 ha with rfl | ha
      · exact hlt
      · exact he a ha

/-- Where nothing else has the key of a finding, it is shown, and so is all that is shown without
it. -/
theorem mem_aggregate_insert (h : ∀ e ∈ as ++ bs, e.key = d.key → e = d) {e : Diagnostic} :
    e ∈ (aggregate (as ++ d :: bs)).diagnostics ↔
      e = d ∨ e ∈ (aggregate (as ++ bs)).diagnostics := by
  by_cases hk : e.key = d.key
  · have hfirst : firstOf (as ++ d :: bs) d.key = some d := by
      have hsome : (firstOf (as ++ d :: bs) d.key).isSome :=
        List.find?_isSome.2 ⟨d, by simp, by simp⟩
      obtain ⟨a, ha⟩ := Option.isSome_iff_exists.1 hsome
      have hmem : a = d ∨ a ∈ as ++ bs := by
        simpa [or_left_comm] using List.mem_of_find?_eq_some ha
      have hkey : a.key = d.key := by simpa using List.find?_some ha
      rw [ha, hmem.elim id fun hm => h a hm hkey]
    rw [mem_aggregate_iff, hk, hfirst, Option.some.injEq]
    exact ⟨fun e => Or.inl e.symm,
      fun hor => (hor.elim id fun hm => h e (mem_of_mem_aggregate hm) hk).symm⟩
  · have hskip : firstOf (as ++ d :: bs) e.key = firstOf (as ++ bs) e.key := by
      rw [firstOf_append, firstOf_append, firstOf, firstOf, firstOf,
        List.find?_cons_of_neg (by simpa using Ne.symm hk)]
    have hne : e ≠ d := fun he => hk (he ▸ rfl)
    rw [mem_aggregate_iff, hskip, mem_aggregate_iff, or_iff_right hne]

/-- A finding whose key nothing else has is put into its place, unless it is there already. -/
theorem diagnostics_aggregate_insert (h : ∀ e ∈ as ++ bs, e.key = d.key → e = d) :
    (aggregate (as ++ d :: bs)).diagnostics =
      if d ∈ (aggregate (as ++ bs)).diagnostics then (aggregate (as ++ bs)).diagnostics
      else (aggregate (as ++ bs)).diagnostics.orderedInsert (fun a b => (a.order b).isLE) d := by
  split
  · next hd =>
    refine eq_of_mem_iff (pairwise_aggregate _) (pairwise_aggregate _) fun e => ?_
    rw [mem_aggregate_insert h, or_iff_right_of_imp fun he => he ▸ hd]
  · next hd =>
    have hkeys : ∀ e ∈ (aggregate (as ++ bs)).diagnostics, e.key ≠ d.key := fun e he hk =>
      hd (h e (mem_of_mem_aggregate he) hk ▸ he)
    refine eq_of_mem_iff (pairwise_aggregate _)
      (pairwise_orderedInsert (pairwise_aggregate _) hkeys) fun e => ?_
    rw [mem_aggregate_insert h, List.mem_orderedInsert]

end Report

/-! ### The finding on a source that cannot be read -/

variable {c : Config} {d : Diagnostic}

/-- Nothing else in a run has the key of the finding on a source that cannot be read. -/
theorem eq_unreadableFinding_of_key_eq {sources : List Source} {g : Graph} {path : String}
    (h : d ∈ (sources.map (Facts.check c)).flatMap (·.found.diagnostics) ++ g.check c)
    (hk : d.key = (unreadableFinding path).key) : d = unreadableFinding path := by
  have hrule : d.ruleId = Rule.inputError.id := congrArg (·.1) hk
  rcases List.mem_append.1 h with h | h
  · rw [List.flatMap_map] at h
    obtain ⟨s, -, h⟩ := List.mem_flatMap.1 h
    rcases Facts.mem_check_cases c s h with ⟨rule, hr, e⟩ | rfl
    · obtain rfl : rule = .inputError := Rule.id_inj.1 (e.symm.trans hrule)
      exact absurd hr (by decide)
    · -- The key tells the path.
      have hpath : s.path = path := congrArg (·.2.1.file) hk
      rw [hpath]
  · exact absurd hrule (Rule.ruleId_ne (Graph.exists_rule_of_mem_check h) (by decide))

/-! ### Runs with and without the source -/

/-- A source that declares and uses nothing is not seen in the graph. -/
theorem graphOf_insert {f : Facts} (hf : f.found.declarations = [] ∧ f.found.usages = [])
    (fs gs : List Facts) : Run.graphOf (fs ++ f :: gs) = Run.graphOf (fs ++ gs) := by
  cases he : f.excluded <;> simp [Run.graphOf, he, hf]

/-- What is found on such a source is found besides all that is found without it. -/
theorem reportOf_insert {f : Facts} (hf : f.found.declarations = [] ∧ f.found.usages = [])
    (fs gs : List Facts) :
    Run.reportOf c (fs ++ f :: gs) =
      .aggregate (fs.flatMap (·.found.diagnostics) ++ (f.found.diagnostics ++
        (gs.flatMap (·.found.diagnostics) ++ (Run.graphOf (fs ++ gs)).check c))) := by
  rw [Run.reportOf, graphOf_insert hf, List.flatMap_append, List.flatMap_cons, List.append_assoc,
    List.append_assoc]

/-- **Sources that cannot be read or are of unknown kind are isolated.** With a source that cannot
be read, a run fails, and it shows what it shows without the source and the finding on the source,
once and in its place. With a source of unknown kind, the report is the same as without it. Either
source leaves the graph as it is, so that nothing in it can resolve a reference. -/
theorem checkSources_isolated (hc : c.validate = .ok c) (s : Source) (front back : List Source) :
    (SourceKind.ofPath s.path ≠ .unknown → s.content.Unreadable →
        ∃ r r', checkSources c (front ++ back) = .ok r ∧
          checkSources c (front ++ s :: back) = .ok r' ∧ r'.status = .failed ∧
          (unreadableFinding s.path).ruleId = "rule:input-error" ∧
          (unreadableFinding s.path).locations = [⟨s.path, 0, 0⟩] ∧
          r'.diagnostics =
            if unreadableFinding s.path ∈ r.diagnostics then r.diagnostics
            else r.diagnostics.orderedInsert (fun a b => (a.order b).isLE)
              (unreadableFinding s.path)) ∧
      (SourceKind.ofPath s.path = .unknown →
        ∃ r, checkSources c (front ++ back) = .ok r ∧ checkSources c (front ++ s :: back) = .ok r) ∧
      (SourceKind.ofPath s.path = .unknown ∨ s.content.Unreadable →
        Run.graphOf ((front ++ s :: back).map (Facts.check c)) =
          Run.graphOf ((front ++ back).map (Facts.check c))) := by
  simp only [checkSources_eq hc, List.map_append, List.map_cons]
  refine ⟨fun hk hs => ⟨_, _, rfl, rfl, ?_⟩, fun hk => ⟨_, rfl, ?_⟩, ?_⟩
  · have hunique : ∀ e ∈ (front.map (Facts.check c)).flatMap (·.found.diagnostics) ++
        ((back.map (Facts.check c)).flatMap (·.found.diagnostics) ++
          (Run.graphOf (front.map (Facts.check c) ++ back.map (Facts.check c))).check c),
        e.key = (unreadableFinding s.path).key → e = unreadableFinding s.path := by
      intro e he
      rw [← List.append_assoc, ← List.flatMap_append, ← List.map_append] at he
      exact eq_unreadableFinding_of_key_eq he
    rw [reportOf_insert (Facts.found_check_silent (Or.inr hs)),
      Facts.found_check_of_unreadable hk hs, Run.reportOf, List.flatMap_append, List.append_assoc,
      List.singleton_append]
    refine ⟨?_, rfl, rfl, Report.diagnostics_aggregate_insert hunique⟩
    exact Report.statusOf_eq_failed ((Report.mem_aggregate_insert hunique).2 (Or.inl rfl)) rfl
  · rw [reportOf_insert (Facts.found_check_silent (Or.inl hk)), Facts.found_check_of_unknown hk,
      List.nil_append, Run.reportOf, List.flatMap_append, List.append_assoc]
  · exact fun h => graphOf_insert (Facts.found_check_silent h) _ _

/-- A stylesheet with a byte that no UTF-8 text has. -/
def brokenStylesheet : Source := ⟨"b.css", .bytes ⟨#[0xff]⟩⟩

/-- A note with a declaration in it, which is not looked at. -/
def plainNote : Source := ⟨"notes.txt", .text ":root\x7b--x:1\x7d"⟩

theorem checkSources_isolated_brokenStylesheet :
    Config.validate {} = .ok {} ∧
      (SourceKind.ofPath brokenStylesheet.path ≠ .unknown ∧ brokenStylesheet.content.Unreadable ∧
        ∃ r, checkSources {} (themeAndCard ++ brokenStylesheet :: themeAndCard) = .ok r ∧
          r.status = .failed) ∧
      SourceKind.ofPath plainNote.path = .unknown ∧
        ∃ r, checkSources {} (themeAndCard ++ themeAndCard) = .ok r ∧
          checkSources {} (themeAndCard ++ plainNote :: themeAndCard) = .ok r := by
  have hc : Config.validate {} = .ok {} := by decide
  have hknown : SourceKind.ofPath brokenStylesheet.path ≠ .unknown := by decide +kernel
  have hbroken : brokenStylesheet.content.Unreadable := .invalid (by decide +kernel)
  have hunknown : SourceKind.ofPath plainNote.path = .unknown := by decide +kernel
  obtain ⟨hread, -⟩ := checkSources_isolated hc brokenStylesheet themeAndCard themeAndCard
  obtain ⟨-, hkind, -⟩ := checkSources_isolated hc plainNote themeAndCard themeAndCard
  obtain ⟨-, r, -, hr, hfailed, -⟩ := hread hknown hbroken
  exact ⟨hc, ⟨hknown, hbroken, r, hr, hfailed⟩, hunknown, hkind hunknown⟩

end BeamLint
