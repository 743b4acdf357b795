import BeamLint.Proofs.Stylesheet.Segment
import BeamLint.Proofs.Text.Search
import BeamLint.Proofs.Value.References
import BeamLint.Stylesheet.Scan
import Mathlib.Data.List.Perm.Lattice

/-!
# Where a scan points

A scan claims of certain places that certain texts stand there: the dots of the class names, the
names of the properties, and the names that their values refer to (`StylesheetScan.marks`). Every
claim holds of the scanned text itself, and outside its comments. The references stand at places
that are pairwise different, because segments do not overlap and the references of one value stand
one after the other.
-/

namespace BeamLint

open Text

/-- A place, and what is said to stand there. -/
structure Mark where
  place : Nat
  text : List Char
  deriving Repr, DecidableEq

/-- A mark that holds of a text which starts at place `base`; what it shows has no blanks. -/
structure Mark.StandsIn (base : Nat) (text : List Char) (m : Mark) : Prop where
  solid : Solid m.text
  stands : StandsAt base text m.place m.text

namespace Mark.StandsIn

variable {base i : Nat} {text part : List Char} {m : Mark}

theorem trans (h : StandsAt base text i part) (hm : m.StandsIn i part) : m.StandsIn base text :=
  ⟨hm.solid, h.trans hm.stands⟩

theorem of_blankFound {α : Type} {r : Recognizer α} (hm : m.StandsIn base (blankFound r text)) :
    m.StandsIn base text ∧ OutsideFound r text (m.place - base) := by
  obtain ⟨hs, ho⟩ := hm.stands.of_blankFound hm.solid
  exact ⟨⟨hm.solid, hs⟩, ho⟩

theorem of_keepSpans {spans : List Span} (hm : m.StandsIn 0 (keepSpans spans text)) :
    m.StandsIn 0 text ∧ ∃ s ∈ spans, s.covers m.place := by
  obtain ⟨hs, ho⟩ := hm.stands.of_keepSpans hm.solid
  exact ⟨⟨hm.solid, hs⟩, ho⟩

theorem le (hm : m.StandsIn base text) : base ≤ m.place := hm.stands.le

theorem lt (hm : m.StandsIn base text) : m.place < base + text.length := hm.stands.lt hm.solid

end Mark.StandsIn

/-! ### What a scan claims -/

/-- The names that the value of a property refers to. -/
def PropertySite.referenceMarks (p : PropertySite) : List Mark :=
  (Value.parse p.value.toList).references.map fun r => ⟨p.valueOffset + r.offset, r.name.toList⟩

/-- The name of a property and the names that its value refers to. -/
def PropertySite.marks (p : PropertySite) : List Mark :=
  ⟨p.offset, p.name.toList⟩ :: p.referenceMarks

/-- The dot of a class name. -/
def TokenSite.dot (t : TokenSite) : Mark := ⟨t.offset, ['.']⟩

namespace StylesheetScan

/-- The properties of either kind. -/
def properties (s : StylesheetScan) : List PropertySite := s.declarations ++ s.usages

/-- Everything that a scan claims. -/
def marks (s : StylesheetScan) : List Mark :=
  s.classTokens.map TokenSite.dot ++ s.properties.flatMap PropertySite.marks

/-- The names that the values of the properties refer to. -/
def referenceMarks (s : StylesheetScan) : List Mark :=
  s.properties.flatMap PropertySite.referenceMarks

theorem mem_marks {s : StylesheetScan} {m : Mark} :
    m ∈ s.marks ↔ (∃ t ∈ s.classTokens, m = t.dot) ∨ ∃ p ∈ s.properties, m ∈ p.marks := by
  simp only [marks, List.mem_append, List.mem_map, List.mem_flatMap, eq_comm]

theorem mem_marks_of_mem_referenceMarks {s : StylesheetScan} {m : Mark}
    (h : m ∈ s.referenceMarks) : m ∈ s.marks := by
  obtain ⟨p, hp, hm⟩ := List.mem_flatMap.1 h
  exact mem_marks.2 (Or.inr ⟨p, hp, List.mem_cons_of_mem _ hm⟩)

@[simp] theorem classTokens_append (a b : StylesheetScan) :
    (a ++ b).classTokens = a.classTokens ++ b.classTokens := rfl

@[simp] theorem declarations_append (a b : StylesheetScan) :
    (a ++ b).declarations = a.declarations ++ b.declarations := rfl

@[simp] theorem usages_append (a b : StylesheetScan) :
    (a ++ b).usages = a.usages ++ b.usages := rfl

theorem properties_append_perm (a b : StylesheetScan) :
    (a ++ b).properties.Perm (a.properties ++ b.properties) := by
  simp only [properties, declarations_append, usages_append, List.append_assoc]
  exact (List.perm_append_comm_assoc _ _ _).append_left _

theorem mem_marks_append {a b : StylesheetScan} {m : Mark} :
    m ∈ (a ++ b).marks ↔ m ∈ a.marks ∨ m ∈ b.marks := by
  simp only [mem_marks, classTokens_append, (properties_append_perm a b).mem_iff, List.mem_append,
    or_and_right, exists_or]
  exact or_or_or_comm

theorem referenceMarks_append_perm (a b : StylesheetScan) :
    (a ++ b).referenceMarks.Perm (a.referenceMarks ++ b.referenceMarks) := by
  rw [referenceMarks, referenceMarks, referenceMarks, ← List.flatMap_append]
  exact (properties_append_perm a b).flatMap_right _

end StylesheetScan

/-! ### Segments -/

namespace Segment

variable {s : Segment}

/-- A property stands in its segment with its name and its value, the value after the name. -/
theorem standsAt_of_property? {name after : List Char} {p : PropertySite}
    (ht : trimLeft s.text = name ++ after) (h : s.property? name after = some p) :
    p.name.toList = name ∧ StandsAt s.offset s.text p.offset name ∧
      StandsAt s.offset s.text p.valueOffset p.value.toList := by
  unfold property? at h
  split at h
  · next value hv =>
    obtain rfl := Option.some.inj h
    have hsuf : value <:+ s.text := by
      have h₁ : value <:+ trimLeft after := hv ▸ List.suffix_cons _ _
      have h₂ : trimLeft after <:+ after := List.dropWhile_suffix isBlank
      have h₃ : trimLeft s.text <:+ s.text := List.dropWhile_suffix isBlank
      exact ((h₁.trans h₂).trans (List.suffix_append name after)).trans (ht ▸ h₃)
    refine ⟨by simp, ?_, by simpa using StandsAt.of_suffix hsuf⟩
    exact (standsAt_trimLeft s.offset s.text).trans
      (.of_isPrefix (ht ▸ List.prefix_append name after))
  · contradiction

/-- The property that a segment sets, custom or not. -/
def site? (s : Segment) : Option PropertySite := s.customProperty?.or s.usage?

/-- A property is read after a name without blanks, which begins the segment up to blanks. -/
theorem exists_property?_of_site? {p : PropertySite} (h : s.site? = some p) :
    ∃ name after, trimLeft s.text = name ++ after ∧ Solid name ∧
      s.property? name after = some p := by
  rcases Option.or_eq_some_iff.1 h with h | ⟨-, h⟩
  · unfold customProperty? at h
    split at h
    · next hn =>
      obtain ⟨ht, hs⟩ := propertyName?_eq_some hn
      exact ⟨_, _, ht, hs, h⟩
    · contradiction
  · unfold usage? at h
    split at h
    · contradiction
    · obtain ⟨h, -⟩ := Option.filter_eq_some_iff.1 h
      unfold ordinaryProperty? at h
      dsimp only at h
      split at h
      · next hc =>
        refine ⟨_, _, by simp, ⟨?_, fun c hm => ?_⟩, h⟩
        · intro hnil
          simp [hnil] at hc
        · exact isBlank_of_isPropertyChar (List.mem_takeWhile_imp hm)
      · contradiction

/-- The value of a property stands in its segment. -/
theorem value_standsAt_of_site? {p : PropertySite} (h : s.site? = some p) :
    StandsAt s.offset s.text p.valueOffset p.value.toList := by
  obtain ⟨name, after, ht, -, h⟩ := exists_property?_of_site? h
  exact (standsAt_of_property? ht h).2.2

/-- A property stands in its segment with all its marks. -/
theorem standsIn_of_site? {p : PropertySite} (h : s.site? = some p) :
    ∀ m ∈ p.marks, m.StandsIn s.offset s.text := by
  obtain ⟨name, after, ht, hn, h⟩ := exists_property?_of_site? h
  obtain ⟨e, hp, hv⟩ := standsAt_of_property? ht h
  have hr := Value.referencesIn_parse p.value.toList
  refine List.forall_mem_cons.2 ⟨⟨by simpa [e] using hn, by simpa [e] using hp⟩, fun m hm => ?_⟩
  obtain ⟨r, hmem, rfl⟩ := List.mem_map.1 hm
  exact ⟨hr.solid r hmem, hv.trans ((hr.stands r hmem).shift p.valueOffset)⟩

/-- A class name is told at its dot. -/
theorem standsIn_of_mem_classTokens {t : TokenSite} (h : t ∈ s.classTokens) :
    t.dot.StandsIn s.offset s.text := by
  unfold classTokens at h
  split at h
  · obtain ⟨f, hf, rfl⟩ := List.mem_map.1 h
    obtain ⟨front, rest, b, e, hst, -, hr⟩ := exists_of_mem_findAll hf
    obtain ⟨after, rfl⟩ : ∃ after, rest = '.' :: after := by
      unfold classNameRecognizer at hr
      split at hr
      · exact ⟨_, rfl⟩
      · contradiction
    have hd : (TokenSite.dot ⟨String.ofList f.value, s.offset + f.start⟩).StandsIn s.offset
        (blankFound preludeNoise s.text) :=
      ⟨(by decide : Solid ['.']), front, after, by simp [TokenSite.dot, e],
        by simp [TokenSite.dot, hst]⟩
    exact hd.of_blankFound.1
  · simp at h

end Segment

/-! ### Scans -/

namespace StylesheetScan

/-- The properties of a stylesheet are those of its segments: none of them is of both kinds. -/
theorem properties_ofSegments_perm (segments : List Segment) :
    (ofSegments segments).properties.Perm (segments.filterMap Segment.site?) := by
  induction segments with
  | nil => exact List.Perm.refl _
  | cons s segments ih =>
    simp only [properties, ofSegments] at ih ⊢
    rcases hc : s.customProperty? with _ | p
    · rcases hu : s.usage? with _ | p
      · simpa [List.filterMap_cons, Segment.site?, hc, hu] using ih
      · simp only [List.filterMap_cons, Segment.site?, hc, hu, Option.none_or]
        exact List.perm_middle.trans (ih.cons p)
    · have hu : s.usage? = none := by simp [Segment.usage?, hc]
      simpa [List.filterMap_cons, Segment.site?, hc, hu] using ih

theorem exists_standsIn_of_mem_marks {segments : List Segment} {m : Mark}
    (h : m ∈ (ofSegments segments).marks) : ∃ s ∈ segments, m.StandsIn s.offset s.text := by
  rcases mem_marks.1 h with ⟨t, ht, rfl⟩ | ⟨p, hp, hm⟩
  · obtain ⟨s, hs, ht⟩ := List.mem_flatMap.1 ht
    exact ⟨s, hs, Segment.standsIn_of_mem_classTokens ht⟩
  · rw [(properties_ofSegments_perm segments).mem_iff, List.mem_filterMap] at hp
    obtain ⟨s, hs, hp⟩ := hp
    exact ⟨s, hs, Segment.standsIn_of_site? hp m hm⟩

theorem exists_standsAt_of_mem_properties {segments : List Segment} {p : PropertySite}
    (h : p ∈ (ofSegments segments).properties) :
    ∃ s ∈ segments, StandsAt s.offset s.text p.valueOffset p.value.toList := by
  rw [(properties_ofSegments_perm segments).mem_iff, List.mem_filterMap] at h
  obtain ⟨s, hs, hp⟩ := h
  exact ⟨s, hs, Segment.value_standsAt_of_site? hp⟩

/-- The references of segments that do not overlap stand at different places. -/
theorem nodup_referenceMarks_ofSegments {segments : List Segment}
    (h : segments.Pairwise fun a b => a.offset + a.text.length < b.offset) :
    ((ofSegments segments).referenceMarks.map Mark.place).Nodup := by
  have hp : (ofSegments segments).referenceMarks.Perm
      ((segments.filterMap Segment.site?).flatMap PropertySite.referenceMarks) :=
    (properties_ofSegments_perm segments).flatMap_right _
  refine (hp.map Mark.place).nodup_iff.2 (List.Pairwise.imp (R := (· < ·)) (fun h => ne_of_lt h) ?_)
  -- The places increase, inside a value and from one segment to the next.
  rw [List.pairwise_map, List.pairwise_flatMap]
  constructor
  · intro p _
    rw [PropertySite.referenceMarks, List.pairwise_map]
    exact (Value.referencesIn_parse _).increasing.imp fun h => Nat.add_lt_add_left h _
  · refine List.pairwise_filterMap.2 (h.imp fun {a b} hab p hp q hq m hm n hn => ?_)
    have ha := (Segment.standsIn_of_site? hp m (List.mem_cons_of_mem _ hm)).lt
    have hb := (Segment.standsIn_of_site? hq n (List.mem_cons_of_mem _ hn)).le
    omega

end StylesheetScan

variable {base : Nat} {inline : Bool} {text : List Char}

/-- Whatever a scan claims holds of the text, outside its comments. -/
theorem standsIn_of_mem_marks {m : Mark} (h : m ∈ (scanStylesheet base inline text).marks) :
    m.StandsIn base text ∧ OutsideFound stylesheetComment.recognizer text (m.place - base) := by
  obtain ⟨s, hs, hm⟩ := StylesheetScan.exists_standsIn_of_mem_marks h
  exact (hm.trans (standsAt_of_mem_segments hs)).of_blankFound

theorem nodup_referenceMarks_scanStylesheet :
    ((scanStylesheet base inline text).referenceMarks.map Mark.place).Nodup :=
  StylesheetScan.nodup_referenceMarks_ofSegments (pairwise_segments base inline _)

end BeamLint
