import BeamLint.Markup.Scan
import BeamLint.Proofs.Stylesheet.Scan

/-!
# Where a scan of markup points

Three parts of markup are scanned, each after a blanking of its own: the contents of the `style`
elements, the values of the `style` attributes and the class lists. What is found in any of them
stands in the markup itself, outside its comments: in the content of a `style` element
(`InStyleElement`), or outside all of them (`OutsideStyleElements`), for a `style` attribute in its
value (`InStyleAttribute`). So the references of all parts stand at pairwise different places.
-/

namespace BeamLint

open Text

/-! ### Style elements -/

/-- The content of a `style` element lies in the element. -/
theorem stop_le_of_styleBlock {before : Option Char} {text : List Char} {n : Nat} {content : Span}
    (h : styleBlock before text = some (n, content)) : content.stop ≤ n := by
  unfold styleBlock at h
  split at h
  · contradiction
  · split at h
    · contradiction
    · next closing _ =>
      simp only [Option.some.injEq, Prod.mk.injEq] at h
      obtain ⟨rfl, rfl⟩ := h
      simp only [Found.stop]
      omega

theorem not_outsideFound_of_mem_styleContents {text : List Char} {s : Span} {i : Nat}
    (hs : s ∈ styleContents text) (hi : s.covers i) : ¬ OutsideFound styleBlock text i := by
  obtain ⟨f, hf, rfl⟩ := List.mem_map.1 hs
  obtain ⟨front, rest, b, -, -, -, hr⟩ := exists_of_mem_findAll hf
  have hle := stop_le_of_styleBlock hr
  intro ho
  refine Bool.eq_false_iff.1 (ho f hf) (Span.covers_iff.2 ?_)
  have hi := Span.covers_iff.1 hi
  simp only [Found.span, Found.stop] at hi ⊢
  omega

/-! ### Attributes -/

theorem exists_of_attributeValue? {braced : Bool} {afterName value after : List Char}
    (h : attributeValue? braced afterName = some (value, after)) :
    ∃ before quote, afterName = before ++ value ++ quote :: after := by
  have drops (text : List Char) : trimLeft text <:+ text := List.dropWhile_suffix isBlank
  unfold attributeValue? at h
  split at h
  · next rest heq =>
    dsimp only at h
    -- With or without an opening brace, what is left is a suffix.
    have hopen : (if braced && (trimLeft rest).head? = some '{' then trimLeft (trimLeft rest).tail
        else trimLeft rest) <:+ rest := by
      split
      · exact ((drops _).trans (List.tail_suffix _)).trans (drops rest)
      · exact drops rest
    have hrest : rest <:+ afterName :=
      (heq ▸ List.suffix_cons _ _ : rest <:+ trimLeft afterName).trans (drops afterName)
    split at h
    · next quote body hq =>
      obtain ⟨before, hb⟩ := ((hq ▸ hopen : quote :: body <:+ rest)).trans hrest
      split at h
      · split at h
        · next d last hd =>
          simp only [Option.some.injEq, Prod.mk.injEq] at h
          obtain ⟨rfl, rfl⟩ := h
          have hsplit : body.takeWhile (· ≠ quote) ++ d :: last = body := by
            rw [← hd, List.takeWhile_append_dropWhile]
          refine ⟨before ++ [quote], d, ?_⟩
          calc afterName = before ++ quote :: body := hb.symm
            _ = before ++ quote :: (body.takeWhile (· ≠ quote) ++ d :: last) := by rw [hsplit]
            _ = before ++ [quote] ++ body.takeWhile (· ≠ quote) ++ d :: last := by simp
        · contradiction
      · contradiction
    · contradiction
  · contradiction

/-- What is read is a value in quotes at the place that is told, and nothing is taken beyond the
closing quote. -/
def ReadsValue (r : Recognizer (Nat × List Char)) : Prop :=
  ∀ b text n i value, r b text = some (n, i, value) →
    ∃ before quote after, text = before ++ value ++ quote :: after ∧ i = before.length ∧
      n = before.length + value.length + 1

theorem readsValue_namedAttribute (name : List Char) (braced : Bool) :
    ReadsValue (namedAttribute name braced) := by
  intro b text n i value h
  unfold namedAttribute at h
  split at h
  · contradiction
  · next afterName hn =>
    rw [List.isPrefixOf?_eq_some_iff_append_eq] at hn
    split at h
    · obtain ⟨⟨v, after⟩, ha, he⟩ := Option.map_eq_some_iff.1 h
      obtain ⟨before, quote, rfl⟩ := exists_of_attributeValue? ha
      simp only [Prod.mk.injEq] at he
      obtain ⟨rfl, rfl, rfl⟩ := he
      refine ⟨name ++ before, quote, after, by simp [← hn], ?_, ?_⟩
      · simp only [← hn, List.length_append, List.length_cons]
        omega
      · simp only [← hn, List.length_append, List.length_cons]
        omega
    · contradiction

theorem readsValue_classAttribute : ReadsValue classAttribute := by
  intro b text n i value h
  rcases Option.or_eq_some_iff.1 h with h | ⟨-, h⟩
  · exact readsValue_namedAttribute _ _ b text n i value h
  · exact readsValue_namedAttribute _ _ b text n i value h

theorem prefix_of_namedAttribute {name : List Char} {braced : Bool} {b : Option Char}
    {text : List Char} {v : Nat × Nat × List Char}
    (h : namedAttribute name braced b text = some v) : name <+: text := by
  unfold namedAttribute at h
  split at h
  · contradiction
  · next afterName hn => exact ⟨afterName, List.isPrefixOf?_eq_some_iff_append_eq.1 hn⟩

theorem prefix_of_classAttribute {b : Option Char} {text : List Char} {v : Nat × Nat × List Char}
    (h : classAttribute b text = some v) : ['c', 'l', 'a', 's', 's'] <+: text := by
  rcases Option.or_eq_some_iff.1 h with h | ⟨-, h⟩
  · exact prefix_of_namedAttribute h
  · have hclass : ['c', 'l', 'a', 's', 's'] <+: ['c', 'l', 'a', 's', 's', 'N', 'a', 'm', 'e'] :=
      ⟨['N', 'a', 'm', 'e'], rfl⟩
    exact hclass.trans (prefix_of_namedAttribute h)

/-- The value of an attribute that was found stands in the text, and ends before the attribute. -/
theorem ReadsValue.standsAt {r : Recognizer (Nat × List Char)} (hr : ReadsValue r)
    {text : List Char} {f : Found (Nat × List Char)} (hf : f ∈ findAll r text) :
    StandsAt 0 text (f.start + f.value.1) f.value.2 ∧
      f.start + f.value.1 + f.value.2.length < f.stop := by
  obtain ⟨front, rest, b, rfl, hs, -, hrd⟩ := exists_of_mem_findAll hf
  obtain ⟨before, quote, after, rfl, hi, hn⟩ := hr b rest f.length f.value.1 f.value.2 hrd
  refine ⟨⟨front ++ before, quote :: after, by simp, ?_⟩, ?_⟩
  · simp [hs, hi]
  · simp only [Found.stop]
    omega

/-! ### Class lists -/

/-- A token of a class list. -/
def TokenSite.mark (t : TokenSite) : Mark := ⟨t.offset, t.text.toList⟩

/-- The name of a class attribute. -/
def ClassAttribute.mark (a : ClassAttribute) : Mark := ⟨a.offset, ['c', 'l', 'a', 's', 's']⟩

theorem standsIn_of_mem_classListTokens {offset : Nat} {value : List Char} {t : TokenSite}
    (h : t ∈ classListTokens offset value) : t.mark.StandsIn offset value := by
  obtain ⟨f, hf, rfl⟩ := List.mem_map.1 h
  obtain ⟨front, rest, b, e, hs, -, hr⟩ := exists_of_mem_findAll hf
  unfold tokenRecognizer at hr
  dsimp only at hr
  split at hr
  · contradiction
  · next hne =>
    simp only [Option.some.injEq, Prod.mk.injEq] at hr
    have hm : (TokenSite.mark ⟨String.ofList f.value, offset + f.start⟩).StandsIn offset
        (blankFound interpolation value) := by
      refine ⟨⟨?_, ?_⟩, front, rest.dropWhile fun c => !isBlank c, ?_, ?_⟩
      · simpa [TokenSite.mark, ← hr.2] using hne
      · intro c hc
        simp only [TokenSite.mark, ← hr.2, String.toList_ofList] at hc
        simpa using List.mem_takeWhile_imp hc
      · simp [TokenSite.mark, ← hr.2, e]
      · simp [TokenSite.mark, hs]
    exact hm.of_blankFound.1

theorem standsIn_of_mem_classAttributes {text : List Char} {a : ClassAttribute}
    (h : a ∈ classAttributes text) :
    a.mark.StandsIn 0 text ∧ ∀ t ∈ a.tokens, t.mark.StandsIn 0 text := by
  obtain ⟨f, hf, rfl⟩ := List.mem_map.1 (List.mem_filter.1 h).1
  obtain ⟨hv, -⟩ := readsValue_classAttribute.standsAt hf
  have hsolid : Solid ['c', 'l', 'a', 's', 's'] := by decide
  refine ⟨⟨hsolid, ?_⟩, ?_⟩
  · obtain ⟨front, rest, b, e, hs, -, hr⟩ := exists_of_mem_findAll hf
    obtain ⟨after, rfl⟩ := prefix_of_classAttribute hr
    exact ⟨front, after, by simp [ClassAttribute.mark, e], by simp [ClassAttribute.mark, hs]⟩
  · intro t ht
    exact (standsIn_of_mem_classListTokens ht).trans hv

/-- Class attributes stand one after the other. -/
theorem pairwise_classAttributes (text : List Char) :
    (classAttributes text).Pairwise fun a b => a.offset < b.offset :=
  (List.pairwise_map.2 ((pairwise_findAll text).imp fun {_ _} h => h.2)).filter _

/-! ### Style attributes -/

section Joined

variable {α : Type} (scan : α → StylesheetScan)

theorem mem_marks_foldl (as : List α) (s : StylesheetScan) (m : Mark) :
    m ∈ (as.foldl (fun s a => s ++ scan a) s).marks ↔
      m ∈ s.marks ∨ ∃ a ∈ as, m ∈ (scan a).marks := by
  induction as generalizing s with
  | nil => simp
  | cons a as ih => simp [ih, StylesheetScan.mem_marks_append, or_assoc]

theorem referenceMarks_foldl_perm (as : List α) (s : StylesheetScan) :
    (as.foldl (fun s a => s ++ scan a) s).referenceMarks.Perm
      (s.referenceMarks ++ as.flatMap fun a => (scan a).referenceMarks) := by
  induction as generalizing s with
  | nil => simp
  | cons a as ih =>
    rw [List.foldl_cons, List.flatMap_cons, ← List.append_assoc]
    exact (ih _).trans ((StylesheetScan.referenceMarks_append_perm s (scan a)).append_right _)

end Joined

/-- What is found in style attributes is found in the value of one of them. -/
theorem exists_of_mem_marks_inlineStyles {text : List Char} {m : Mark}
    (h : m ∈ (inlineStyles text).marks) :
    ∃ f ∈ findAll styleAttribute text, StandsAt 0 text (f.start + f.value.1) f.value.2 ∧
      m.StandsIn (f.start + f.value.1) f.value.2 ∧
      OutsideFound stylesheetComment.recognizer f.value.2 (m.place - (f.start + f.value.1)) := by
  rcases (mem_marks_foldl _ _ _ _).1 h with h | ⟨f, hf, h⟩
  · simp [StylesheetScan.mem_marks, StylesheetScan.properties] at h
  · exact ⟨f, hf, ((readsValue_namedAttribute _ _).standsAt hf).1, standsIn_of_mem_marks h⟩

/-- Attributes do not overlap, so neither do the references in them. -/
theorem nodup_referenceMarks_inlineStyles (text : List Char) :
    ((inlineStyles text).referenceMarks.map Mark.place).Nodup := by
  have hp := referenceMarks_foldl_perm
    (fun f : Found (Nat × List Char) => scanStylesheet (f.start + f.value.1) true f.value.2)
    (findAll styleAttribute text) {}
  refine (hp.map Mark.place).nodup_iff.2 ?_
  -- Places in one value differ; places in two values are in the order of the attributes.
  rw [List.Nodup, List.pairwise_map]
  simp only [StylesheetScan.referenceMarks, StylesheetScan.properties, List.append_nil,
    List.flatMap_nil, List.nil_append]
  refine List.pairwise_flatMap.2 ⟨fun f _ => ?_, ?_⟩
  · exact List.pairwise_map.1 nodup_referenceMarks_scanStylesheet
  · refine (pairwise_findAll text).imp_of_mem fun {f g} hf _ hfg m hm n hn => ?_
    have hm := (standsIn_of_mem_marks (StylesheetScan.mem_marks_of_mem_referenceMarks hm)).1.lt
    have hn := (standsIn_of_mem_marks (StylesheetScan.mem_marks_of_mem_referenceMarks hn)).1.le
    have hf := ((readsValue_namedAttribute _ _).standsAt hf).2
    omega

/-! ### Markup -/

/-- The place lies in the content of a `style` element, outside all comments: those of the markup
and those of the stylesheet that the contents make up. -/
structure InStyleElement (text : List Char) (i : Nat) : Prop where
  uncommented : OutsideFound markupComment.recognizer text i
  inContent : ∃ s ∈ styleContents (markupComment.blank text), s.covers i
  uncommentedStyle : OutsideFound stylesheetComment.recognizer
    (keepSpans (styleContents (markupComment.blank text)) (markupComment.blank text)) i

/-- The place lies outside the comments of the markup and outside its `style` elements. -/
structure OutsideStyleElements (text : List Char) (i : Nat) : Prop where
  uncommented : OutsideFound markupComment.recognizer text i
  outside : OutsideFound styleBlock (markupComment.blank text) i

/-- The place lies in the value of a `style` attribute, outside all comments. -/
structure InStyleAttribute (text : List Char) (i : Nat) : Prop extends
    OutsideStyleElements text i where
  inValue : ∃ f ∈ findAll styleAttribute (blankFound styleBlock (markupComment.blank text)),
    f.start + f.value.1 ≤ i ∧ i < f.start + f.value.1 + f.value.2.length ∧
      OutsideFound stylesheetComment.recognizer f.value.2 (i - (f.start + f.value.1))

variable {text : List Char}

theorem Mark.StandsIn.of_blankStyleElements {m : Mark}
    (h : m.StandsIn 0 (blankFound styleBlock (markupComment.blank text))) :
    m.StandsIn 0 text ∧ OutsideStyleElements text m.place := by
  obtain ⟨h₁, ho₁⟩ := h.of_blankFound
  obtain ⟨h₂, ho₂⟩ := h₁.of_blankFound
  exact ⟨h₂, ho₂, ho₁⟩

theorem standsIn_of_mem_styleBlocks {m : Mark} (h : m ∈ (scanMarkup text).styleBlocks.marks) :
    m.StandsIn 0 text ∧ InStyleElement text m.place := by
  obtain ⟨h₁, ho₁⟩ := standsIn_of_mem_marks h
  obtain ⟨h₂, ho₂⟩ := h₁.of_keepSpans
  obtain ⟨h₃, ho₃⟩ := h₂.of_blankFound
  exact ⟨h₃, ho₃, ho₂, ho₁⟩

theorem standsIn_of_mem_inlineStyles {m : Mark} (h : m ∈ (scanMarkup text).inlineStyles.marks) :
    m.StandsIn 0 text ∧ InStyleAttribute text m.place := by
  obtain ⟨f, hf, hv, hm, hc⟩ := exists_of_mem_marks_inlineStyles h
  obtain ⟨hs, ho⟩ := (hm.trans hv).of_blankStyleElements
  exact ⟨hs, ho, f, hf, hm.le, hm.lt, hc⟩

theorem standsIn_of_mem_classLists {a : ClassAttribute}
    (h : a ∈ (scanMarkup text).classAttributes) :
    (a.mark.StandsIn 0 text ∧ OutsideStyleElements text a.mark.place) ∧
      ∀ t ∈ a.tokens, t.mark.StandsIn 0 text ∧ OutsideStyleElements text t.mark.place := by
  obtain ⟨ha, ht⟩ := standsIn_of_mem_classAttributes h
  exact ⟨ha.of_blankStyleElements, fun t hm => (ht t hm).of_blankStyleElements⟩

/-- A reference in a `style` element stands inside it, one in a `style` attribute outside all of
them. -/
theorem nodup_referenceMarks_scanMarkup (text : List Char) :
    (((scanMarkup text).styleBlocks.referenceMarks ++
      (scanMarkup text).inlineStyles.referenceMarks).map Mark.place).Nodup := by
  rw [List.map_append, List.nodup_append]
  refine ⟨nodup_referenceMarks_scanStylesheet, nodup_referenceMarks_inlineStyles _, ?_⟩
  intro i hi j hj e
  obtain ⟨m, hm, rfl⟩ := List.mem_map.1 hi
  obtain ⟨n, hn, rfl⟩ := List.mem_map.1 hj
  have hin := (standsIn_of_mem_styleBlocks (StylesheetScan.mem_marks_of_mem_referenceMarks hm)).2
  have hout := (standsIn_of_mem_inlineStyles (StylesheetScan.mem_marks_of_mem_referenceMarks hn)).2
  obtain ⟨s, hs, hc⟩ := hin.inContent
  exact not_outsideFound_of_mem_styleContents hs hc (e ▸ hout.outside)

end BeamLint
