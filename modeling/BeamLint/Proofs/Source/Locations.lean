import BeamLint.Proofs.Markup.Scan
import BeamLint.Proofs.Order
import BeamLint.Proofs.Text.Position
import BeamLint.Source.Facts
import Mathlib

/-!
# Facts stand where their locations tell

A location shows a text when, read back as a place of the source, it tells a place where the text
stands (`Location.Shows`). Everything that is found in a source is shown by its location: the names
of declared and set properties, the names that are referred to, the dots of class names, the tokens
of class lists and the names of class attributes.

In markup the findings come from three parts, one after the other: the `style` elements, the `style`
attributes and the class lists. Each part is shown at places of its own.
-/

namespace BeamLint

open Text

/-- Read back as a place of the text of `file`, the location lies inside the text, at a place that
is `ok` and where `part` stands. -/
structure Location.Shows (file : String) (text : List Char) (ok : Nat → Prop) (l : Location)
    (part : List Char) : Prop where
  file_eq : l.file = file
  inside : l.place text < text.length
  stands : part <+: text.drop (l.place text)
  placed : ok (l.place text)

namespace Findings

/-- The references of all declarations and uses. -/
def references (f : Findings) : List Reference :=
  f.declarations.flatMap (·.references) ++ f.usages.flatMap (·.references)

/-- Everything found is shown by its location, at a place that is `ok`; of a class token `token` is
shown. -/
structure Shown (file : String) (text : List Char) (ok : Nat → Prop) (token : String → List Char)
    (f : Findings) : Prop where
  declarations : ∀ d ∈ f.declarations, d.location.Shows file text ok d.name.toList
  usages : ∀ u ∈ f.usages, u.location.Shows file text ok u.property.toList
  references : ∀ r ∈ f.references, r.location.Shows file text ok r.name.toList
  occurrences : ∀ o ∈ f.occurrences, o.location.Shows file text ok (token o.selector.raw)
  refused : ∀ d ∈ f.diagnostics, ∃ e l, d = Reading.tokenFinding e l ∧
    l.Shows file text ok (token e.raw)
  classLists : ∀ l ∈ f.classLists, l.location.Shows file text ok ['c', 'l', 'a', 's', 's']
  listed : ∀ l ∈ f.classLists, ∀ o ∈ l.occurrences, o ∈ f.occurrences

@[simp] theorem mem_references {f : Findings} {r : Reference} :
    r ∈ f.references ↔ (∃ d ∈ f.declarations, r ∈ d.references) ∨
      ∃ u ∈ f.usages, r ∈ u.references := by
  simp [references]

theorem append_def (a b : Findings) : a ++ b =
    ⟨a.occurrences ++ b.occurrences, a.classLists ++ b.classLists, a.declarations ++ b.declarations,
      a.usages ++ b.usages, a.diagnostics ++ b.diagnostics⟩ := rfl

theorem references_append_perm (a b : Findings) :
    (a ++ b).references.Perm (a.references ++ b.references) := by
  simp only [references, append_def, List.flatMap_append, List.append_assoc]
  exact (List.perm_append_comm_assoc _ _ _).append_left _

theorem append_assoc (a b c : Findings) : a ++ b ++ c = a ++ (b ++ c) := by
  simp [append_def]

@[simp] theorem append_empty (a : Findings) : a ++ ({} : Findings) = a := by
  simp [append_def]

@[simp] theorem empty_append (a : Findings) : ({} : Findings) ++ a = a := by
  simp [append_def]

theorem foldl_append {α : Type} (g : α → Findings) (as : List α) (f : Findings) :
    as.foldl (fun f a => f ++ g a) f = f ++ as.foldl (fun f a => f ++ g a) {} := by
  induction as generalizing f with
  | nil => simp
  | cons a as ih =>
    rw [List.foldl_cons, List.foldl_cons, ih, ih ({} ++ g a), empty_append, append_assoc]

namespace Shown

variable {file : String} {text : List Char} {ok : Nat → Prop} {token : String → List Char}

theorem empty : Shown file text ok token {} := by
  constructor <;> simp

theorem append {a b : Findings} (ha : a.Shown file text ok token)
    (hb : b.Shown file text ok token) : (a ++ b).Shown file text ok token where
  declarations := List.forall_mem_append.2 ⟨ha.declarations, hb.declarations⟩
  usages := List.forall_mem_append.2 ⟨ha.usages, hb.usages⟩
  references r hr := by
    rw [(references_append_perm a b).mem_iff, List.mem_append] at hr
    exact hr.elim (ha.references r) (hb.references r)
  occurrences := List.forall_mem_append.2 ⟨ha.occurrences, hb.occurrences⟩
  refused := List.forall_mem_append.2 ⟨ha.refused, hb.refused⟩
  classLists := List.forall_mem_append.2 ⟨ha.classLists, hb.classLists⟩
  listed := List.forall_mem_append.2
    ⟨fun l hl o ho => List.mem_append_left _ (ha.listed l hl o ho),
      fun l hl o ho => List.mem_append_right _ (hb.listed l hl o ho)⟩

end Shown

end Findings

/-! ### From marks to locations -/

/-- A class token is kept as written, whether it can be read or not. -/
theorem Selector.raw_of_parse (layoutPrefix raw : String) :
    match Selector.parse layoutPrefix raw with
    | .ok s => s.raw = raw
    | .error e => e.raw = raw := by
  unfold Selector.parse
  dsimp only
  cases Selector.fault? (Selector.tokenBody raw.toList) with
  | some fault => rfl
  | none =>
    rcases layoutPrefix.toList.isPrefixOf? (Selector.tokenBody raw.toList) with _ | ⟨_ | ⟨c, rest⟩⟩
    · rfl
    · rfl
    · rfl

namespace Reading

variable (r : Reading) {ok : Nat → Prop}

/-- A mark that holds of the text is shown by its location. -/
theorem shows_locate {m : Mark} (hm : m.StandsIn 0 r.text) (ho : ok m.place) :
    (r.locate m.place).Shows r.path r.text ok m.text := by
  have hlt : m.place < r.text.length := by simpa using hm.lt
  have hp : (r.locate m.place).place r.text = m.place :=
    Location.place_ofOffset r.path r.text m.place hlt.le
  exact ⟨rfl, hp.symm ▸ hlt, hp.symm ▸ hm.stands.prefix_drop, hp.symm ▸ ho⟩

/-- Class tokens are shown, whether they can be read or not. -/
theorem shown_tokens (ts : List TokenSite) (token : String → List Char)
    (h : ∀ t ∈ ts, (⟨t.offset, token t.text⟩ : Mark).StandsIn 0 r.text ∧ ok t.offset) :
    (∀ o ∈ r.occurrences ts, o.location.Shows r.path r.text ok (token o.selector.raw)) ∧
      ∀ d ∈ r.tokenFindings ts, ∃ e l, d = tokenFinding e l ∧
        l.Shows r.path r.text ok (token e.raw) := by
  constructor
  · intro o ho
    obtain ⟨t, ht, ho⟩ := List.mem_filterMap.1 ho
    have hraw := Selector.raw_of_parse r.config.layoutPrefix t.text
    unfold Reading.token at ho
    split at ho
    · next s hs =>
      obtain rfl : _ = o := by simpa [Except.toOption] using ho
      rw [hs] at hraw
      simpa [hraw] using r.shows_locate (h t ht).1 (h t ht).2
    · simp [Except.toOption] at ho
  · intro d hd
    obtain ⟨t, ht, hd⟩ := List.mem_filterMap.1 hd
    have hraw := Selector.raw_of_parse r.config.layoutPrefix t.text
    unfold Reading.token at hd
    split at hd
    · contradiction
    · next d' he =>
      split at he
      · contradiction
      · next e hs =>
        rw [hs] at hraw
        refine ⟨e, r.locate t.offset, ?_, ?_⟩
        · rw [← Option.some.inj hd, ← Except.error.inj he]
        · simpa [hraw] using r.shows_locate (h t ht).1 (h t ht).2

theorem references_declaration (tier : Option Tier) (p : PropertySite) :
    (r.declaration tier p).references = r.references p (Value.parse p.value.toList) := rfl

theorem references_of_usage? {p : PropertySite} {u : Usage} (h : r.usage? p = some u) :
    u.property = p.name ∧ u.location = r.locate p.offset ∧
      u.references = r.references p (Value.parse p.value.toList) := by
  unfold usage? at h
  dsimp only at h
  split at h
  · contradiction
  · rw [← Option.some.inj h]
    exact ⟨rfl, rfl, rfl⟩

/-- The name of a property and the names that its value refers to are shown. -/
theorem shows_property {p : PropertySite} (h : ∀ m ∈ p.marks, m.StandsIn 0 r.text ∧ ok m.place) :
    (r.locate p.offset).Shows r.path r.text ok p.name.toList ∧
      ∀ ref ∈ r.references p (Value.parse p.value.toList),
        ref.location.Shows r.path r.text ok ref.name.toList := by
  obtain ⟨hn, hr⟩ := List.forall_mem_cons.1 h
  refine ⟨r.shows_locate hn.1 hn.2, fun ref href => ?_⟩
  obtain ⟨v, hv, rfl⟩ := List.mem_map.1 href
  have hm := hr _ (List.mem_map.2 ⟨v, hv, rfl⟩)
  exact r.shows_locate hm.1 hm.2

/-- What a scan claims of the text, the findings made of it show. -/
theorem shown_stylesheet (tier : Option Tier) {s : StylesheetScan}
    (h : ∀ m ∈ s.marks, m.StandsIn 0 r.text ∧ ok m.place) :
    (r.stylesheet tier s).Shown r.path r.text ok fun _ => ['.'] := by
  have hp (p : PropertySite) (hp : p ∈ s.properties) :=
    r.shows_property fun m hm => h m (StylesheetScan.mem_marks.2 (Or.inr ⟨p, hp, hm⟩))
  have ht := r.shown_tokens s.classTokens (fun _ => ['.']) fun t ht =>
    h t.dot (StylesheetScan.mem_marks.2 (Or.inl ⟨t, ht, rfl⟩))
  have hd : ∀ p ∈ s.declarations, p ∈ s.properties := fun p => List.mem_append_left _
  have hu : ∀ p ∈ s.usages, p ∈ s.properties := fun p => List.mem_append_right _
  refine ⟨fun d hm => ?_, fun u hm => ?_, fun ref hm => ?_, ht.1, ht.2, ?_, ?_⟩
  · obtain ⟨p, hmem, rfl⟩ := List.mem_map.1 hm
    exact (hp p (hd p hmem)).1
  · obtain ⟨p, hmem, hu'⟩ := List.mem_filterMap.1 hm
    obtain ⟨hn, hl, -⟩ := r.references_of_usage? hu'
    rw [hn, hl]
    exact (hp p (hu p hmem)).1
  · rcases Findings.mem_references.1 hm with ⟨d, hm, href⟩ | ⟨u, hm, href⟩
    · obtain ⟨p, hmem, rfl⟩ := List.mem_map.1 hm
      exact (hp p (hd p hmem)).2 ref href
    · obtain ⟨p, hmem, hu'⟩ := List.mem_filterMap.1 hm
      rw [(r.references_of_usage? hu').2.2] at href
      exact (hp p (hu p hmem)).2 ref href
  · simp [stylesheet]
  · simp [stylesheet]

theorem shown_classAttribute {a : ClassAttribute} (ha : a.mark.StandsIn 0 r.text ∧ ok a.mark.place)
    (h : ∀ t ∈ a.tokens, t.mark.StandsIn 0 r.text ∧ ok t.mark.place) :
    (r.classAttribute a).Shown r.path r.text ok String.toList := by
  have ht := r.shown_tokens (firsts (·.text) a.tokens) String.toList fun t hm =>
    h t ((firsts_sublist _ _).subset hm)
  refine ⟨by simp [classAttribute], by simp [classAttribute], by simp [classAttribute], ht.1, ht.2,
    ?_, by simp [classAttribute]⟩
  simp only [classAttribute, List.mem_singleton, forall_eq]
  exact r.shows_locate ha.1 ha.2

/-- The findings of class attributes, one after the other. -/
def classLists (as : List ClassAttribute) : Findings :=
  as.foldl (fun found a => found ++ r.classAttribute a) {}

theorem shown_classLists {as : List ClassAttribute}
    (h : ∀ a ∈ as, (r.classAttribute a).Shown r.path r.text ok String.toList) :
    (r.classLists as).Shown r.path r.text ok String.toList := by
  refine List.foldlRecOn as _ .empty fun f hf a ha => hf.append (h a ha)

theorem markup_eq (m : MarkupScan) :
    r.markup m = r.stylesheet none m.styleBlocks ++ r.stylesheet (some .unknown) m.inlineStyles ++
      r.classLists m.classAttributes :=
  Findings.foldl_append _ _ _

/-- The findings of a text, by its kind: all of a stylesheet outside its comments, and of markup
what its `style` elements, its `style` attributes and its class lists give, each where these
stand. -/
def Located (f : Findings) : SourceKind → Prop
  | .stylesheet =>
    f.Shown r.path r.text (OutsideFound stylesheetComment.recognizer r.text) fun _ => ['.']
  | .markup =>
    let m := scanMarkup r.text
    let elements := r.stylesheet none m.styleBlocks
    let attributes := r.stylesheet (some .unknown) m.inlineStyles
    let lists := r.classLists m.classAttributes
    f = elements ++ attributes ++ lists ∧
      elements.Shown r.path r.text (InStyleElement r.text) (fun _ => ['.']) ∧
      attributes.Shown r.path r.text (InStyleAttribute r.text) (fun _ => ['.']) ∧
      lists.Shown r.path r.text (OutsideStyleElements r.text) String.toList
  | .unknown => f = {}

theorem located_findings (kind : SourceKind) : r.Located (r.findings kind) kind := by
  cases kind with
  | stylesheet =>
    refine r.shown_stylesheet none fun m hm => ?_
    simpa using standsIn_of_mem_marks hm
  | markup =>
    refine ⟨r.markup_eq _, ?_, ?_, ?_⟩
    · exact r.shown_stylesheet none fun m hm => standsIn_of_mem_styleBlocks hm
    · exact r.shown_stylesheet _ fun m hm => standsIn_of_mem_inlineStyles hm
    · refine r.shown_classLists fun a ha => ?_
      obtain ⟨h₁, h₂⟩ := standsIn_of_mem_classLists ha
      exact r.shown_classAttribute h₁ h₂
  | unknown => rfl

end Reading

namespace Facts

theorem collect_eq (c : Config) (s : Source) {text : String} (h : s.content.decode = some text) :
    collect c s =
      { path := s.path, kind := .ofPath s.path, isTheme := c.isTheme s.path
        found :=
          Reading.findings ⟨c, s.path, c.isTheme s.path, text.toList⟩ (.ofPath s.path) } := by
  unfold collect
  dsimp only
  split
  · next hk => rw [hk]; rfl
  · rw [h]

/-- Whatever is found in a source that can be read stands in its text where its location tells. -/
theorem located_collect (c : Config) (s : Source) {text : String}
    (h : s.content.decode = some text) :
    (collect c s).excluded = false ∧ (collect c s).kind = .ofPath s.path ∧
      Reading.Located ⟨c, s.path, c.isTheme s.path, text.toList⟩ (collect c s).found
        (.ofPath s.path) := by
  have e := collect_eq c s h
  refine ⟨by rw [e], by rw [e], ?_⟩
  rw [e]
  -- How the kind is told from the path does not matter.
  generalize SourceKind.ofPath s.path = kind
  exact Reading.located_findings _ kind

/-- The text of a page with a comment, a `style` element, a `style` attribute and a class list. -/
def styledText : String :=
  "<!-- .x --><style>.a\x7b--b:var(--c)\x7d</style>\n<p style=\"top:var(--d)\" class=\"e\">"

theorem located_styledText :
    let page : Source := ⟨"page.html", .text styledText⟩
    page.content.decode = some styledText ∧ SourceKind.ofPath page.path = .markup ∧
      (collect {} page).excluded = false ∧ (collect {} page).kind = .ofPath page.path ∧
      Reading.Located ⟨{}, page.path, Config.isTheme {} page.path, styledText.toList⟩
        (collect {} page).found (.ofPath page.path) :=
  ⟨by cbv, by cbv, located_collect {} ⟨"page.html", .text styledText⟩ (by cbv)⟩

end Facts

end BeamLint
