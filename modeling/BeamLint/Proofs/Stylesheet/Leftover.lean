import BeamLint.Proofs.Stylesheet.Prelude
import BeamLint.Proofs.Stylesheet.Sequence

/-!
# What a stylesheet leaves over

Blanks behind a stylesheet matter to nothing but a property that is ended by the end of the
stylesheet: they go to its value (`scanStylesheet_append_blanks_iff`).

A stylesheet that is not complete leaves a comment, a string, a parenthesis or a brace open, or it
ends in the middle of a prelude. Behind each of these there is a complete stylesheet that is not
scanned for itself (`exists_scanStylesheet_append_ne`). So nothing less than completeness will do
for `scanStylesheet_append`.
-/

namespace BeamLint

open Text

/-! ### Texts with something behind them -/

namespace Text

variable {text after blanks pattern : List Char}

/-- What follows a text that is not blank does not change the blanks at its beginning. -/
theorem takeWhile_append_of_trimLeft_ne_nil (h : trimLeft text ≠ []) (after : List Char) :
    (text ++ after).takeWhile isBlank = text.takeWhile isBlank ∧
      trimLeft (text ++ after) = trimLeft text ++ after := by
  induction text with
  | nil => exact absurd rfl h
  | cons c text ih =>
    by_cases hc : isBlank c
    · have htail : trimLeft text ≠ [] := by simpa [trimLeft, hc] using h
      have hcons (t : List Char) : trimLeft (c :: t) = trimLeft t := List.dropWhile_cons_of_pos hc
      obtain ⟨htake, hdrop⟩ := ih htail
      rw [List.cons_append, hcons, hcons, hdrop]
      simp [hc, htake]
    · simp [trimLeft, hc]

theorem head?_trimLeft_append (h : trimLeft text ≠ []) (after : List Char) :
    (trimLeft (text ++ after)).head? = (trimLeft text).head? := by
  rw [(takeWhile_append_of_trimLeft_ne_nil h after).2, List.head?_append_of_ne_nil _ h]

theorem trimLeft_reverse_ne_nil (h : ¬ isAllBlank text) : trimLeft text.reverse ≠ [] := by
  intro hnil
  have hall := isAllBlank_reverse (List.all_eq_true.2 (List.dropWhile_eq_nil_iff.1 hnil))
  rw [List.reverse_reverse] at hall
  exact h hall

/-- A pattern without blanks does not occur in the blanks behind a text. -/
theorem infix_append_blanks (hp : Solid pattern) (hb : isAllBlank blanks) :
    pattern <:+: text ++ blanks ↔ pattern <:+: text := by
  induction blanks using List.reverseRecOn with
  | nil => rw [List.append_nil]
  | append_singleton blanks c ih =>
    obtain ⟨hb, hc⟩ : isAllBlank blanks ∧ isBlank c := by simpa [isAllBlank] using hb
    have hno : ¬ pattern <:+ text ++ blanks ++ [c] := by
      intro hs
      have hlast := hs.getLast hp.1
      rw [List.getLast_append_singleton] at hlast
      have hsolid := hp.2 _ (List.getLast_mem hp.1)
      rw [hlast, hc] at hsolid
      contradiction
    rw [← List.append_assoc, List.infix_concat_iff, or_iff_right hno, ih hb]

end Text

theorem commentFree_of_not_mem {text : List Char} (h : '/' ∉ text) : CommentFree text :=
  fun hi => h (hi.subset (by decide))

theorem staysOpen_of_not_mem {text : List Char} (h : '/' ∉ text) : StaysOpen text :=
  fun hi => h (hi.subset (by decide))

theorem not_mem_of_isAllBlank {blanks : List Char} (hb : isAllBlank blanks) {c : Char}
    (hc : isBlank c = false) : c ∉ blanks := by
  intro hm
  exact ne_of_isBlank (List.all_eq_true.1 hb c hm) hc rfl

/-! ### Blanks behind a segment -/

/-- The property with more text behind its value. -/
def PropertySite.extend (p : PropertySite) (more : List Char) : PropertySite :=
  { p with value := String.ofList (p.value.toList ++ more) }

theorem PropertySite.extend_eq_self_iff {p : PropertySite} {more : List Char} :
    p.extend more = p ↔ more = [] := by
  constructor
  · intro h
    have hvalue := congrArg (fun q => q.value.toList) h
    simpa [extend] using hvalue
  · rintro rfl
    simp [extend]

namespace Segment

variable {blanks text : List Char} (hb : isAllBlank blanks) (kind : SegmentKind) (i : Nat)

include hb

theorem property?_append_blanks (h : trimLeft text ≠ []) (name after : List Char) :
    property? ⟨kind, i, text ++ blanks⟩ name (after ++ blanks) =
      (property? ⟨kind, i, text⟩ name after).map (·.extend blanks) := by
  have hplace := (takeWhile_append_of_trimLeft_ne_nil h blanks).1
  unfold property?
  by_cases hafter : trimLeft after = []
  · have hblank : isAllBlank after := List.all_eq_true.2 (List.dropWhile_eq_nil_iff.1 hafter)
    rw [trimLeft_append hblank, hafter, trimLeft_of_isAllBlank hb]
    rfl
  · rw [(takeWhile_append_of_trimLeft_ne_nil hafter blanks).2]
    obtain ⟨c, value, hvalue⟩ := List.exists_cons_of_ne_nil hafter
    rw [hvalue, List.cons_append]
    by_cases hc : c = ':'
    · subst hc
      have hlength : (text ++ blanks).length - (value ++ blanks).length =
          text.length - value.length := by
        rw [List.length_append, List.length_append, Nat.add_sub_add_right]
      simp only [hplace, hlength]
      simp [PropertySite.extend]
    · split
      · next heq => exact absurd (List.cons.inj heq).1 hc
      · split
        · next heq => exact absurd (List.cons.inj heq).1 hc
        · rfl

theorem nameRun_append_blanks (name : List Char) :
    (name ++ blanks).takeWhile isPropertyChar = name.takeWhile isPropertyChar ∧
      (name ++ blanks).dropWhile isPropertyChar = name.dropWhile isPropertyChar ++ blanks := by
  apply takeWhile_append_of_head?
  intro c hc
  by_contra hp
  have hblank := List.all_eq_true.1 hb c (List.mem_of_mem_head? hc)
  rw [isBlank_of_isPropertyChar (by simpa using hp)] at hblank
  contradiction

theorem customProperty?_append_blanks :
    customProperty? ⟨kind, i, text ++ blanks⟩ =
      (customProperty? ⟨kind, i, text⟩).map (·.extend blanks) := by
  unfold customProperty?
  dsimp only
  by_cases h : trimLeft text = []
  · have hblank : isAllBlank text := List.all_eq_true.2 (List.dropWhile_eq_nil_iff.1 h)
    rw [trimLeft_append hblank, h, trimLeft_of_isAllBlank hb]
    cases kind <;> rfl
  · obtain ⟨htake, hdrop⟩ := nameRun_append_blanks hb (trimLeft text)
    rw [(takeWhile_append_of_trimLeft_ne_nil h blanks).2]
    cases kind with
    | prelude => rfl
    | declaration =>
      simp only [propertyName?, htake, hdrop]
      split_ifs
      · exact property?_append_blanks hb .declaration i h _ _
      · rfl

theorem ordinaryProperty?_append_blanks :
    ordinaryProperty? ⟨kind, i, text ++ blanks⟩ =
      (ordinaryProperty? ⟨kind, i, text⟩).map (·.extend blanks) := by
  unfold ordinaryProperty?
  dsimp only
  by_cases h : trimLeft text = []
  · have hblank : isAllBlank text := List.all_eq_true.2 (List.dropWhile_eq_nil_iff.1 h)
    rw [trimLeft_append hblank, h, trimLeft_of_isAllBlank hb]
    simp
  · obtain ⟨htake, hdrop⟩ := nameRun_append_blanks hb (trimLeft text)
    rw [(takeWhile_append_of_trimLeft_ne_nil h blanks).2, htake, hdrop]
    split_ifs
    · exact property?_append_blanks hb kind i h _ _
    · rfl

theorem usage?_append_blanks :
    usage? ⟨kind, i, text ++ blanks⟩ = (usage? ⟨kind, i, text⟩).map (·.extend blanks) := by
  have hoccurs (p : PropertySite) :
      occurs varOpen (p.extend blanks).value.toList = occurs varOpen p.value.toList := by
    have hsolid : Solid varOpen := by decide
    rw [Bool.eq_iff_iff, occurs_iff, occurs_iff, PropertySite.extend, String.toList_ofList,
      infix_append_blanks hsolid hb]
  unfold usage?
  rw [customProperty?_append_blanks hb, ordinaryProperty?_append_blanks hb, Option.isSome_map]
  split
  · rfl
  · rw [Option.filter_map, Function.comp_def]
    simp only [hoccurs]

/-- Blanks behind a declaration go to the value of its property, if there is one. -/
theorem ofSegments_append_blanks_iff (hne : blanks ≠ []) :
    StylesheetScan.ofSegments [⟨.declaration, i, text ++ blanks⟩] =
        StylesheetScan.ofSegments [⟨.declaration, i, text⟩] ↔
      site? ⟨.declaration, i, text⟩ = none := by
  have htokens (t : List Char) : classTokens ⟨.declaration, i, t⟩ = [] := by simp [classTokens]
  simp only [StylesheetScan.ofSegments, site?, List.flatMap_singleton, htokens, List.filterMap_cons,
    List.filterMap_nil, customProperty?_append_blanks hb, usage?_append_blanks hb,
    StylesheetScan.mk.injEq, true_and]
  cases hcustom : customProperty? ⟨.declaration, i, text⟩ with
  | some p => simp [PropertySite.extend_eq_self_iff, hne]
  | none =>
    cases husage : usage? ⟨.declaration, i, text⟩ with
    | some p => simp [PropertySite.extend_eq_self_iff, hne]
    | none => simp

end Segment

/-! ### Blanks behind a stylesheet -/

namespace StylesheetScan

theorem append_right_inj {a b c : StylesheetScan} : a ++ b = a ++ c ↔ b = c := by
  obtain ⟨tokens, declarations, usages⟩ := b
  obtain ⟨tokens', declarations', usages'⟩ := c
  simp [append_def]

theorem shift_injective (n : Nat) : Function.Injective (shift n) := by
  have htoken : Function.Injective (TokenSite.shift n) := by
    rintro ⟨text, offset⟩ ⟨text', offset'⟩ h
    simpa [TokenSite.shift] using h
  have hproperty : Function.Injective (PropertySite.shift n) := by
    rintro ⟨name, value, offset, valueOffset⟩ ⟨name', value', offset', valueOffset'⟩ h
    simpa [PropertySite.shift] using h
  rintro ⟨tokens, declarations, usages⟩ ⟨tokens', declarations', usages'⟩ h
  simpa [shift, htoken.list_map.eq_iff, hproperty.list_map.eq_iff] using h

theorem shift_shift (m n : Nat) (s : StylesheetScan) : (s.shift n).shift m = s.shift (m + n) := by
  simp [shift, TokenSite.shift, PropertySite.shift, Function.comp_def, Nat.add_assoc]

end StylesheetScan

/-- A property is ended by the end of a rule that is not closed. -/
theorem ScanState.finish_eq (s : ScanState) :
    s.finish =
      if s.depth > 0 ∧ s.seen ≠ [] then [⟨.declaration, s.start, s.seen.reverse⟩] else [] := by
  unfold finish declaration segment
  cases s.seen with
  | nil => simp
  | cons c seen => simp

/-- The end of the stylesheet ends no property. -/
def LeavesNoProperty (text : List Char) : Prop := ∀ g ∈ (endOf text).finish, g.site? = none

instance (text : List Char) : Decidable (LeavesNoProperty text) :=
  inferInstanceAs (Decidable (∀ g ∈ _, _))

section Behind

variable {a tail tail' gap gap' : List Char}

/-- The scan of two texts, taken apart where the first one ends. -/
theorem scanStylesheet_of_blank_append
    (h : stylesheetComment.blank (a ++ tail) = stylesheetComment.blank a ++ tail') :
    scanStylesheet 0 false (a ++ tail) =
      StylesheetScan.ofSegments (({} : ScanState).ended (stylesheetComment.blank a)) ++
        StylesheetScan.ofSegments ((endOf a).segments tail') := by
  rw [scanStylesheet, h, ← StylesheetScan.ofSegments_append]
  exact congrArg StylesheetScan.ofSegments (ScanState.segments_append_text _ _ _)

theorem scanStylesheet_eq_ended (a : List Char) :
    scanStylesheet 0 false a =
      StylesheetScan.ofSegments (({} : ScanState).ended (stylesheetComment.blank a)) ++
        StylesheetScan.ofSegments (endOf a).finish := by
  have hblank : stylesheetComment.blank (a ++ []) = stylesheetComment.blank a ++ [] := by simp
  have h := scanStylesheet_of_blank_append hblank
  rwa [List.append_nil] at h

/-- Behind a text that closes its comments, a text without the characters of the marks is left
alone. -/
theorem blank_append_eq (ha : ClosesComments a) (hslash : '/' ∉ tail) (hstar : '*' ∉ tail) :
    stylesheetComment.blank (a ++ tail) = stylesheetComment.blank a ++ tail := by
  rw [blank_append ha (Or.inr (mt List.mem_of_mem_head? hstar)),
    CommentStyle.blank_eq_self (commentFree_of_not_mem hslash)]

/-- The same for a text with blanks around it. -/
theorem blank_append_between {b : List Char} (ha : ClosesComments a) (hb : isAllBlank gap)
    (hb' : isAllBlank gap') (hslash : '/' ∉ b) (hstar : '*' ∉ b) :
    stylesheetComment.blank (a ++ (gap ++ (b ++ gap'))) =
      stylesheetComment.blank a ++ (gap ++ (b ++ gap')) := by
  apply blank_append_eq ha
  · simp [hslash, not_mem_of_isAllBlank hb, not_mem_of_isAllBlank hb', isBlank]
  · simp [hstar, not_mem_of_isAllBlank hb, not_mem_of_isAllBlank hb', isBlank]

/-- Behind a text that leaves a comment open, a text without a slash is blanked. -/
theorem blank_append_eq_map (ha : ¬ ClosesComments a) (hslash : '/' ∉ tail) :
    stylesheetComment.blank (a ++ tail) = stylesheetComment.blank a ++ tail.map blankChar :=
  blank_append_of_not_closesComments ha (staysOpen_of_not_mem hslash)
    (mt List.mem_of_mem_head? hslash)

theorem exists_blank_append_blanks (a : List Char) (hb : isAllBlank gap) :
    ∃ gap', isAllBlank gap' ∧ gap'.length = gap.length ∧
      stylesheetComment.blank (a ++ gap) = stylesheetComment.blank a ++ gap' := by
  have hslash : '/' ∉ gap := not_mem_of_isAllBlank hb (by decide)
  have hstar : '*' ∉ gap := not_mem_of_isAllBlank hb (by decide)
  by_cases ha : ClosesComments a
  · exact ⟨gap, hb, rfl, blank_append_eq ha hslash hstar⟩
  · refine ⟨gap.map blankChar, ?_, List.length_map _, blank_append_eq_map ha hslash⟩
    simp [isAllBlank, isBlank_blankChar]

/-- Blanks behind a stylesheet change what is found just if its end ends a property. -/
theorem scanStylesheet_append_blanks_iff (hb : isAllBlank gap) (hne : gap ≠ []) (a : List Char)
    (base : Nat) :
    scanStylesheet base false (a ++ gap) = scanStylesheet base false a ↔ LeavesNoProperty a := by
  obtain ⟨gap', hb', hlength, hblank⟩ := exists_blank_append_blanks a hb
  have hne' : gap' ≠ [] := by
    rw [← List.length_pos_iff, hlength]
    exact List.length_pos_iff.2 hne
  obtain ⟨hended, hdepth, hstart, hseen⟩ := (endOf a).after_of_not_isCut
    fun c hc => isCut_of_isBlank (List.all_eq_true.1 hb' c hc)
  rw [scanStylesheet_shift base false (a ++ gap), scanStylesheet_shift base false a,
    (StylesheetScan.shift_injective base).eq_iff, scanStylesheet_of_blank_append hblank,
    scanStylesheet_eq_ended a, StylesheetScan.append_right_inj, ScanState.segments_eq, hended,
    List.nil_append, LeavesNoProperty, ScanState.finish_eq, ScanState.finish_eq (endOf a), hdepth,
    hstart, hseen]
  by_cases hdeep : (endOf a).depth > 0
  · by_cases hnone : (endOf a).seen = []
    · have hnothing := (⟨gap', hb'⟩ : Blanks).ofSegments_text (endOf a).start
      simp only [hdeep, hnone, hne', List.append_nil, List.reverse_reverse, ne_eq,
        List.reverse_eq_nil_iff, not_false_eq_true, not_true_eq_false, and_self, and_false, if_true,
        if_false, hnothing, List.not_mem_nil, false_implies, implies_true, iff_true]
      rfl
    · simp only [hdeep, hnone, ne_eq, List.append_eq_nil_iff, and_false, not_false_eq_true,
        and_self, if_true, List.reverse_append, List.reverse_reverse, List.forall_mem_singleton]
      exact Segment.ofSegments_append_blanks_iff hb' _ hne'
  · simp [hdeep]

/-- Blanks in front of a stylesheet only move it. -/
theorem scanStylesheet_blanks_append (hb : isAllBlank gap) (base : Nat) (b : List Char) :
    scanStylesheet base false (gap ++ b) = scanStylesheet (base + gap.length) false b := by
  have hslash : '/' ∉ gap := not_mem_of_isAllBlank hb (by decide)
  have hfree : CommentFree gap := commentFree_of_not_mem hslash
  have hblank : stylesheetComment.blank (gap ++ b) = gap ++ stylesheetComment.blank b := by
    rw [blank_append (closesComments_of_commentFree hfree), CommentStyle.blank_eq_self hfree]
    left
    rw [CommentStyle.blank_eq_self hfree]
    exact fun hlast => hslash (List.mem_of_getLast? hlast)
  have hstart := ScanState.ofSegments_withSegment_blanks (ScanState.unquoted 0 0 0 [])
    (isAllBlank_reverse hb) base (stylesheetComment.blank b)
  rw [List.length_reverse] at hstart
  rw [scanStylesheet, hblank, scanStylesheet, segments]
  exact (congrArg StylesheetScan.ofSegments
    (ScanState.segments_append (⟨gap, hb⟩ : Blanks).uncut _)).trans hstart

theorem scanStylesheet_blanks (hb : isAllBlank gap) (base : Nat) :
    scanStylesheet base false gap = {} := by
  have h := scanStylesheet_blanks_append hb base []
  rwa [List.append_nil] at h

end Behind

/-! ### What an incomplete stylesheet does to the one behind it -/

namespace ScanState

variable {s : ScanState} {c : Char} {text : List Char}

/-- What opens a string is a quote. -/
theorem isQuote_step (h : ∀ q ∈ s.quote, isQuote q) : ∀ q ∈ (s.step c).2.quote, isQuote q := by
  obtain ⟨quote, before, parens, depth, start, seen⟩ := s
  intro q hq
  unfold step at hq
  split_ifs at hq
  · cases quote with
    | none =>
      simp only [quoteAfter] at hq
      split_ifs at hq with hc
      · obtain rfl : c = q := by simpa using hq
        simpa [isQuote] using hc
      · simp at hq
    | some r =>
      simp only [quoteAfter] at hq
      split_ifs at hq
      · simp at hq
      · obtain rfl : r = q := by simpa using hq
        exact h r rfl
  · exact h q hq
  · exact h q hq
  · exact h q hq
  · exact h q hq
  · exact h q hq
  · exact h q hq
  · exact h q hq

theorem isQuote_after (h : ∀ q ∈ s.quote, isQuote q) (text : List Char) :
    ∀ q ∈ (s.after text).quote, isQuote q := by
  induction text generalizing s with
  | nil => exact h
  | cons c text ih => exact ih (isQuote_step h)

/-- In a string, every character belongs to the current segment. -/
theorem step_quoted {q : Char} (h : s.quote = some q) (c : Char) :
    s.step c = ([], { s.extend c with quote := quoteAfter (some q) s.before c }) := by
  have hif : (s.quote.isSome || c == '\'' || c == '"') = true := by simp [h]
  rw [step, if_pos hif, h]

/-- A string or a parenthesis is open. -/
def Enclosed (s : ScanState) : Prop := s.quote.isSome ∨ 0 < s.parens

theorem step_enclosed (h : s.Enclosed) (hs : ∀ q ∈ s.quote, isQuote q) (hq : isQuote c = false)
    (hc : c ≠ ')') : (s.step c).1 = [] ∧ (s.step c).2.Enclosed := by
  cases hquote : s.quote with
  | some q =>
    have hcq : c ≠ q := by
      rintro rfl
      rw [hs c hquote] at hq
      contradiction
    have hstay : quoteAfter (some q) s.before c = some q := by simp [quoteAfter, hcq]
    rw [step_quoted hquote, hstay]
    exact ⟨rfl, Or.inl rfl⟩
  | none =>
    have hparens : 0 < s.parens := by simpa [Enclosed, hquote] using h
    simp only [isQuote, Bool.or_eq_false_iff] at hq
    unfold step Enclosed
    by_cases hopen : c = '('
    · simp [hopen, hquote]
    · simp [hq, hopen, hc, hparens, hquote, extend]

/-- In a string or in parentheses no segment is ended. -/
theorem ended_of_enclosed (h : s.Enclosed) (hs : ∀ q ∈ s.quote, isQuote q)
    (ht : ∀ c ∈ text, isQuote c = false ∧ c ≠ ')') : s.ended text = [] := by
  induction text generalizing s with
  | nil => rfl
  | cons c text ih =>
    obtain ⟨hc, ht⟩ := List.forall_mem_cons.1 ht
    obtain ⟨hnone, hstep⟩ := step_enclosed h hs hc.1 hc.2
    rw [ended, hnone, ih hstep (isQuote_step hs) ht, List.nil_append]

/-- The end of a text gives no class names. -/
theorem classTokens_of_ended (h : s.ended text = []) :
    (StylesheetScan.ofSegments (s.segments text)).classTokens = [] := by
  rw [segments_eq, h, List.nil_append, finish_eq]
  split
  · simp [StylesheetScan.ofSegments, Segment.classTokens]
  · rfl

/-- An empty rule gives the class names of its prelude, in which the text before it has a part. -/
theorem classTokens_rule {front gap : List Char} (hquote : s.quote = none) (hparens : s.parens = 0)
    (hdepth : s.depth = 0) (hfront : Uncut front) (hb : isAllBlank gap) :
    (StylesheetScan.ofSegments (s.segments (front ++ '{' :: '}' :: gap))).classTokens =
      Segment.classTokens ⟨.prelude, s.start, s.seen.reverse ++ front⟩ := by
  rw [segments_eq_unquoted hquote, hparens, hdepth,
    segments_append_of_closes hfront.unquoted hfront.balanced hfront.whole, segments_openBrace,
    segments_closeBrace, segments_end (⟨gap, hb⟩ : Blanks).uncut]
  simp [StylesheetScan.ofSegments, Segment.classTokens]

end ScanState

/-! ### Stylesheets that are not scanned for themselves -/

/-- An empty rule for a class. -/
def emptyRule : List Char := ['.', 'b', '{', '}']

/-- The same rule with an at sign and blanks in front: the sign hides the class. -/
def hiddenRule : List Char := ['@', ' ', ' ', '.', 'b', '{', '}']

/-- A declaration outside all rules. -/
def strayDeclaration : List Char := [';', '-', '-', 'x', ':', '1', ';']

theorem scanStylesheet_emptyRule (n : Nat) :
    scanStylesheet n false emptyRule = { classTokens := [⟨"b", n⟩] } := by
  have hscan : scanStylesheet 0 false emptyRule = { classTokens := [⟨"b", 0⟩] } := by decide +kernel
  rw [scanStylesheet_shift, hscan]
  rfl

theorem scanStylesheet_hiddenRule (n : Nat) : scanStylesheet n false hiddenRule = {} := by
  have hscan : scanStylesheet 0 false hiddenRule = {} := by decide +kernel
  rw [scanStylesheet_shift, hscan]
  rfl

theorem scanStylesheet_strayDeclaration (n : Nat) :
    scanStylesheet n false strayDeclaration = {} := by
  have hscan : scanStylesheet 0 false strayDeclaration = {} := by decide +kernel
  rw [scanStylesheet_shift, hscan]
  rfl

theorem offset_lt_of_mem_classTokens {base : Nat} {inline : Bool} {text : List Char} {t : TokenSite}
    (h : t ∈ (scanStylesheet base inline text).classTokens) : t.offset < base + text.length :=
  (standsIn_of_mem_marks (StylesheetScan.mem_marks.2 (Or.inl ⟨t, h, rfl⟩))).1.lt

theorem offset_lt_of_mem_declarations {base : Nat} {inline : Bool} {text : List Char}
    {p : PropertySite} (h : p ∈ (scanStylesheet base inline text).declarations) :
    p.offset < base + text.length := by
  have hp : p ∈ (scanStylesheet base inline text).properties := List.mem_append_left _ h
  exact (standsIn_of_mem_marks
    (StylesheetScan.mem_marks.2 (Or.inr ⟨p, hp, List.mem_cons_self⟩))).1.lt

section Incomplete

variable {a tail tail' gap gap' : List Char} {n : Nat}

/-- The class of the rule is lost. -/
theorem scanStylesheet_ne_of_classTokens_eq_nil
    (hblank : stylesheetComment.blank (a ++ tail) = stylesheetComment.blank a ++ tail')
    (hnone : (StylesheetScan.ofSegments ((endOf a).segments tail')).classTokens = []) :
    scanStylesheet 0 false (a ++ tail) ≠
      scanStylesheet 0 false a ++ scanStylesheet n false emptyRule := by
  intro h
  rw [scanStylesheet_of_blank_append hblank, scanStylesheet_eq_ended a,
    scanStylesheet_emptyRule] at h
  have hlength := congrArg (fun s => s.classTokens.length) h
  simp [hnone] at hlength

/-- A comment that is open goes on over the rule. -/
theorem scanStylesheet_ne_of_comment (ha : ¬ ClosesComments a) (hb : isAllBlank gap)
    (hb' : isAllBlank gap') :
    scanStylesheet 0 false (a ++ (gap ++ (emptyRule ++ gap'))) ≠
      scanStylesheet 0 false a ++ scanStylesheet n false emptyRule := by
  have hslash : '/' ∉ gap ++ (emptyRule ++ gap') := by
    simp [emptyRule, not_mem_of_isAllBlank hb, not_mem_of_isAllBlank hb', isBlank]
  apply scanStylesheet_ne_of_classTokens_eq_nil (blank_append_eq_map ha hslash)
  apply ScanState.classTokens_of_ended
  apply (ScanState.after_of_not_isCut _ _).1
  intro c hc
  obtain ⟨d, -, rfl⟩ := List.mem_map.1 hc
  exact isCut_of_isBlank (isBlank_blankChar d)

/-- A string or a parenthesis that is open goes on over the rule. -/
theorem scanStylesheet_ne_of_enclosed (ha : ClosesComments a) (h : (endOf a).Enclosed)
    (hb : isAllBlank gap) (hb' : isAllBlank gap') :
    scanStylesheet 0 false (a ++ (gap ++ (emptyRule ++ gap'))) ≠
      scanStylesheet 0 false a ++ scanStylesheet n false emptyRule := by
  have hblank := blank_append_between ha hb hb' (b := emptyRule) (by decide) (by decide)
  have hquotes : ∀ q ∈ (endOf a).quote, isQuote q := ScanState.isQuote_after (by simp) _
  have hblanks {blanks : List Char} (hall : isAllBlank blanks) :
      ∀ c ∈ blanks, isQuote c = false ∧ c ≠ ')' := by
    intro c hc
    have hplain := isPlain_of_isBlank (List.all_eq_true.1 hall c hc)
    simp only [isPlain, Bool.and_eq_true, Bool.not_eq_true', bne_iff_ne] at hplain
    exact ⟨hplain.1.1, hplain.2⟩
  apply scanStylesheet_ne_of_classTokens_eq_nil hblank
  apply ScanState.classTokens_of_ended
  apply ScanState.ended_of_enclosed h hquotes
  rw [List.forall_mem_append, List.forall_mem_append]
  exact ⟨hblanks hb, by simp [emptyRule, isQuote], hblanks hb'⟩

/-- An at sign that is left over hides the class of the rule. -/
theorem scanStylesheet_ne_of_atSign (ha : ClosesComments a) (hquote : (endOf a).quote = none)
    (hparens : (endOf a).parens = 0) (hdepth : (endOf a).depth = 0)
    (hat : (trimLeft (endOf a).seen.reverse).head? = some '@') (hb : isAllBlank gap)
    (hb' : isAllBlank gap') :
    scanStylesheet 0 false (a ++ (gap ++ (emptyRule ++ gap'))) ≠
      scanStylesheet 0 false a ++ scanStylesheet n false emptyRule := by
  have hblank := blank_append_between ha hb hb' (b := emptyRule) (by decide) (by decide)
  have hfront : Uncut (gap ++ ['.', 'b']) :=
    (⟨gap, hb⟩ : Blanks).uncut.append (.of_forall (by simp [isPlain, isQuote, isCut]))
  have htail : gap ++ (emptyRule ++ gap') = gap ++ ['.', 'b'] ++ '{' :: '}' :: gap' := by
    simp [emptyRule]
  have hne : trimLeft (endOf a).seen.reverse ≠ [] := by
    intro hnil
    simp [hnil] at hat
  have hhead : (trimLeft ((endOf a).seen.reverse ++ (gap ++ ['.', 'b']))).head? = some '@' := by
    rw [head?_trimLeft_append hne, hat]
  apply scanStylesheet_ne_of_classTokens_eq_nil hblank
  rw [htail, ScanState.classTokens_rule hquote hparens hdepth hfront hb', Segment.classTokens]
  exact if_neg fun hno => hno.2 hhead

/-- In a rule that is open, a semicolon ends what is left over, and behind it a declaration
begins. -/
theorem exists_declaration_of_depth (hquote : (endOf a).quote = none)
    (hparens : (endOf a).parens = 0) (hdepth : (endOf a).depth ≠ 0) (hb : isAllBlank gap)
    (gap' : List Char) :
    ∃ i, a.length ≤ i ∧ ⟨.declaration, i, ['-', '-', 'x', ':', '1']⟩ ∈
      (endOf a).segments (gap ++ (strayDeclaration ++ gap')) := by
  obtain ⟨d, hd⟩ := Nat.exists_eq_succ_of_ne_zero hdepth
  have hgap : Uncut gap := (⟨gap, hb⟩ : Blanks).uncut
  have hstray : Uncut ['-', '-', 'x', ':', '1'] := .of_forall (by simp [isPlain, isQuote, isCut])
  refine ⟨(endOf a).start + (gap.reverse ++ (endOf a).seen).length + 1, ?_, ?_⟩
  · have hend := start_endOf_add_length a
    simp only [List.length_append, List.length_reverse]
    omega
  · rw [ScanState.segments_eq_unquoted hquote, hparens, hd,
      ScanState.segments_append_of_closes hgap.unquoted hgap.balanced hgap.whole]
    show _ ∈ (ScanState.unquoted 0 (d + 1) _ _).segments
      (';' :: (['-', '-', 'x', ':', '1'] ++ ';' :: gap'))
    rw [ScanState.segments_semicolonMark, ScanState.segments_semicolon hstray]
    exact List.mem_cons_of_mem _ List.mem_cons_self

/-- In a rule that is open, a declaration outside all rules is found. -/
theorem scanStylesheet_ne_of_depth (ha : ClosesComments a) (hquote : (endOf a).quote = none)
    (hparens : (endOf a).parens = 0) (hdepth : (endOf a).depth ≠ 0) (hb : isAllBlank gap)
    (hb' : isAllBlank gap') :
    scanStylesheet 0 false (a ++ (gap ++ (strayDeclaration ++ gap'))) ≠
      scanStylesheet 0 false a ++ scanStylesheet n false strayDeclaration := by
  obtain ⟨i, hle, hmem⟩ := exists_declaration_of_depth hquote hparens hdepth hb gap'
  have hproperty : Segment.customProperty? ⟨.declaration, i, ['-', '-', 'x', ':', '1']⟩ =
      some ⟨String.ofList ['-', '-', 'x'], String.ofList ['1'], i, i + 4⟩ := rfl
  have hblank := blank_append_between ha hb hb' (b := strayDeclaration) (by decide) (by decide)
  intro h
  rw [scanStylesheet_of_blank_append hblank, scanStylesheet_strayDeclaration,
    StylesheetScan.append_empty] at h
  have hfound : ⟨String.ofList ['-', '-', 'x'], String.ofList ['1'], i, i + 4⟩ ∈
      (scanStylesheet 0 false a).declarations := by
    rw [← h]
    exact List.mem_append_right _ (List.mem_filterMap.2 ⟨_, hmem, hproperty⟩)
  have hlt : i < 0 + a.length := offset_lt_of_mem_declarations hfound
  omega

/-- In a prelude that does not begin with an at sign, the sign hides nothing: behind the blanks the
class is found. -/
theorem exists_classToken_hidden {front : List Char} (hne : trimLeft front ≠ [])
    (hat : (trimLeft front).head? ≠ some '@') (i : Nat) :
    ∃ t ∈ Segment.classTokens ⟨.prelude, i, front ++ ['@', ' ', ' ', '.', 'b']⟩,
      i + front.length ≤ t.offset := by
  have hhead : (trimLeft (front ++ ['@', ' ', ' ', '.', 'b'])).head? ≠ some '@' := by
    rwa [head?_trimLeft_append hne]
  have hsplit : front ++ ['@', ' ', ' ', '.', 'b'] = (front ++ ['@']) ++ [' ', ' ', '.', 'b'] := by
    simp
  obtain ⟨part, hlength, hblank⟩ := exists_blankFound_append (r := preludeNoise)
    (front ++ ['@']) [' ', ' ', '.', 'b'] fun f hf => stop_le_of_mem_noise (by simp [noiseMarks]) hf
  have hname : ⟨part.length + 2, 2, ['b']⟩ ∈ (findAll classNameRecognizer ['.', 'b']).map
      (Found.shift (part.length + 2)) := by
    have hfound : findAll classNameRecognizer ['.', 'b'] = [⟨0, 2, ['b']⟩] := by decide +kernel
    simp [hfound, Found.shift]
  rw [← filter_classNames part ' ' ' ', List.mem_filter] at hname
  refine ⟨⟨String.ofList ['b'], i + (part.length + 2)⟩, ?_, ?_⟩
  · unfold Segment.classTokens
    rw [if_pos ⟨rfl, hhead⟩, List.mem_map]
    refine ⟨⟨part.length + 2, 2, ['b']⟩, ?_, rfl⟩
    rw [hsplit, hblank]
    exact hname.1
  · rw [List.length_append] at hlength
    dsimp only
    omega

/-- Where a prelude is left over that does not begin with an at sign, the class of the rule is
found. -/
theorem scanStylesheet_ne_of_prelude (ha : ClosesComments a) (hquote : (endOf a).quote = none)
    (hparens : (endOf a).parens = 0) (hdepth : (endOf a).depth = 0)
    (hseen : ¬ isAllBlank (endOf a).seen)
    (hat : (trimLeft (endOf a).seen.reverse).head? ≠ some '@') (hb : isAllBlank gap)
    (hb' : isAllBlank gap') :
    scanStylesheet 0 false (a ++ (gap ++ (hiddenRule ++ gap'))) ≠
      scanStylesheet 0 false a ++ scanStylesheet n false hiddenRule := by
  have hne : trimLeft (endOf a).seen.reverse ≠ [] := trimLeft_reverse_ne_nil hseen
  have htrim := takeWhile_append_of_trimLeft_ne_nil hne gap
  obtain ⟨t, ht, hle⟩ := exists_classToken_hidden (i := (endOf a).start)
    (by simp [htrim.2, hne] : trimLeft ((endOf a).seen.reverse ++ gap) ≠ [])
    (by rwa [head?_trimLeft_append hne])
  have hend := start_endOf_add_length a
  rw [List.length_append, List.length_reverse] at hle
  have hfront : Uncut (gap ++ ['@', ' ', ' ', '.', 'b']) :=
    (⟨gap, hb⟩ : Blanks).uncut.append (.of_forall (by simp [isPlain, isQuote, isCut]))
  have hrule := ScanState.classTokens_rule hquote hparens hdepth hfront hb'
  have hblank := blank_append_between ha hb hb' (b := hiddenRule) (by decide) (by decide)
  have htail : gap ++ (hiddenRule ++ gap') =
      gap ++ ['@', ' ', ' ', '.', 'b'] ++ '{' :: '}' :: gap' := by simp [hiddenRule]
  intro h
  rw [scanStylesheet_of_blank_append hblank, scanStylesheet_hiddenRule,
    StylesheetScan.append_empty] at h
  have hfound : t ∈ (scanStylesheet 0 false a).classTokens := by
    rw [← h, htail]
    apply List.mem_append_right
    rwa [hrule, ← List.append_assoc]
  have hlt := offset_lt_of_mem_classTokens hfound
  omega

/-- Behind a stylesheet that is not complete, some complete stylesheet is not scanned for itself,
whatever blanks stand around it. -/
theorem exists_scanStylesheet_append_ne (h : ¬ IsComplete a) :
    ∃ b, IsComplete b ∧ '<' ∉ b ∧ ∀ gap gap', isAllBlank gap → isAllBlank gap' → ∀ n,
      scanStylesheet 0 false (a ++ (gap ++ (b ++ gap'))) ≠
        scanStylesheet 0 false a ++ scanStylesheet n false b := by
  have hempty : IsComplete emptyRule ∧ '<' ∉ emptyRule := by decide +kernel
  by_cases hcomments : ClosesComments a
  · by_cases henclosed : (endOf a).Enclosed
    · exact ⟨emptyRule, hempty.1, hempty.2, fun gap gap' hb hb' n =>
        scanStylesheet_ne_of_enclosed hcomments henclosed hb hb'⟩
    · obtain ⟨hquote, hparens⟩ : (endOf a).quote = none ∧ (endOf a).parens = 0 := by
        simpa [ScanState.Enclosed] using henclosed
      by_cases hdepth : (endOf a).depth = 0
      · have hseen : ¬ isAllBlank (endOf a).seen :=
          fun hblank => h ⟨hcomments, hquote, hparens, hdepth, hblank⟩
        by_cases hat : (trimLeft (endOf a).seen.reverse).head? = some '@'
        · exact ⟨emptyRule, hempty.1, hempty.2, fun gap gap' hb hb' n =>
            scanStylesheet_ne_of_atSign hcomments hquote hparens hdepth hat hb hb'⟩
        · exact ⟨hiddenRule, by decide +kernel, by decide, fun gap gap' hb hb' n =>
            scanStylesheet_ne_of_prelude hcomments hquote hparens hdepth hseen hat hb hb'⟩
      · exact ⟨strayDeclaration, by decide +kernel, by decide, fun gap gap' hb hb' n =>
          scanStylesheet_ne_of_depth hcomments hquote hparens hdepth hb hb'⟩
  · exact ⟨emptyRule, hempty.1, hempty.2, fun gap gap' hb hb' n =>
      scanStylesheet_ne_of_comment hcomments hb hb'⟩

end Incomplete

end BeamLint
