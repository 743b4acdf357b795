import BeamLint.Proofs.Stylesheet.Leftover

/-!
# Strings in stylesheets

The scan takes a string as a whole (`ScanState.segments_quoted`), but it is not the only one to look
for strings: comments are blanked before it, and in a prelude what hides class names is sought anew
after it. So the content of a string has no say in what is found behind the string if no comment
begins in it that it leaves open, and if nothing ends in it that hides class names and has begun
before it (`Harmless`). Any other content has a say (`scanStylesheet_quoted`).
-/

namespace BeamLint

open Text

/-! ### What is found behind a place -/

/-- What is found at place `n` or behind it. -/
def StylesheetScan.behind (n : Nat) (s : StylesheetScan) : StylesheetScan where
  classTokens := s.classTokens.filter (n ≤ ·.offset)
  declarations := s.declarations.filter (n ≤ ·.offset)
  usages := s.usages.filter (n ≤ ·.offset)

theorem StylesheetScan.behind_append (n : Nat) (a b : StylesheetScan) :
    (a ++ b).behind n = a.behind n ++ b.behind n := by
  simp [behind, append_def]

namespace Segment

variable {g : Segment} {n : Nat}

/-- A property is found where its segment begins. -/
theorem offset_of_site? {p : PropertySite} (h : g.site? = some p) : p.offset = g.place := by
  obtain ⟨name, after, -, -, hp⟩ := exists_property?_of_site? h
  unfold property? at hp
  split at hp
  · obtain rfl := Option.some.inj hp
    rfl
  · contradiction

theorem behind_declaration (hkind : g.kind = .declaration) (h : g.place < n) :
    (StylesheetScan.ofSegments [g]).behind n = {} := by
  have htokens : g.classTokens = [] := by simp [classTokens, hkind]
  have hno {p : PropertySite} (hp : g.site? = some p) : ¬ n ≤ p.offset := by
    rw [offset_of_site? hp]
    omega
  simp only [StylesheetScan.ofSegments, StylesheetScan.behind, List.flatMap_singleton, htokens,
    List.filter_nil, StylesheetScan.mk.injEq, true_and, List.filter_eq_nil_iff, List.mem_filterMap,
    List.mem_singleton, exists_eq_left, decide_eq_true_eq]
  constructor
  · intro p hp
    exact hno (Option.or_eq_some_iff.2 (Or.inl hp))
  · intro p hp
    have hcustom : g.customProperty? = none := by
      unfold usage? at hp
      split at hp
      · contradiction
      · next hc => simpa using hc
    exact hno (Option.or_eq_some_iff.2 (Or.inr ⟨hcustom, hp⟩))

theorem behind_prelude (i n : Nat) (text : List Char) :
    (StylesheetScan.ofSegments [⟨.prelude, i, text⟩]).behind n =
      { classTokens := (classTokens ⟨.prelude, i, text⟩).filter (n ≤ ·.offset) } := by
  simp [StylesheetScan.ofSegments, StylesheetScan.behind, customProperty?, usage?,
    ordinaryProperty?]

/-- The quote of a string is not blank. -/
theorem place_le {q : Char} (hq : isQuote q) (kind : SegmentKind) (i : Nat)
    (front back : List Char) :
    place ⟨kind, i, front ++ q :: back⟩ ≤ i + front.length := by
  have hhead : ∀ c ∈ (q :: back).head?, isBlank c = false := by
    simpa using isBlank_of_isQuote hq
  have htake := (takeWhile_append_of_head? hhead front).1
  have hle := (List.takeWhile_sublist isBlank (l := front)).length_le
  simp only [place, htake]
  omega

end Segment

/-! ### The scan of a string -/

namespace ScanState

variable {s : ScanState} {q : Char} {text content : List Char}

theorem quote_step {c : Char} (hs : s.quote = none) (hc : isQuote c = false) :
    (s.step c).2.quote = none := by
  simp only [isQuote, Bool.or_eq_false_iff] at hc
  unfold step
  rw [if_neg (by simp [hs, hc])]
  split_ifs <;> simp [hs, extend, next]

theorem quote_after (hs : s.quote = none) (h : ∀ c ∈ text, isQuote c = false) :
    (s.after text).quote = none := by
  induction text generalizing s with
  | nil => exact hs
  | cons c text ih =>
    obtain ⟨hc, htext⟩ := List.forall_mem_cons.1 h
    exact ih (quote_step hs hc) htext

/-- The current segment is made of what has been read. -/
theorem mem_seen_after {c : Char} (h : c ∈ (s.after text).seen) : c ∈ s.seen ∨ c ∈ text := by
  induction text generalizing s with
  | nil => exact Or.inl h
  | cons d text ih =>
    rcases ih h with hseen | htext
    · rcases s.step_cases d with ⟨-, -, hstep⟩ | ⟨-, -, hstep⟩
      · rw [hstep, List.mem_cons] at hseen
        exact hseen.elim (fun e => Or.inr (e ▸ List.mem_cons_self)) Or.inl
      · simp [hstep] at hseen
    · exact Or.inr (List.mem_cons_of_mem _ htext)

/-- Depth and place do not matter to where the current segment begins. -/
theorem seen_after_congr {s' : ScanState} (hquote : s.quote = s'.quote)
    (hbefore : s.before = s'.before) (hparens : s.parens = s'.parens) (hseen : s.seen = s'.seen)
    (text : List Char) :
    (s.after text).seen = (s'.after text).seen := by
  induction text generalizing s s' with
  | nil => exact hseen
  | cons c text ih =>
    rw [after_cons, after_cons]
    unfold step
    rw [hquote, hparens]
    split_ifs
    · exact ih (by rw [hbefore]) rfl (by simp [extend, hparens]) (by simp [extend, hseen])
    · exact ih (by simp [extend, hquote]) rfl rfl (by simp [extend, hseen])
    · exact ih (by simp [extend, hquote]) rfl rfl (by simp [extend, hseen])
    · exact ih (by simp [extend, hquote]) rfl (by simp [extend, hparens]) (by simp [extend, hseen])
    · exact ih (by simp [next, hquote]) rfl (by simp [next, hparens]) rfl
    · exact ih (by simp [next, hquote]) rfl (by simp [next, hparens]) rfl
    · exact ih (by simp [next, hquote]) rfl (by simp [next, hparens]) rfl
    · exact ih (by simp [extend, hquote]) rfl (by simp [extend, hparens]) (by simp [extend, hseen])

/-- In a string that does not end, everything belongs to the current segment. -/
theorem after_of_quoted (hs : s.quote = some q) (h : q ∉ text) :
    s.ended text = [] ∧ (s.after text).start = s.start ∧
      (s.after text).seen = text.reverse ++ s.seen := by
  induction text generalizing s with
  | nil => exact ⟨rfl, rfl, rfl⟩
  | cons c text ih =>
    rw [List.mem_cons, not_or] at h
    have hstay : quoteAfter (some q) s.before c = some q := by simp [quoteAfter, Ne.symm h.1]
    have hstep := step_quoted hs c
    rw [hstay] at hstep
    obtain ⟨hended, hstart, hseen⟩ := ih (s := (s.step c).2) (by rw [hstep]) h.2
    rw [ended, after_cons, hended, hstart, hseen, hstep]
    exact ⟨rfl, rfl, by simp [extend]⟩

/-- The state behind a string that is the current segment's next part. -/
def afterString (s : ScanState) (q : Char) (content : List Char) : ScanState :=
  { s with before := q }.withSegment s.start ((q :: (content ++ [q])).reverse ++ s.seen)

theorem segments_content (hs : s.quote = some q) (hbefore : s.before ≠ '\\') (hq : isQuote q)
    (hc : IsContent content) (rest : List Char) :
    s.segments (content ++ q :: rest) =
      ({ s with quote := none, before := q }.withSegment s.start
        ((content ++ [q]).reverse ++ s.seen)).segments rest := by
  induction content generalizing s with
  | nil =>
    have hend : quoteAfter (some q) s.before q = none := by simp [quoteAfter, hbefore]
    rw [List.nil_append, segments, step_quoted hs, hend]
    rfl
  | cons c content ih =>
    obtain ⟨⟨hcq, hslash⟩, hc⟩ := List.forall_mem_cons.1 hc
    have hne : c ≠ q := by
      rintro rfl
      simp [hq] at hcq
    have hstay : quoteAfter (some q) s.before c = some q := by simp [quoteAfter, hne]
    rw [List.cons_append, segments, step_quoted hs, hstay, List.nil_append, ih rfl hslash hc]
    simp [withSegment, extend]

theorem step_quote (hs : s.quote = none) (hq : isQuote q) :
    s.step q = ([], { s.extend q with quote := some q }) := by
  rcases isQuote_iff.1 hq with rfl | rfl
  · simp [step, hs, quoteAfter]
  · simp [step, hs, quoteAfter]

/-- A string is read as a whole. -/
theorem segments_quoted (hs : s.quote = none) (hq : isQuote q) (hc : IsContent content)
    (rest : List Char) :
    s.segments (q :: (content ++ q :: rest)) = (s.afterString q content).segments rest := by
  have hslash : q ≠ '\\' := by
    rintro rfl
    simp [isQuote] at hq
  rw [segments, step_quote hs hq, List.nil_append, segments_content rfl hslash hq hc]
  simp [afterString, withSegment, extend, hs]

/-- The state at the beginning of a stylesheet. -/
def initial (base : Nat) (inline : Bool) : ScanState :=
  { depth := if inline then 1 else 0, start := base }

end ScanState

theorem scanStylesheet_eq_initial (base : Nat) (inline : Bool) (text : List Char) :
    scanStylesheet base inline text = StylesheetScan.ofSegments
      ((ScanState.initial base inline).segments (stylesheetComment.blank text)) := rfl

/-! ### Strings that are harmless -/

theorem isContent_blank {content : List Char} (hc : IsContent content) :
    IsContent (stylesheetComment.blank content) := by
  intro d hd
  rcases mem_blankFound hd with hm | hblank
  · exact hc d hm
  · have hplain := isPlain_of_isBlank hblank
    simp only [isPlain, Bool.and_eq_true, Bool.not_eq_true'] at hplain
    exact ⟨hplain.1.1, ne_of_isBlank hblank (by decide)⟩

/-- The content of a string behind `front` closes the comments that begin in it, and nothing ends in
it that hides class names and has begun before the string. -/
structure Harmless (front content : List Char) : Prop where
  closesComments : ClosesComments content
  /-- A prelude that begins with an at sign has no class names to hide. -/
  hidesNothing : (trimLeft (endOf front).seen.reverse).head? = some '@' ∨
    ∀ c ∈ stylesheetComment.blank content, ¬ Hides (endOf front).seen.reverse c

theorem harmless_iff {front content : List Char} : Harmless front content ↔
    ClosesComments content ∧ ((trimLeft (endOf front).seen.reverse).head? = some '@' ∨
      ∀ c ∈ stylesheetComment.blank content, ¬ Hides (endOf front).seen.reverse c) :=
  ⟨fun ⟨h₁, h₂⟩ => ⟨h₁, h₂⟩, fun ⟨h₁, h₂⟩ => ⟨h₁, h₂⟩⟩

-- Without the first line, all characters there are would be gone through.
instance (front content : List Char) : Decidable (Harmless front content) :=
  haveI : Decidable (∀ c ∈ stylesheetComment.blank content, ¬ Hides (endOf front).seen.reverse c) :=
    List.decidableBAll _ _
  decidable_of_iff _ harmless_iff.symm

section InQuotes

variable {q : Char} {front : List Char} (hq : isQuote q) (hfree : CommentFree front)

include hq

include hfree

theorem blank_inQuotes (content back : List Char) :
    stylesheetComment.blank (inQuotes q front back content) =
      front ++ q :: stylesheetComment.blank (content ++ q :: back) := by
  have hslash : q ≠ '/' := ne_of_isQuote hq (by decide)
  have hstar : q ≠ '*' := ne_of_isQuote hq (by decide)
  have hno : ¬ stylesheetComment.opening <+: q :: (content ++ q :: back) :=
    fun hp => hslash (head?_of_prefix_cons hp).1
  rw [inQuotes, blank_append (closesComments_of_commentFree hfree) (Or.inr (by simpa using hstar)),
    CommentStyle.blank_eq_self hfree, blank_plain hno]

theorem blank_inQuotes_of_closesComments {content : List Char} (hc : ClosesComments content)
    (back : List Char) :
    stylesheetComment.blank (inQuotes q front back content) =
      inQuotes q front (stylesheetComment.blank back) (stylesheetComment.blank content) := by
  have hslash : q ≠ '/' := ne_of_isQuote hq (by decide)
  have hstar : q ≠ '*' := ne_of_isQuote hq (by decide)
  have hno : ¬ stylesheetComment.opening <+: q :: back :=
    fun hp => hslash (head?_of_prefix_cons hp).1
  rw [blank_inQuotes hq hfree, blank_append hc (Or.inr (by simpa using hstar)), blank_plain hno]
  rfl

variable (hplain : ∀ c ∈ front, isQuote c = false) (base : Nat) (inline : Bool)

include hplain

/-- The scan of a text with a string in it, taken apart where the string ends. -/
theorem scanStylesheet_inQuotes {content : List Char} (hc : IsContent content)
    (hclosed : ClosesComments content) (back : List Char) :
    scanStylesheet base inline (inQuotes q front back content) =
      StylesheetScan.ofSegments ((ScanState.initial base inline).ended front) ++
        StylesheetScan.ofSegments
          ((((ScanState.initial base inline).after front).afterString q
            (stylesheetComment.blank content)).segments (stylesheetComment.blank back)) := by
  have hquote : ((ScanState.initial base inline).after front).quote = none :=
    ScanState.quote_after rfl hplain
  rw [scanStylesheet_eq_initial, blank_inQuotes_of_closesComments hq hfree hclosed, inQuotes,
    ScanState.segments_append_text, StylesheetScan.ofSegments_append,
    ScanState.segments_quoted hquote hq (isContent_blank hc)]

omit hq hplain in
/-- Up to the string, the current segment is what `front` leaves over. -/
theorem seen_initial_after :
    ((ScanState.initial base inline).after front).seen = (endOf front).seen := by
  rw [endOf, CommentStyle.blank_eq_self hfree]
  apply ScanState.seen_after_congr
  · rfl
  · rfl
  · rfl
  · rfl

omit hq in
theorem isQuote_of_mem_seen {c : Char} (h : c ∈ (endOf front).seen.reverse) :
    isQuote c = false := by
  rw [List.mem_reverse, endOf, CommentStyle.blank_eq_self hfree] at h
  rcases ScanState.mem_seen_after h with h | h
  · contradiction
  · exact hplain c h

omit hq hfree hplain in
theorem start_initial_after (front : List Char) :
    ((ScanState.initial base inline).after front).start +
        ((ScanState.initial base inline).after front).seen.length = base + front.length :=
  ScanState.start_after_add_length (s := ScanState.initial base inline) base [] front

end InQuotes

/-! ### Harmless content has no say -/

namespace Segment

variable {q : Char} {front : List Char} (hq : isQuote q) (hplain : ∀ c ∈ front, isQuote c = false)

include hq

theorem head?_trimLeft_string (back : List Char) :
    (trimLeft (front ++ q :: back)).head? = some '@' ↔ (trimLeft front).head? = some '@' := by
  by_cases hfront : trimLeft front = []
  · have hblank : isAllBlank front := List.all_eq_true.2 (List.dropWhile_eq_nil_iff.1 hfront)
    have htrim : trimLeft (q :: back) = q :: back :=
      List.dropWhile_cons_of_neg (by simp [isBlank_of_isQuote hq])
    have hat : q ≠ '@' := ne_of_isQuote hq (by decide)
    rw [trimLeft_append hblank, htrim, hfront]
    simp [hat]
  · rw [head?_trimLeft_append hfront]

include hplain

/-- Of a prelude with a harmless string, the class names behind the string are those of some text
that does not depend on the string. -/
theorem exists_classTokens_string (back : List Char) :
    ∃ back', ((']' ∉ back ∧ '}' ∉ back) → back' = blankFound preludeNoise back) ∧
      ∀ content, IsContent content → (∀ c ∈ content, ¬ Hides front c) →
        (trimLeft front).head? ≠ some '@' → ∀ i,
          (classTokens ⟨.prelude, i, front ++ q :: (content ++ q :: back)⟩).filter
              (i + (front.length + content.length + 2) ≤ ·.offset) =
            (findAll classNameRecognizer back').map fun f =>
              ⟨String.ofList f.value, i + (front.length + content.length + 2 + f.start)⟩ := by
  obtain ⟨back', hback, hblank⟩ := exists_blankFound_string hplain hq back
  refine ⟨back', hback, fun content hc hno hat i => ?_⟩
  obtain ⟨part, a, b, hlength, hpart⟩ := hblank content hc hno
  have hnames := filter_classNames part a b back'
  rw [hlength] at hnames
  unfold classTokens
  rw [if_pos ⟨rfl, mt (head?_trimLeft_string hq _).1 hat⟩, hpart, List.filter_map]
  have hplace : (fun t : TokenSite => decide (i + (front.length + content.length + 2) ≤ t.offset)) ∘
      (fun f : Found (List Char) => (⟨String.ofList f.value, i + f.start⟩ : TokenSite)) =
        fun f => decide (front.length + content.length + 2 ≤ f.start) := by
    funext f
    simp
  rw [hplace, hnames, List.map_map]
  rfl

/-- The first segment that ends behind a harmless string gives the same behind the string, whatever
its content. -/
theorem behind_string_congr {content content' : List Char} (hc : IsContent content)
    (hc' : IsContent content') (hlength : content.length = content'.length)
    (hno : (trimLeft front).head? = some '@' ∨ ∀ c ∈ content, ¬ Hides front c)
    (hno' : (trimLeft front).head? = some '@' ∨ ∀ c ∈ content', ¬ Hides front c)
    (kind : SegmentKind) (i : Nat) (back : List Char) :
    (StylesheetScan.ofSegments [⟨kind, i, front ++ q :: (content ++ q :: back)⟩]).behind
        (i + (front.length + content.length + 2)) =
      (StylesheetScan.ofSegments [⟨kind, i, front ++ q :: (content' ++ q :: back)⟩]).behind
        (i + (front.length + content.length + 2)) := by
  cases kind with
  | declaration =>
    have hplace (rest : List Char) : place ⟨.declaration, i, front ++ q :: rest⟩ <
        i + (front.length + content.length + 2) := by
      have hle := place_le hq .declaration i front rest
      omega
    rw [behind_declaration rfl (hplace _), behind_declaration rfl (hplace _)]
  | prelude =>
    rw [behind_prelude, behind_prelude]
    congr 1
    by_cases hat : (trimLeft front).head? = some '@'
    · have hnone (rest : List Char) : classTokens ⟨.prelude, i, front ++ q :: rest⟩ = [] :=
        if_neg fun h => h.2 ((head?_trimLeft_string hq rest).2 hat)
      rw [hnone, hnone]
    · obtain ⟨back', -, htokens⟩ := exists_classTokens_string hq hplain back
      have h' := htokens content' hc' (hno'.resolve_left hat) hat i
      rw [← hlength] at h'
      rw [htokens content hc (hno.resolve_left hat) hat i, h']

end Segment

section Congr

variable {q : Char} {front content content' : List Char} (hq : isQuote q)
  (hfree : CommentFree front) (hplain : ∀ c ∈ front, isQuote c = false) (base : Nat)
  (inline : Bool)

omit hq hfree hplain in
theorem seen_afterString (s : ScanState) (q : Char) (content ahead : List Char) :
    ((q :: (content ++ [q])).reverse ++ s.seen).reverse ++ ahead =
      s.seen.reverse ++ q :: (content ++ q :: ahead) := by
  simp

include hq hfree hplain

theorem behind_inQuotes_congr (hc : IsContent content) (hc' : IsContent content')
    (hlength : content.length = content'.length) (h : Harmless front content)
    (h' : Harmless front content') (back : List Char) :
    (scanStylesheet base inline (inQuotes q front back content)).behind
        (base + front.length + content.length + 2) =
      (scanStylesheet base inline (inQuotes q front back content')).behind
        (base + front.length + content.length + 2) := by
  obtain ⟨kind, ahead, later, hscan⟩ := ScanState.exists_ofSegments_withSegment
    { (ScanState.initial base inline).after front with before := q } (stylesheetComment.blank back)
  have hseen := seen_initial_after hfree base inline
  have hstart := start_initial_after base inline front
  have hplace : base + front.length + content.length + 2 =
      ((ScanState.initial base inline).after front).start + ((endOf front).seen.reverse.length +
        (stylesheetComment.blank content).length + 2) := by
    rw [← hstart, hseen, List.length_reverse, length_blank]
    omega
  have hlength' : (stylesheetComment.blank content).length =
      (stylesheetComment.blank content').length := by simpa using hlength
  have hlater : ((q :: (stylesheetComment.blank content ++ [q])).reverse ++
        ((ScanState.initial base inline).after front).seen).length =
      ((q :: (stylesheetComment.blank content' ++ [q])).reverse ++
        ((ScanState.initial base inline).after front).seen).length := by
    simp [hlength]
  rw [scanStylesheet_inQuotes hq hfree hplain base inline hc h.closesComments,
    scanStylesheet_inQuotes hq hfree hplain base inline hc' h'.closesComments,
    ScanState.afterString, ScanState.afterString, hscan, hscan, hlater]
  simp only [StylesheetScan.behind_append]
  congr 2
  cases kind with
  | none => rfl
  | some kind =>
    simp only [Option.map_some, Option.toList_some, seen_afterString, hseen]
    rw [hplace]
    exact Segment.behind_string_congr hq (fun c => isQuote_of_mem_seen hfree hplain)
      (isContent_blank hc) (isContent_blank hc') hlength' h.hidesNothing h'.hidesNothing kind _
      ahead

end Congr

/-! ### Any other content has a say -/

/-- A rule with a declaration, behind `k` closing parentheses. -/
def closingRule (k : Nat) : List Char :=
  List.replicate k ')' ++ '{' :: ['-', '-', 'x', ':', '1', ';']

/-- A prelude with a class name and an empty string, which ends with `k` closing parentheses. -/
def closingPrelude (q : Char) (k : Nat) : List Char :=
  '.' :: 'a' :: q :: q :: List.replicate k ')'

namespace ScanState

variable {s : ScanState} {q : Char}

theorem closes_replicate (k : Nat) : closes k (List.replicate k ')') := by
  induction k with
  | zero => rfl
  | succ k ih => simpa [List.replicate_succ, closes] using ih

/-- All parentheses that are open are closed. -/
theorem segments_closing (hs : s.quote = none) (rest : List Char) :
    s.segments (List.replicate s.parens ')' ++ rest) =
      (unquoted 0 s.depth s.start (List.replicate s.parens ')' ++ s.seen)).segments rest := by
  have hclosing : ∀ c ∈ List.replicate s.parens ')', isQuote c = false ∧ isCut c = false := by
    intro c hc
    rw [List.eq_of_mem_replicate hc]
    simp [isQuote, isCut]
  rw [segments_eq_unquoted hs, segments_append_of_closes (fun c hc => (hclosing c hc).1)
    (closes_replicate _) fun c hc => (hclosing c (mem_of_mem_outside hc)).2, List.reverse_replicate]

theorem segments_closingRule (hs : s.quote = none) :
    s.segments (closingRule s.parens) =
      [⟨.prelude, s.start, s.seen.reverse ++ List.replicate s.parens ')'⟩,
        ⟨.declaration, s.start + (s.parens + s.seen.length) + 1, ['-', '-', 'x', ':', '1']⟩] := by
  have hdeclaration : Uncut ['-', '-', 'x', ':', '1'] :=
    .of_forall (by simp [isPlain, isQuote, isCut])
  have hrest := segments_semicolon (d := s.depth)
    (i := s.start + (List.replicate s.parens ')' ++ s.seen).length + 1) hdeclaration []
  rw [closingRule, segments_closing hs, segments_openBrace]
  simp only [List.cons_append, List.nil_append] at hrest
  rw [hrest]
  simp [segments, finish, unquoted]

theorem segments_closingPrelude (hs : s.quote = none) (hq : isQuote q) :
    s.segments (closingPrelude q s.parens ++ ['{']) =
      [⟨.prelude, s.start, s.seen.reverse ++ closingPrelude q s.parens⟩] := by
  have hname : s.segments (closingPrelude q s.parens ++ ['{']) =
      (unquoted s.parens s.depth s.start ('a' :: '.' :: s.seen)).segments
        (q :: ([] ++ q :: (List.replicate s.parens ')' ++ ['{']))) := by
    simp only [closingPrelude, List.cons_append]
    rw [segments_eq_unquoted hs, segments_cons (by simp [isQuote]) (Or.inl (by simp [isCut])),
      segments_cons (by simp [isQuote]) (Or.inl (by simp [isCut]))]
    simp
  have hclosing := segments_closing
    (s := (unquoted s.parens s.depth s.start ('a' :: '.' :: s.seen)).afterString q []) rfl ['{']
  rw [hname, segments_quoted rfl hq (by simp [IsContent])]
  refine hclosing.trans ?_
  rw [segments_openBrace]
  simp [segments, finish, unquoted, afterString, withSegment, closingPrelude]

end ScanState

section Refute

variable {q : Char} {front content : List Char} (hq : isQuote q)

namespace Segment

variable (hplain : ∀ c ∈ front, isQuote c = false)

include hq hplain

/-- Where something is hidden in a string, the closing quote of the string hides the class name
behind it. -/
theorem classTokens_hidden (hc : IsContent content) {c : Char} (hmem : c ∈ content)
    (hhides : Hides front c) (hat : (trimLeft front).head? ≠ some '@') (i k : Nat) :
    (classTokens ⟨.prelude, i, front ++ q :: (content ++ q :: closingPrelude q k)⟩).filter
        (i + (front.length + content.length + 2) ≤ ·.offset) = [] := by
  have hback : ∀ d ∈ ['.', 'a'] ++ q :: (q :: List.replicate k ')'), d ≠ ']' ∧ d ≠ '}' := by
    have hbracket : q ≠ ']' := ne_of_isQuote hq (by decide)
    have hbrace : q ≠ '}' := ne_of_isQuote hq (by decide)
    simp [hbracket, hbrace, List.mem_replicate]
  have hname : IsContent ['.', 'a'] := by simp [IsContent, isQuote]
  obtain ⟨part, hlength, hblank⟩ := exists_blankFound_hides hplain hq hc hmem hhides hname hback
  have hdot : '.' ∉ (q :: (['.', 'a'] ++ [q])).map blankChar ++
      blankFound preludeNoise (q :: List.replicate k ')') := by
    rw [List.mem_append, not_or]
    constructor
    · intro hm
      obtain ⟨d, -, hd⟩ := List.mem_map.1 hm
      exact blankChar_ne d (by decide) hd
    · intro hm
      rcases mem_blankFound hm with hm | hblank
      · rcases List.mem_cons.1 hm with rfl | hm
        · simp [isQuote] at hq
        · simpa using List.eq_of_mem_replicate hm
      · simp [isBlank] at hblank
  rw [List.filter_eq_nil_iff]
  intro t ht
  unfold classTokens at ht
  rw [if_pos ⟨rfl, mt (head?_trimLeft_string hq _).1 hat⟩, List.mem_map] at ht
  obtain ⟨f, hf, rfl⟩ := ht
  have hlt : f.start < part.length := by
    rw [← List.singleton_append] at hf
    apply start_lt_of_mem_classNames hdot
    rw [← hblank]
    exact hf
  rw [decide_eq_true_eq]
  dsimp only
  omega

/-- A class name behind a harmless string is found. -/
theorem classTokens_shown (hc : IsContent content) (hno : ∀ c ∈ content, ¬ Hides front c)
    (hat : (trimLeft front).head? ≠ some '@') (i k : Nat) :
    (classTokens ⟨.prelude, i, front ++ q :: (content ++ q :: closingPrelude q k)⟩).filter
        (i + (front.length + content.length + 2) ≤ ·.offset) ≠ [] := by
  obtain ⟨back', hback, htokens⟩ := exists_classTokens_string hq hplain (closingPrelude q k)
  have hbracket : q ≠ ']' := ne_of_isQuote hq (by decide)
  have hbrace : q ≠ '}' := ne_of_isQuote hq (by decide)
  have hblank : back' =
      '.' :: 'a' :: blankFound preludeNoise (q :: q :: List.replicate k ')') := by
    rw [hback (by simp [closingPrelude, hbracket.symm, hbrace.symm, List.mem_replicate]),
      closingPrelude,
      blankFound_cons (fun _ _ _ => rfl) (preludeNoise_cons (by simp [isQuote]) (by simp) _),
      blankFound_cons (fun _ _ _ => rfl) (preludeNoise_cons (by simp [isQuote]) (by simp) _)]
  have hread (rest : List Char) : classNameRecognizer none ('.' :: 'a' :: rest) =
      some ((classNameRun ('a' :: rest)).length + 1, classNameRun ('a' :: rest)) := by
    have hrun : classNameRun ('a' :: rest) = 'a' :: classNameRun rest := rfl
    simp [classNameRecognizer, hrun]
  obtain ⟨f, hf, -⟩ := exists_covers_of_reads (fun _ _ _ => rfl) [] (List.cons_ne_nil _ _)
    (Nat.succ_pos _) (hread (blankFound preludeNoise (q :: q :: List.replicate k ')')))
  rw [htokens content hc hno hat i, hblank]
  exact List.ne_nil_of_mem (List.mem_map_of_mem hf)

end Segment

variable (hfree : CommentFree front) (hplain : ∀ c ∈ front, isQuote c = false) (base : Nat)
  (inline : Bool)

include hq hfree hplain

/-- A comment that is open at the end of the string takes what follows, the closing quote first. -/
theorem scanStylesheet_inQuotes_open (h : ¬ ClosesComments content) {back : List Char}
    (hback : '/' ∉ back) :
    scanStylesheet base inline (inQuotes q front back content) =
      StylesheetScan.ofSegments ((ScanState.initial base inline).ended front) ++
        StylesheetScan.ofSegments (({ ((ScanState.initial base inline).after front).extend q with
          quote := some q } : ScanState).segments
            (stylesheetComment.blank content ++ (q :: back).map blankChar)) := by
  have hne : q ≠ '/' := ne_of_isQuote hq (by decide)
  have hslash : '/' ∉ q :: back := by simp [hne.symm, hback]
  have hquote : ((ScanState.initial base inline).after front).quote = none :=
    ScanState.quote_after rfl hplain
  rw [scanStylesheet_eq_initial, blank_inQuotes hq hfree, blank_append_eq_map h hslash,
    ScanState.segments_append_text, StylesheetScan.ofSegments_append, ScanState.segments,
    ScanState.step_quote hquote hq, List.nil_append]

/-- So nothing is found behind the string. -/
theorem behind_of_not_closesComments (hc : IsContent content) (h : ¬ ClosesComments content)
    {back : List Char} (hback : '/' ∉ back) :
    (scanStylesheet base inline (inQuotes q front back content)).behind
        (base + front.length + content.length + 2) =
      (StylesheetScan.ofSegments ((ScanState.initial base inline).ended front)).behind
        (base + front.length + content.length + 2) := by
  have hopen : q ∉ stylesheetComment.blank content ++ (q :: back).map blankChar := by
    rw [List.mem_append, not_or]
    constructor
    · intro hm
      simp [(isContent_blank hc q hm).1] at hq
    · intro hm
      obtain ⟨d, -, rfl⟩ := List.mem_map.1 hm
      exact blankChar_ne d (isBlank_of_isQuote hq) rfl
  -- The string never ends, so that all the rest belongs to the segment in which it begins.
  obtain ⟨hended, hstart, hseen⟩ := ScanState.after_of_quoted
    (s := { ((ScanState.initial base inline).after front).extend q with quote := some q }) rfl hopen
  have hplace := Segment.place_le hq .declaration
    ((ScanState.initial base inline).after front).start
    ((ScanState.initial base inline).after front).seen.reverse
    (stylesheetComment.blank content ++ (q :: back).map blankChar)
  have hsum := start_initial_after base inline front
  rw [List.length_reverse, hsum] at hplace
  rw [scanStylesheet_inQuotes_open hq hfree hplain base inline h hback,
    StylesheetScan.behind_append, ScanState.segments_eq, hended, List.nil_append,
    ScanState.finish_eq, hstart, hseen]
  split
  · have htext (rest : List Char) :
        (rest.reverse ++ (((ScanState.initial base inline).after front).extend q).seen).reverse =
          ((ScanState.initial base inline).after front).seen.reverse ++ q :: rest := by
      simp [ScanState.extend]
    rw [htext, Segment.behind_declaration rfl, StylesheetScan.append_empty]
    refine Nat.lt_of_le_of_lt hplace ?_
    omega
  · exact StylesheetScan.append_empty _

omit hq hfree hplain in
/-- Spaces are a content without comments. -/
theorem spaces_content (n : Nat) : IsContent (List.replicate n ' ') ∧
    ClosesComments (List.replicate n ' ') ∧
      stylesheetComment.blank (List.replicate n ' ') = List.replicate n ' ' := by
  have hfree : CommentFree (List.replicate n ' ') :=
    commentFree_of_not_mem (by simp [List.mem_replicate])
  refine ⟨?_, closesComments_of_commentFree hfree, CommentStyle.blank_eq_self hfree⟩
  intro d hd
  rw [List.eq_of_mem_replicate hd]
  simp [isQuote]

omit hq hfree hplain in
theorem exists_declaration_behind (g : Segment) {n i : Nat} (h : n ≤ i) :
    ((StylesheetScan.ofSegments [g, ⟨.declaration, i, ['-', '-', 'x', ':', '1']⟩]).behind
      n).declarations ≠ [] := by
  have hcustom : Segment.customProperty? ⟨.declaration, i, ['-', '-', 'x', ':', '1']⟩ =
      some ⟨String.ofList ['-', '-', 'x'], String.ofList ['1'], i, i + 4⟩ := rfl
  apply List.ne_nil_of_mem
  rw [StylesheetScan.behind, List.mem_filter]
  refine ⟨List.mem_filterMap.2 ⟨_, List.mem_cons_of_mem _ List.mem_cons_self, hcustom⟩, ?_⟩
  simpa using h

/-- A rule behind the string is lost in a comment that is open at the end of the string. -/
theorem exists_behind_ne_of_comment (hc : IsContent content) (h : ¬ ClosesComments content) :
    ∃ back, (scanStylesheet base inline (inQuotes q front back content)).behind
        (base + front.length + content.length + 2) ≠
      (scanStylesheet base inline (inQuotes q front back
        (List.replicate content.length ' '))).behind
          (base + front.length + content.length + 2) := by
  obtain ⟨hspaces, hclosed, hblank⟩ := spaces_content content.length
  have hquote : ((ScanState.initial base inline).after front).quote = none :=
    ScanState.quote_after rfl hplain
  have hsum := start_initial_after base inline front
  have hslash : '/' ∉ closingRule ((ScanState.initial base inline).after front).parens := by
    simp [closingRule, List.mem_replicate]
  -- Behind the string the closing rule begins, and its declaration behind that.
  have hrule : (((ScanState.initial base inline).after front).afterString q
      (List.replicate content.length ' ')).segments
        (closingRule ((ScanState.initial base inline).after front).parens) = _ :=
    ScanState.segments_closingRule hquote
  have hlength : (((ScanState.initial base inline).after front).afterString q
      (List.replicate content.length ' ')).start +
        (((ScanState.initial base inline).after front).afterString q
          (List.replicate content.length ' ')).seen.length =
      base + front.length + content.length + 2 := by
    simp only [ScanState.afterString, ScanState.withSegment, List.length_append,
      List.length_reverse, List.length_cons, List.length_replicate, List.length_nil]
    omega
  refine ⟨closingRule ((ScanState.initial base inline).after front).parens, fun heq => ?_⟩
  rw [behind_of_not_closesComments hq hfree hplain base inline hc h hslash,
    scanStylesheet_inQuotes hq hfree hplain base inline hspaces hclosed, hblank,
    CommentStyle.blank_eq_self (commentFree_of_not_mem hslash), StylesheetScan.behind_append,
    hrule] at heq
  have hnone := List.self_eq_append_right.1 (congrArg StylesheetScan.declarations heq)
  exact exists_declaration_behind _ (by omega) hnone

/-- Behind the string, the closing prelude gives its class name or nothing. -/
theorem behind_closingPrelude (hc : IsContent content) (hclosed : ClosesComments content) :
    (scanStylesheet base inline (inQuotes q front
        (closingPrelude q ((ScanState.initial base inline).after front).parens ++ ['{'])
        content)).behind (base + front.length + content.length + 2) =
      (StylesheetScan.ofSegments ((ScanState.initial base inline).ended front)).behind
          (base + front.length + content.length + 2) ++
        { classTokens := (Segment.classTokens
            ⟨.prelude, ((ScanState.initial base inline).after front).start,
              (endOf front).seen.reverse ++ q :: (stylesheetComment.blank content ++ q ::
                closingPrelude q ((ScanState.initial base inline).after front).parens)⟩).filter
            (base + front.length + content.length + 2 ≤ ·.offset) } := by
  have hquote : ((ScanState.initial base inline).after front).quote = none :=
    ScanState.quote_after rfl hplain
  have hne : q ≠ '/' := ne_of_isQuote hq (by decide)
  have hslash : '/' ∉ closingPrelude q ((ScanState.initial base inline).after front).parens ++
      ['{'] := by
    simp [closingPrelude, hne.symm, List.mem_replicate]
  have hprelude : (((ScanState.initial base inline).after front).afterString q
      (stylesheetComment.blank content)).segments
        (closingPrelude q ((ScanState.initial base inline).after front).parens ++ ['{']) =
      [⟨.prelude, ((ScanState.initial base inline).after front).start,
        (endOf front).seen.reverse ++ q :: (stylesheetComment.blank content ++ q ::
          closingPrelude q ((ScanState.initial base inline).after front).parens)⟩] := by
    rw [← seen_initial_after hfree base inline, ← seen_afterString]
    exact ScanState.segments_closingPrelude hquote hq
  rw [scanStylesheet_inQuotes hq hfree hplain base inline hc hclosed,
    CommentStyle.blank_eq_self (commentFree_of_not_mem hslash), StylesheetScan.behind_append,
    hprelude, Segment.behind_prelude]

/-- A class name behind the string is lost where something is hidden in the string. -/
theorem exists_behind_ne_of_hides (hc : IsContent content) (hclosed : ClosesComments content)
    (hat : (trimLeft (endOf front).seen.reverse).head? ≠ some '@') {c : Char}
    (hmem : c ∈ stylesheetComment.blank content) (hhides : Hides (endOf front).seen.reverse c) :
    ∃ back, (scanStylesheet base inline (inQuotes q front back content)).behind
        (base + front.length + content.length + 2) ≠
      (scanStylesheet base inline (inQuotes q front back
        (List.replicate content.length ' '))).behind
          (base + front.length + content.length + 2) := by
  obtain ⟨hspaces, hclosed', hblank⟩ := spaces_content content.length
  have hsum := start_initial_after base inline front
  have hunquoted : ∀ d ∈ (endOf front).seen.reverse, isQuote d = false :=
    fun d => isQuote_of_mem_seen hfree hplain
  have hplace : base + front.length + content.length + 2 =
      ((ScanState.initial base inline).after front).start +
        ((endOf front).seen.reverse.length + content.length + 2) := by
    rw [← hsum, seen_initial_after hfree, List.length_reverse]
    omega
  have hhidden := Segment.classTokens_hidden hq hunquoted (isContent_blank hc) hmem hhides hat
    ((ScanState.initial base inline).after front).start
    ((ScanState.initial base inline).after front).parens
  have hnothing : ∀ d ∈ List.replicate content.length ' ',
      ¬ Hides (endOf front).seen.reverse d := by
    intro d hd h
    rw [List.eq_of_mem_replicate hd] at h
    simpa using mark_of_hides hunquoted h
  have hshown := Segment.classTokens_shown hq hunquoted hspaces hnothing hat
    ((ScanState.initial base inline).after front).start
    ((ScanState.initial base inline).after front).parens
  rw [length_blank, ← hplace] at hhidden
  rw [List.length_replicate, ← hplace] at hshown
  have hscan := behind_closingPrelude hq hfree hplain base inline hspaces hclosed'
  rw [hblank, List.length_replicate] at hscan
  refine ⟨closingPrelude q ((ScanState.initial base inline).after front).parens ++ ['{'],
    fun heq => ?_⟩
  rw [behind_closingPrelude hq hfree hplain base inline hc hclosed, hscan,
    StylesheetScan.append_right_inj] at heq
  exact hshown ((congrArg StylesheetScan.classTokens heq).symm.trans hhidden)

/-- Of a content that is not harmless something is seen behind the string. -/
theorem exists_behind_ne (hc : IsContent content) (h : ¬ Harmless front content) :
    ∃ back, (scanStylesheet base inline (inQuotes q front back content)).behind
        (base + front.length + content.length + 2) ≠
      (scanStylesheet base inline (inQuotes q front back
        (List.replicate content.length ' '))).behind
          (base + front.length + content.length + 2) := by
  by_cases hclosed : ClosesComments content
  · rw [harmless_iff, not_and, not_or] at h
    obtain ⟨hat, hno⟩ := h hclosed
    push Not at hno
    obtain ⟨c, hmem, hhides⟩ := hno
    exact exists_behind_ne_of_hides hq hfree hplain base inline hc hclosed hat hmem hhides
  · exact exists_behind_ne_of_comment hq hfree hplain base inline hc hclosed

end Refute

/-- **Strings in stylesheets**: whatever a harmless string holds, the same is found behind it. For
any other content there is a text behind the string that is read otherwise than behind spaces. -/
theorem scanStylesheet_quoted {q : Char} {front : List Char} (hq : isQuote q)
    (hfree : CommentFree front) (hplain : ∀ c ∈ front, isQuote c = false) (base : Nat)
    (inline : Bool) :
    (∀ content content' : List Char, IsContent content → IsContent content' →
      content.length = content'.length → Harmless front content → Harmless front content' →
        ∀ back : List Char,
          (scanStylesheet base inline (inQuotes q front back content)).behind
              (base + front.length + content.length + 2) =
            (scanStylesheet base inline (inQuotes q front back content')).behind
              (base + front.length + content.length + 2)) ∧
    ∀ content : List Char, IsContent content → ¬ Harmless front content → ∃ back : List Char,
      (scanStylesheet base inline (inQuotes q front back content)).behind
          (base + front.length + content.length + 2) ≠
        (scanStylesheet base inline (inQuotes q front back
          (List.replicate content.length ' '))).behind
            (base + front.length + content.length + 2) :=
  ⟨fun _ _ hc hc' hlength h h' back =>
      behind_inQuotes_congr hq hfree hplain base inline hc hc' hlength h h' back,
    fun _ hc h => exists_behind_ne hq hfree hplain base inline hc h⟩

/-- Braces, semicolons and comments that end in the string do no harm; a comment that is left open
does. -/
theorem scanStylesheet_quoted_content :
    (isQuote '"' ∧ CommentFree ['a', '{', 'c', ':'] ∧
      ∀ c ∈ ['a', '{', 'c', ':'], isQuote c = false) ∧
    ((IsContent ['}', ';', '*', '/'] ∧ IsContent ['/', '*', '*', '/'] ∧
        Harmless ['a', '{', 'c', ':'] ['}', ';', '*', '/'] ∧
        Harmless ['a', '{', 'c', ':'] ['/', '*', '*', '/']) ∧
      ∀ back : List Char,
        (scanStylesheet 0 false
            (inQuotes '"' ['a', '{', 'c', ':'] back ['}', ';', '*', '/'])).behind 10 =
          (scanStylesheet 0 false
            (inQuotes '"' ['a', '{', 'c', ':'] back ['/', '*', '*', '/'])).behind 10) ∧
    (IsContent ['/', '*'] ∧ ¬ Harmless ['a', '{', 'c', ':'] ['/', '*']) ∧
      ∃ back : List Char,
        (scanStylesheet 0 false (inQuotes '"' ['a', '{', 'c', ':'] back ['/', '*'])).behind 8 ≠
          (scanStylesheet 0 false
            (inQuotes '"' ['a', '{', 'c', ':'] back [' ', ' '])).behind 8 := by
  have hplain : ∀ c ∈ ['a', '{', 'c', ':'], isQuote c = false := by simp [isQuote]
  have hfree : CommentFree ['a', '{', 'c', ':'] := by decide
  have hbraces : IsContent ['}', ';', '*', '/'] := by simp [IsContent, isQuote]
  have hclosed : IsContent ['/', '*', '*', '/'] := by simp [IsContent, isQuote]
  have hopener : IsContent ['/', '*'] := by simp [IsContent, isQuote]
  have hharmless : Harmless ['a', '{', 'c', ':'] ['}', ';', '*', '/'] ∧
      Harmless ['a', '{', 'c', ':'] ['/', '*', '*', '/'] := by decide +kernel
  have hcomment : ¬ Harmless ['a', '{', 'c', ':'] ['/', '*'] := by decide +kernel
  obtain ⟨hsame, hother⟩ := scanStylesheet_quoted (q := '"') (by decide) hfree hplain 0 false
  have hbehind := hsame _ _ hbraces hclosed rfl hharmless.1 hharmless.2
  have hdiffers := hother _ hopener hcomment
  simp only [List.length_cons, List.length_nil, Nat.reduceAdd, List.replicate] at hbehind hdiffers
  exact ⟨⟨by decide, hfree, hplain⟩, ⟨⟨hbraces, hclosed, hharmless⟩, hbehind⟩,
    ⟨hopener, hcomment⟩, hdiffers⟩

/-- A comment that is left open in a string takes all that follows the string. -/
theorem opener_in_string_hides :
    IsContent "/*".toList ∧ IsContent "aa".toList ∧
      (scanStylesheet 0 false "a\x7bcontent:\"/*\";--x:1\x7d".toList).behind 14 = {} ∧
      (scanStylesheet 0 false "a\x7bcontent:\"aa\";--x:1\x7d".toList).behind 14 =
        { declarations := [⟨"--x", "1", 15, 19⟩] } :=
  ⟨by simp [IsContent, isQuote], by simp [IsContent, isQuote], by decide +kernel,
    by decide +kernel⟩

/-- A bracket in a string ends an attribute test for the search for class names, and the quote
behind it begins another string for it. -/
example :
    (scanStylesheet 0 false "a[x=\"]\"].b \".c\"\x7b\x7d".toList).behind 7 =
        { classTokens := [⟨"c", 12⟩] } ∧
      (scanStylesheet 0 false "a[x=\"a\"].b \".c\"\x7b\x7d".toList).behind 7 =
        { classTokens := [⟨"b", 8⟩] } := by
  constructor <;> decide +kernel

end BeamLint
