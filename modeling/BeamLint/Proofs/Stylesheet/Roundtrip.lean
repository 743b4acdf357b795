import BeamLint.Proofs.Stylesheet.Grammar
import BeamLint.Proofs.Stylesheet.Scan
import BeamLint.Proofs.Value.Roundtrip

/-!
# Stylesheets are read back

The scan runs over a stylesheet once, with counters for the open parentheses and braces. A text that
is not cut only adds to the current segment (`ScanState.segments_append`), so that a heading ends at
its brace and a declaration at its semicolon or at the brace that closes its rule. Each of these
segments gives just what its heading or declaration is to give. A body and its closing brace leave
the scan one brace further out, and at the beginning of a segment, however deep the body is
(`WrittenBody.ofSegments_text`); so the scan of a whole stylesheet finds what its tree says.
-/

namespace BeamLint

open Text

/-! ### Runs of the scan -/

namespace ScanState

/-- The state outside quotes. -/
def unquoted (parens depth start : Nat) (seen : List Char) : ScanState :=
  { parens := parens, depth := depth, start := start, seen := seen }

/-- Outside quotes, the character before does not matter. -/
theorem segments_eq_unquoted {s : ScanState} (hs : s.quote = none) (text : List Char) :
    s.segments text = (unquoted s.parens s.depth s.start s.seen).segments text := by
  obtain ⟨quote, before, parens, depth, start, seen⟩ := s
  obtain rfl : quote = none := hs
  cases text <;> rfl

variable {p d i : Nat} {seen : List Char}

/-- A character that is no quote and does not cut where it stands belongs to the current
segment. -/
theorem segments_cons {c : Char} (hq : isQuote c = false) (hc : isCut c = false ∨ 0 < p)
    (rest : List Char) :
    (unquoted p d i seen).segments (c :: rest) =
      (unquoted (if c = '(' then p + 1 else if c = ')' then p - 1 else p) d i
        (c :: seen)).segments rest := by
  have hquote : ((unquoted p d i seen).quote.isSome || c == '\'' || c == '"') = false := by
    simpa [unquoted, isQuote] using hq
  have hstep : (unquoted p d i seen).step c =
      ([], { (unquoted p d i seen).extend c with
        parens := if c = '(' then p + 1 else if c = ')' then p - 1 else p }) := by
    rw [step, if_neg (by simp [hquote])]
    simp only [beq_iff_eq]
    split_ifs <;> simp_all [isCut, unquoted, extend]
  rw [segments, hstep]
  exact segments_eq_unquoted rfl rest

/-- A text that closes the parentheses that are open and is not cut outside of them is added to the
current segment. -/
theorem segments_append_of_closes {text : List Char} (hq : ∀ c ∈ text, isQuote c = false)
    (hc : closes p text) (hw : ∀ c ∈ outside p text, isCut c = false) (rest : List Char) :
    (unquoted p d i seen).segments (text ++ rest) =
      (unquoted 0 d i (text.reverse ++ seen)).segments rest := by
  induction text generalizing p seen with
  | nil =>
    obtain rfl : p = 0 := by simpa [closes] using hc
    rfl
  | cons c text ih =>
    obtain ⟨hqc, hq⟩ := List.forall_mem_cons.1 hq
    rw [closes] at hc
    rw [outside] at hw
    rw [List.cons_append, List.reverse_cons, List.append_assoc, List.singleton_append]
    split_ifs at hc hw with h₁ h₂ h₃
    · rw [segments_cons hqc (Or.inl (by simp [h₁, isCut])), if_pos h₁]
      exact ih hq hc hw
    · rw [segments_cons hqc (Or.inl (by simp [h₂, isCut])), if_neg h₁, if_pos h₂]
      exact ih hq (Bool.and_eq_true_iff.1 hc).2 hw
    · obtain ⟨hcut, hw⟩ := List.forall_mem_cons.1 hw
      rw [segments_cons hqc (Or.inl hcut), if_neg h₁, if_neg h₂]
      exact ih hq hc hw
    · rw [segments_cons hqc (Or.inr (Nat.pos_of_ne_zero h₃)), if_neg h₁, if_neg h₂]
      exact ih hq hc hw

theorem segments_append {text : List Char} (h : Uncut text) (rest : List Char) :
    (unquoted 0 d i []).segments (text ++ rest) = (unquoted 0 d i text.reverse).segments rest := by
  rw [segments_append_of_closes h.unquoted h.balanced h.whole, List.append_nil]

/-- An opening brace ends a prelude. -/
theorem segments_openBrace (d i : Nat) (seen rest : List Char) :
    (unquoted 0 d i seen).segments ('{' :: rest) =
      ⟨.prelude, i, seen.reverse⟩ ::
        (unquoted 0 (d + 1) (i + seen.length + 1) []).segments rest := by
  rw [segments, segments_eq_unquoted rfl rest]
  simp [step, unquoted, segment, next]

/-- In a rule, a semicolon ends a declaration. -/
theorem segments_semicolonMark (d i : Nat) (seen rest : List Char) :
    (unquoted 0 (d + 1) i seen).segments (';' :: rest) =
      ⟨.declaration, i, seen.reverse⟩ ::
        (unquoted 0 (d + 1) (i + seen.length + 1) []).segments rest := by
  rw [segments, segments_eq_unquoted rfl rest]
  simp [step, unquoted, declaration, segment, next]

/-- The closing brace of a rule ends a declaration. -/
theorem segments_closeBrace (d i : Nat) (seen rest : List Char) :
    (unquoted 0 (d + 1) i seen).segments ('}' :: rest) =
      ⟨.declaration, i, seen.reverse⟩ ::
        (unquoted 0 d (i + seen.length + 1) []).segments rest := by
  rw [segments, segments_eq_unquoted rfl rest]
  simp [step, unquoted, declaration, segment, next]

/-- A text before an opening brace is a prelude. -/
theorem segments_open {text : List Char} (h : Uncut text) (rest : List Char) :
    (unquoted 0 d i []).segments (text ++ '{' :: rest) =
      ⟨.prelude, i, text⟩ :: (unquoted 0 (d + 1) (i + text.length + 1) []).segments rest := by
  rw [segments_append h, segments_openBrace, List.reverse_reverse, List.length_reverse]

/-- In a rule, a text before a semicolon is a declaration. -/
theorem segments_semicolon {text : List Char} (h : Uncut text) (rest : List Char) :
    (unquoted 0 (d + 1) i []).segments (text ++ ';' :: rest) =
      ⟨.declaration, i, text⟩ :: (unquoted 0 (d + 1) (i + text.length + 1) []).segments rest := by
  rw [segments_append h, segments_semicolonMark, List.reverse_reverse, List.length_reverse]

/-- In a rule, a text before the closing brace is a declaration. -/
theorem segments_close {text : List Char} (h : Uncut text) (rest : List Char) :
    (unquoted 0 (d + 1) i []).segments (text ++ '}' :: rest) =
      ⟨.declaration, i, text⟩ :: (unquoted 0 d (i + text.length + 1) []).segments rest := by
  rw [segments_append h, segments_closeBrace, List.reverse_reverse, List.length_reverse]

/-- Outside all rules, a text before the end is no segment. -/
theorem segments_end {text : List Char} (h : Uncut text) :
    (unquoted 0 0 i []).segments text = [] := by
  have happ := segments_append (d := 0) (i := i) h []
  rw [List.append_nil] at happ
  rw [happ, segments, finish, declaration]
  simp [unquoted]

end ScanState

/-! ### What a segment gives -/

namespace StylesheetScan

theorem append_def (a b : StylesheetScan) :
    a ++ b = ⟨a.classTokens ++ b.classTokens, a.declarations ++ b.declarations,
      a.usages ++ b.usages⟩ := rfl

theorem append_assoc (a b c : StylesheetScan) : a ++ b ++ c = a ++ (b ++ c) := by
  simp [append_def]

theorem ofSegments_cons (g : Segment) (gs : List Segment) :
    ofSegments (g :: gs) = ofSegments [g] ++ ofSegments gs := by
  simp only [ofSegments, append_def, List.flatMap_cons, List.flatMap_nil, List.append_nil]
  rw [← List.singleton_append, List.filterMap_append, List.filterMap_append]

end StylesheetScan

open StylesheetScan

/-- Blanks give nothing. -/
theorem Blanks.ofSegments_text (b : Blanks) (i : Nat) :
    ofSegments [⟨.declaration, i, b.text⟩] = {} := by
  have htrim : trimLeft b.text = [] := trimLeft_of_isAllBlank b.blank
  simp [ofSegments, Segment.classTokens, Segment.customProperty?, Segment.usage?,
    Segment.ordinaryProperty?, htrim, propertyName?]

/-- No class name begins with a blank. -/
theorem classNameRecognizer_blank {c : Char} (hc : isBlank c) (b : Option Char) (text : List Char) :
    classNameRecognizer b (c :: text) = none := by
  have hdot : c ≠ '.' := ne_of_isBlank hc (by decide)
  simp [classNameRecognizer, hdot]

/-- Nothing that hides class names begins with a blank. -/
theorem preludeNoise_blank {c : Char} (hc : isBlank c) (b : Option Char) (text : List Char) :
    preludeNoise b (c :: text) = none := by
  have henclosed {o close : Char} (opening : List Char) (ho : isBlank o = false) :
      enclosedLength? (o :: opening) close (c :: text) = none := by
    have hne : (o == c) = false := beq_eq_false_iff_ne.2 (ne_of_isBlank hc ho).symm
    simp [enclosedLength?, List.isPrefixOf?, hne]
  rw [preludeNoise, henclosed [] (by decide), henclosed [] (by decide), henclosed [] (by decide),
    henclosed ['{'] (by decide)]
  rfl

namespace Segment

/-- Where the first character of the segment stands that is not blank. -/
def place (g : Segment) : Nat := g.offset + (g.text.takeWhile isBlank).length

theorem place_blanks_append {blanks : List Char} (hb : isAllBlank blanks) (kind : SegmentKind)
    (i : Nat) (text : List Char) :
    place ⟨kind, i, blanks ++ text⟩ = place ⟨kind, i + blanks.length, text⟩ := by
  simp only [place, List.takeWhile_append_of_pos (List.all_eq_true.1 hb), List.length_append,
    Nat.add_assoc]

/-- Blanks at the beginning give no class names. -/
theorem classTokens_eq (g : Segment) :
    g.classTokens =
      if g.kind = .prelude ∧ (trimLeft g.text).head? ≠ some '@' then
        (findAll classNameRecognizer (blankFound preludeNoise (trimLeft g.text))).map fun f =>
          ⟨String.ofList f.value, g.place + f.start⟩
      else [] := by
  have hlead : ∀ c ∈ g.text.takeWhile isBlank, isBlank c :=
    List.all_eq_true.1 (isAllBlank_takeWhile g.text)
  have hnoise : blankFound preludeNoise g.text =
      g.text.takeWhile isBlank ++ blankFound preludeNoise (trimLeft g.text) := by
    rw [← blankFound_append (fun _ _ _ => rfl) (fun c hc => preludeNoise_blank (hlead c hc)),
      trimLeft, List.takeWhile_append_dropWhile]
  have hnames := findAll_append (fun _ _ _ => rfl)
    (fun c hc => classNameRecognizer_blank (hlead c hc)) (blankFound preludeNoise (trimLeft g.text))
  rw [classTokens, hnoise, hnames, List.map_map]
  simp only [Function.comp_def, Found.shift, place, Nat.add_assoc]

end Segment

/-- A heading gives its class names. -/
theorem Heading.ofSegments_text (h : Heading) (i : Nat) :
    ofSegments [⟨.prelude, i, h.text⟩] = h.found i := by
  have htokens : Segment.classTokens ⟨.prelude, i, h.text⟩ =
      Segment.classTokens ⟨.prelude, i + h.before.text.length, h.prelude.text⟩ := by
    have htrim : trimLeft h.text = trimLeft h.prelude.text := trimLeft_append h.before.blank _
    have hplace := Segment.place_blanks_append h.before.blank .prelude i h.prelude.text
    rw [Segment.classTokens_eq, Segment.classTokens_eq, htrim, ← hplace]
    rfl
  have hfound : Segment.classTokens ⟨.prelude, i + h.before.text.length, h.prelude.text⟩ =
      (h.found i).classTokens := by
    by_cases hat : (trimLeft h.prelude.text).head? = some '@'
    · simp [Segment.classTokens, Heading.found, hat]
    · simp [Segment.classTokens, Heading.found, hat]
  rw [ofSegments, List.flatMap_singleton, htokens, hfound]
  rfl

namespace WrittenDeclaration

variable (d : WrittenDeclaration) (i : Nat)

/-- What follows the name. -/
def afterName : List Char := d.gap.text ++ ':' :: d.value.text

/-- Blanks before the name are all that is dropped there. -/
theorem blanks_before_name :
    d.text.takeWhile isBlank = d.before.text ∧ trimLeft d.text = d.name.text ++ d.afterName := by
  refine blanks_before d.before.blank fun c hc => ?_
  obtain ⟨first, later, e⟩ := List.exists_cons_of_ne_nil d.name.ne_nil
  obtain rfl : first = c := by simpa [e] using hc
  exact (d.name.chars first (by simp [e])).2.2.1

/-- The longest run of characters of names ends in the name or with it. -/
theorem nameRun :
    (trimLeft d.text).takeWhile isPropertyChar = d.name.text.takeWhile isPropertyChar ∧
      (trimLeft d.text).dropWhile isPropertyChar =
        d.name.text.dropWhile isPropertyChar ++ d.afterName := by
  rw [d.blanks_before_name.2]
  exact takeWhile_append_of_head? (d.gap.isPropertyChar_head? (by simp [isPropertyChar])) _

/-- The run has a colon after it only if it is all of the name. -/
theorem property?_text :
    Segment.property? ⟨.declaration, i, d.text⟩ (d.name.text.takeWhile isPropertyChar)
        (d.name.text.dropWhile isPropertyChar ++ d.afterName) =
      if d.name.text.all isPropertyChar then some (d.site i) else none := by
  split
  · next hall =>
    have hchars := List.all_eq_true.1 hall
    have hcolon : trimLeft d.afterName = ':' :: d.value.text :=
      (blanks_before d.gap.blank (by simp; decide)).2
    have hplace : i + (d.text.length - d.value.text.length) =
        i + d.before.text.length + d.name.text.length + d.gap.text.length + 1 := by
      simp only [text, List.length_append, List.length_cons]
      omega
    rw [List.takeWhile_eq_self_iff.2 hchars, List.dropWhile_eq_nil_iff.2 hchars, List.nil_append,
      Segment.property?, hcolon]
    simp only [d.blanks_before_name.1, hplace]
    rfl
  · next hall =>
    -- The run ends at a character of the name, which is neither a blank nor a colon.
    obtain ⟨c, later, e⟩ := List.exists_cons_of_ne_nil
      (mt List.dropWhile_eq_nil_iff.1 (mt List.all_eq_true.2 hall))
    have hc : c ∈ d.name.text := (List.dropWhile_sublist isPropertyChar).mem (by simp [e])
    obtain ⟨-, -, hblank, hcolon⟩ := d.name.chars c hc
    rw [e, Segment.property?, List.cons_append, trimLeft,
      List.dropWhile_cons_of_neg (by simp [hblank])]
    split
    · next heq => exact absurd (List.cons.inj heq).1 hcolon
    · rfl

theorem customProperty?_text :
    Segment.customProperty? ⟨.declaration, i, d.text⟩ =
      if d.name.isCustom then some (d.site i) else none := by
  obtain ⟨htake, hdrop⟩ := d.nameRun
  have hproperty := d.property?_text i
  simp only [Segment.customProperty?, propertyName?, htake, hdrop, DeclaredName.isCustom]
  by_cases hall : d.name.text.all isPropertyChar
  · rw [List.takeWhile_eq_self_iff.2 (List.all_eq_true.1 hall)] at hproperty ⊢
    by_cases hname : ['-', '-'].isPrefixOf d.name.text && d.name.text.length > 2
    · simp only [hname, hall, hproperty, if_true, Bool.and_true]
    · simp [hname, hall]
  · rw [if_neg hall] at hproperty
    split <;> simp_all

theorem ordinaryProperty?_text :
    Segment.ordinaryProperty? ⟨.declaration, i, d.text⟩ =
      if d.name.isProperty then some (d.site i) else none := by
  obtain ⟨htake, hdrop⟩ := d.nameRun
  have hproperty := d.property?_text i
  simp only [Segment.ordinaryProperty?, htake, hdrop, hproperty, DeclaredName.isProperty]
  by_cases hall : d.name.text.all isPropertyChar
  · rw [List.takeWhile_eq_self_iff.2 (List.all_eq_true.1 hall)]
    simp [hall]
  · simp [hall]

theorem usage?_text :
    Segment.usage? ⟨.declaration, i, d.text⟩ =
      if ¬ d.name.isCustom ∧ d.name.isProperty ∧ varOpen <:+: d.value.text then some (d.site i)
      else none := by
  have hvalue : (d.site i).value.toList = d.value.text := String.toList_ofList
  rw [Segment.usage?, customProperty?_text, ordinaryProperty?_text]
  by_cases hcustom : d.name.isCustom
  · simp [hcustom]
  · by_cases hproperty : d.name.isProperty
    · simp [hcustom, hproperty, Option.filter_some, hvalue, occurs_iff]
    · simp [hcustom, hproperty]

/-- A declaration gives its property. -/
theorem ofSegments_text : ofSegments [⟨.declaration, i, d.text⟩] = d.found i := by
  have htokens : Segment.classTokens ⟨.declaration, i, d.text⟩ = [] := by
    simp [Segment.classTokens]
  simp only [ofSegments, List.flatMap_singleton, htokens, List.filterMap_cons, List.filterMap_nil,
    customProperty?_text, usage?_text, found]
  by_cases hcustom : d.name.isCustom
  · simp [hcustom]
  · by_cases husage : d.name.isProperty ∧ varOpen <:+: d.value.text
    · simp [hcustom, husage]
    · simp [hcustom, husage]

end WrittenDeclaration

/-! ### Whole stylesheets -/

/-- A body and its closing brace are read back, at any depth and whatever follows. -/
theorem WrittenBody.ofSegments_text (b : WrittenBody) (d i : Nat) (rest : List Char) :
    ofSegments ((ScanState.unquoted 0 (d + 1) i []).segments (b.text ++ '}' :: rest)) =
      b.found i ++ ofSegments
        ((ScanState.unquoted 0 d (i + b.text.length + 1) []).segments rest) := by
  -- Inside a rule the depth is one more and the place further on, and what follows the inner body
  -- is the rest of the outer one; so all three are arbitrary.
  induction b generalizing d i rest with
  | blanks space =>
    rw [WrittenBody.text, ScanState.segments_close space.uncut, ofSegments_cons,
      space.ofSegments_text]
    rfl
  | last declaration =>
    rw [WrittenBody.text, ScanState.segments_close declaration.uncut_text, ofSegments_cons,
      declaration.ofSegments_text]
    rfl
  | declaration declaration more ih =>
    have hlen : i + (declaration.text ++ ';' :: more.text).length + 1 =
        i + declaration.text.length + 1 + more.text.length + 1 := by
      simp only [List.length_append, List.length_cons]
      omega
    rw [WrittenBody.text, List.append_assoc, List.cons_append,
      ScanState.segments_semicolon declaration.uncut_text, ofSegments_cons,
      declaration.ofSegments_text, ih, WrittenBody.found, append_assoc, hlen]
  | rule heading body more ihBody ih =>
    have hlen : i + (heading.text ++ '{' :: (body.text ++ '}' :: more.text)).length + 1 =
        i + heading.text.length + 1 + body.text.length + 1 + more.text.length + 1 := by
      simp only [List.length_append, List.length_cons]
      omega
    rw [WrittenBody.text, List.append_assoc, List.cons_append, List.append_assoc, List.cons_append,
      ScanState.segments_open heading.uncut_text, ofSegments_cons, heading.ofSegments_text, ihBody,
      ih, WrittenBody.found, append_assoc, append_assoc, hlen]

theorem WrittenSheet.ofSegments_text (s : WrittenSheet) (i : Nat) :
    ofSegments ((ScanState.unquoted 0 0 i []).segments s.text) = s.found i := by
  induction s generalizing i with
  | blanks space =>
    rw [WrittenSheet.text, ScanState.segments_end space.uncut]
    rfl
  | rule heading body rest ih =>
    rw [WrittenSheet.text, ScanState.segments_open heading.uncut_text, ofSegments_cons,
      heading.ofSegments_text, body.ofSegments_text, ih]
    rfl

/-- **Written stylesheets are read back**: the class names in the preludes, the custom properties,
and the other properties whose values have calls, each in the order of the text. The dots of the
class names, the names of the properties and their values stand at the places that are told. -/
theorem scanStylesheet_text (s : WrittenSheet) (base : Nat) :
    scanStylesheet base false s.text = s.found base ∧
      (∀ t ∈ (s.found base).classTokens, StandsAt base s.text t.offset ['.']) ∧
      ∀ p ∈ (s.found base).properties,
        StandsAt base s.text p.offset p.name.toList ∧
          StandsAt base s.text p.valueOffset p.value.toList := by
  have hblank : stylesheetComment.blank s.text = s.text :=
    CommentStyle.blank_eq_self s.commentFree_text
  have hscan : scanStylesheet base false s.text = s.found base := by
    rw [scanStylesheet, hblank]
    exact s.ofSegments_text base
  refine ⟨hscan, fun t ht => ?_, fun p hp => ⟨?_, ?_⟩⟩
  · rw [← hscan] at ht
    exact (standsIn_of_mem_marks (mem_marks.2 (Or.inl ⟨t, ht, rfl⟩))).1.stands
  · rw [← hscan] at hp
    exact (standsIn_of_mem_marks (mem_marks.2 (Or.inr ⟨p, hp, List.mem_cons_self⟩))).1.stands
  · rw [← hscan, scanStylesheet, hblank] at hp
    obtain ⟨g, hg, hv⟩ := exists_standsAt_of_mem_properties hp
    exact (standsAt_of_mem_segments hg).trans hv

/-- A rule in a rule that begins with an at sign, with line ends between everything. -/
def nestedSheet : WrittenSheet :=
  .rule ⟨line, media⟩
    (.rule ⟨line, selector⟩
      (.declaration ⟨line, custom, line, group⟩ (.last ⟨line, ordinary, line, call⟩))
      (.blanks line))
    (.blanks line)
where
  line : Blanks := ⟨['\n'], rfl⟩
  media : PreludeText :=
    ⟨['@', 'm', ' '], by simp [isPlain, isQuote, isCut], by decide⟩
  selector : PreludeText :=
    ⟨['.', 'a', '-', 'b', '[', '.', 'c', ']', ' ', 'p', '.', 'd', '_', '2'],
      by simp [isPlain, isQuote, isCut], by decide⟩
  custom : DeclaredName :=
    ⟨['-', '-', 'c'], by decide, by simp [isPlain, isQuote, isCut, isBlank], by decide⟩
  ordinary : DeclaredName :=
    ⟨['t', 'o', 'p'], by decide, by simp [isPlain, isQuote, isCut, isBlank], by decide⟩
  group : ValueText :=
    ⟨[' ', '(', ';', ')'], ⟨⟨by simp [isQuote], rfl⟩, by simp [outside, isCut]⟩, by decide⟩
  call : ValueText :=
    ⟨varOpen ++ ['-', '-', 'c', ')', ' '],
      ⟨⟨by simp [varOpen, isQuote], rfl⟩, by simp [varOpen, outside, isCut]⟩, by decide⟩

theorem scanStylesheet_text_nestedSheet :
    nestedSheet.text =
        "\n@m \x7b\n.a-b[.c] p.d_2\x7b\n--c\n: (;);\ntop\n:var(--c) \x7d\n\x7d\n".toList ∧
      scanStylesheet 0 false nestedSheet.text =
        { classTokens := [⟨"a-b", 6⟩, ⟨"d_2", 16⟩]
          declarations := [⟨"--c", " (;)", 22, 27⟩]
          usages := [⟨"top", "var(--c) ", 33, 38⟩] } := by
  obtain ⟨hscan, -, -⟩ := scanStylesheet_text nestedSheet 0
  refine ⟨by decide +kernel, hscan.trans ?_⟩
  decide +kernel

end BeamLint
