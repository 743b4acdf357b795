import BeamLint.Proofs.Markup.Scan
import BeamLint.Proofs.Stylesheet.Leftover

/-!
# Style elements one after the other

The contents of the `style` elements of a page are scanned in one pass, over a copy of the page in
which all else is blank (`drop_keepSpans_cons`). Where every stylesheet but the last one is
complete, this is the scan of each of them, if the end of the last one ends no property. Where a
stylesheet is not complete, what it leaves open goes on in the next element.
-/

namespace BeamLint

open Text

/-! ### Texts kept in spans -/

namespace Text

/-- The spans follow one another, none of them before place `i`, and all of them end before place
`n`. -/
def InOrder (i n : Nat) : List Span → Prop
  | [] => i ≤ n
  | s :: spans => i ≤ s.start ∧ s.start ≤ s.stop ∧ s.stop < n ∧ InOrder s.stop n spans

theorem inOrder_of_pairwise {i n : Nat} {spans : List Span} (hle : i ≤ n)
    (hin : ∀ s ∈ spans, i ≤ s.start ∧ s.start ≤ s.stop ∧ s.stop < n)
    (hp : spans.Pairwise fun s t => s.stop ≤ t.start) : InOrder i n spans := by
  induction spans generalizing i with
  | nil => exact hle
  | cons s spans ih =>
    obtain ⟨⟨hi, hs, hn⟩, hin⟩ := List.forall_mem_cons.1 hin
    obtain ⟨hfirst, hp⟩ := List.pairwise_cons.1 hp
    refine ⟨hi, hs, hn, ih hn.le (fun t ht => ?_) hp⟩
    exact ⟨hfirst t ht, (hin t ht).2⟩

/-- Before the first span no place is covered. -/
theorem InOrder.any_covers_eq_false {i n j : Nat} {spans : List Span} (h : InOrder i n spans)
    (hj : j < i) : spans.any (·.covers j) = false := by
  induction spans generalizing i with
  | nil => rfl
  | cons s spans ih =>
    obtain ⟨hi, hs, -, hrest⟩ := h
    rw [List.any_cons, ih hrest (by omega), Bool.or_false, Bool.eq_false_iff, ne_eq,
      Span.covers_iff]
    omega

theorem getElem?_keepSpans (spans : List Span) (text : List Char) (i : Nat) :
    (keepSpans spans text)[i]? =
      text[i]?.map fun c => if spans.any (·.covers i) then c else blankChar c := by
  rw [keepSpans, getElem?_blankWhere, Nat.zero_add]
  cases spans.any (·.covers i) <;> rfl

/-- A span that is kept is left as it is. -/
theorem slice_keepSpans_cons (s : Span) (spans : List Span) (text : List Char) :
    s.slice (keepSpans (s :: spans) text) = s.slice text := by
  apply List.ext_getElem?
  intro j
  simp only [Span.slice, List.getElem?_take, List.getElem?_drop, getElem?_keepSpans]
  split
  · have hcovers : s.covers (s.start + j) := Span.covers_iff.2 ⟨by omega, by omega⟩
    simp [hcovers]
  · rfl

/-- Behind the first span only the other ones matter. -/
theorem drop_stop_keepSpans_cons (s : Span) (spans : List Span) (text : List Char) :
    (keepSpans (s :: spans) text).drop s.stop = (keepSpans spans text).drop s.stop := by
  apply List.ext_getElem?
  intro j
  have hcovers : s.covers (s.stop + j) = false := by
    rw [Bool.eq_false_iff, ne_eq, Span.covers_iff]
    omega
  simp only [List.getElem?_drop, getElem?_keepSpans, List.any_cons, hcovers, Bool.false_or]

/-- Before the first span everything is blank. -/
theorem isAllBlank_take_drop_keepSpans {i n : Nat} {spans : List Span} {text : List Char}
    (h : InOrder (i + n) text.length spans) :
    isAllBlank (((keepSpans spans text).drop i).take n) := by
  apply List.all_eq_true.2
  intro c hc
  obtain ⟨j, hj⟩ := List.mem_iff_getElem?.1 hc
  rw [List.getElem?_take, List.getElem?_drop, getElem?_keepSpans] at hj
  split at hj
  · rw [h.any_covers_eq_false (by omega)] at hj
    obtain ⟨d, -, rfl⟩ := Option.map_eq_some_iff.1 hj
    exact isBlank_blankChar d
  · contradiction

/-- What is kept from a place on: blanks, the first span, and what is kept behind it. -/
theorem drop_keepSpans_cons {i : Nat} {s : Span} {spans : List Span} {text : List Char}
    (h : InOrder i text.length (s :: spans)) :
    ∃ gap, isAllBlank gap ∧ i + gap.length = s.start ∧
      (keepSpans (s :: spans) text).drop i =
        gap ++ (s.slice text ++ (keepSpans spans text).drop s.stop) := by
  obtain ⟨hi, hs, hn, hrest⟩ := h
  have hstart : i + (s.start - i) = s.start := by omega
  have hstop : s.start + (s.stop - s.start) = s.stop := by omega
  have hfirst : InOrder (i + (s.start - i)) text.length (s :: spans) :=
    ⟨hstart.le, hs, hn, hrest⟩
  refine ⟨_, isAllBlank_take_drop_keepSpans hfirst, ?_, ?_⟩
  · rw [List.length_take, List.length_drop, length_keepSpans]
    omega
  · rw [← slice_keepSpans_cons s spans, ← drop_stop_keepSpans_cons, Span.slice]
    have hafter := List.drop_drop (i := s.stop - s.start) (j := s.start)
      (l := keepSpans (s :: spans) text)
    have hbefore := List.drop_drop (i := s.start - i) (j := i) (l := keepSpans (s :: spans) text)
    rw [hstop] at hafter
    rw [hstart] at hbefore
    rw [← hafter, List.take_append_drop, ← hbefore, List.take_append_drop]

/-- Behind the last span everything is blank. -/
theorem isAllBlank_drop_keepSpans_nil (text : List Char) (i : Nat) :
    isAllBlank ((keepSpans [] text).drop i) := by
  apply List.all_eq_true.2
  intro c hc
  obtain ⟨j, hj⟩ := List.mem_iff_getElem?.1 (List.mem_of_mem_drop hc)
  rw [getElem?_keepSpans] at hj
  obtain ⟨d, -, rfl⟩ := Option.map_eq_some_iff.1 hj
  exact isBlank_blankChar d

theorem length_slice {s : Span} {text : List Char} (h : s.stop ≤ text.length) :
    (s.slice text).length = s.stop - s.start := by
  rw [Span.slice, List.length_take, List.length_drop]
  omega

end Text

/-! ### The contents of the elements -/

theorem afterStyleTag?_suffix {text body : List Char} (h : afterStyleTag? text = some body) :
    body <:+ text := by
  unfold afterStyleTag? at h
  split at h
  · next rest =>
    split at h
    · next tag htag =>
      have hrest : tag <:+ rest := dropWord?_suffix htag
      split at h
      · contradiction
      · split at h
        · next d body' hbody =>
          obtain rfl := Option.some.inj h
          have hdrop : tag.dropWhile (· ≠ '>') <:+ tag := List.dropWhile_suffix _
          rw [hbody] at hdrop
          exact ((List.suffix_cons d body').trans hdrop).trans
            (hrest.trans (List.suffix_cons '<' rest))
        · contradiction
    · contradiction
  · contradiction

/-- The content of an element lies in the text, before its closing tag. -/
theorem lt_length_of_styleBlock {b : Option Char} {text : List Char} {n : Nat} {content : Span}
    (h : styleBlock b text = some (n, content)) :
    content.start ≤ content.stop ∧ content.stop < text.length := by
  unfold styleBlock at h
  split at h
  · contradiction
  · next body hbody =>
    split at h
    · contradiction
    · next closing hclosing =>
      simp only [Option.some.injEq, Prod.mk.injEq] at h
      obtain ⟨-, rfl⟩ := h
      obtain ⟨front, rest, -, rfl, hstart, hne, -⟩ :=
        exists_of_mem_findAll (List.mem_of_mem_head? hclosing)
      have hle := (afterStyleTag?_suffix hbody).length_le
      have hpos := List.length_pos_iff.2 hne
      rw [List.length_append] at hle
      simp only [List.length_append]
      omega

theorem inOrder_styleContents (text : List Char) : InOrder 0 text.length (styleContents text) := by
  apply inOrder_of_pairwise (Nat.zero_le _)
  · intro s hs
    obtain ⟨f, hf, rfl⟩ := List.mem_map.1 hs
    obtain ⟨front, rest, b, rfl, hstart, -, hread⟩ := exists_of_mem_findAll hf
    obtain ⟨hle, hlt⟩ := lt_length_of_styleBlock hread
    simp only [List.length_append]
    omega
  · rw [styleContents, List.pairwise_map]
    apply (pairwise_findAll text).imp_of_mem
    intro f g hf hg h
    obtain ⟨front, rest, b, -, -, -, hread⟩ := exists_of_mem_findAll hf
    have hle := stop_le_of_styleBlock hread
    have hstop := h.1
    rw [Found.stop] at hstop
    dsimp only
    omega

/-! ### Each stylesheet for itself -/

/-- A stylesheet in a page, and where it starts. -/
structure EmbeddedSheet where
  offset : Nat
  text : List Char
  deriving Repr, DecidableEq

/-- The contents of the `style` elements of a page without its comments. -/
def styleSheets (text : List Char) : List EmbeddedSheet :=
  (styleContents (markupComment.blank text)).map fun s =>
    ⟨s.start, s.slice (markupComment.blank text)⟩

/-- The scans of the stylesheets, one after the other. -/
def scanEach (sheets : List EmbeddedSheet) : StylesheetScan :=
  sheets.foldr (fun sheet scan => scanStylesheet sheet.offset false sheet.text ++ scan) {}

theorem scanStylesheet_keepSpans_iff {i : Nat} {spans : List Span} {text : List Char}
    (h : InOrder i text.length spans) (hc : ∀ s ∈ spans.dropLast, IsComplete (s.slice text)) :
    scanStylesheet i false ((keepSpans spans text).drop i) =
        scanEach (spans.map fun s => ⟨s.start, s.slice text⟩) ↔
      ∀ s ∈ spans.getLast?, LeavesNoProperty (s.slice text) := by
  have hend := isAllBlank_drop_keepSpans_nil text
  induction spans generalizing i with
  | nil =>
    rw [scanStylesheet_blanks (hend i)]
    simp [scanEach]
  | cons s spans ih =>
    obtain ⟨gap, hb, hplace, hkept⟩ := drop_keepSpans_cons h
    obtain ⟨-, hs, hn, hrest⟩ := h
    rw [hkept, scanStylesheet_blanks_append hb, hplace, List.map_cons]
    cases spans with
    | nil =>
      have hne : (keepSpans [] text).drop s.stop ≠ [] := by
        rw [ne_eq, List.drop_eq_nil_iff, length_keepSpans]
        omega
      have hlast := scanStylesheet_append_blanks_iff (hend s.stop) hne (s.slice text) s.start
      simpa [scanEach, StylesheetScan.append_empty] using hlast
    | cons t spans =>
      rw [List.dropLast_cons_cons, List.forall_mem_cons] at hc
      have hlength : s.start + (s.slice text).length = s.stop := by
        rw [length_slice hn.le]
        omega
      rw [scanStylesheet_append hc.1, hlength, scanEach, List.foldr_cons,
        StylesheetScan.append_right_inj, List.getLast?_cons_cons]
      exact ih hrest hc.2

/-! ### Pages of two elements -/

/-- The tag that opens a `style` element. -/
def styleOpening : List Char := ['<', 's', 't', 'y', 'l', 'e', '>']

/-- The tag that closes a `style` element. -/
def styleClosing : List Char := ['<', '/', 's', 't', 'y', 'l', 'e', '>']

/-- A `style` element with its content. -/
def styleElement (content : List Char) : List Char := styleOpening ++ (content ++ styleClosing)

section Pages

variable {content : List Char} (h : '<' ∉ content)

include h

theorem styleBlock_styleElement (b : Option Char) (rest : List Char) :
    styleBlock b (styleElement content ++ rest) =
      some ((styleElement content).length, ⟨7, 7 + content.length⟩) := by
  have htag : afterStyleTag? (styleElement content ++ rest) =
      some (content ++ (styleClosing ++ rest)) := by
    have hword : isWord '>' = false := by decide
    simp [afterStyleTag?, styleElement, styleOpening, dropWord?, styleName, isLetter, hword]
  have hread : styleEnd none (styleClosing ++ rest) = some (styleClosing.length, ()) := by
    have htrim : trimLeft ('>' :: rest) = '>' :: rest := List.dropWhile_cons_of_neg (by decide)
    simp [styleEnd, styleClosing, List.isPrefixOf?, dropWord?, styleName, isLetter, htrim]
    omega
  have hplain : ∀ c ∈ content, ∀ b text, styleEnd b (c :: text) = none := by
    intro c hc b text
    have hne : ('<' == c) = false := beq_eq_false_iff_ne.2 fun e => h (e ▸ hc)
    simp [styleEnd, List.isPrefixOf?, hne]
  have hfind := findAll_append (fun _ _ _ => rfl) hplain (styleClosing ++ rest)
  rw [findAll_append_part (fun _ _ _ => rfl) (by simp [styleClosing]) hread] at hfind
  unfold styleBlock
  rw [htag]
  simp only [hfind, List.map_cons, List.head?_cons, Found.stop, Found.shift]
  have hstart : (styleElement content ++ rest).length - (content ++ (styleClosing ++ rest)).length =
      7 := by
    simp only [styleElement, styleOpening, styleClosing, List.length_append, List.length_cons,
      List.length_nil]
    omega
  have hlength : (styleElement content).length = 7 + (content.length + styleClosing.length) := by
    rw [styleElement, List.length_append, List.length_append]
    rfl
  simp only [hstart, hlength, Nat.add_zero]

/-- No comment begins in an element without further tags. -/
theorem not_infix_styleElement {rest : List Char} (hrest : ¬ markupComment.opening <:+: rest) :
    ¬ markupComment.opening <:+: styleElement content ++ rest := by
  have hclosing : ¬ markupComment.opening <:+: styleClosing ++ rest := by
    simpa [styleClosing, markupComment, List.infix_cons_iff] using hrest
  have hcontent : ¬ markupComment.opening <:+: content ++ (styleClosing ++ rest) := by
    induction content with
    | nil => exact hclosing
    | cons c content ih =>
      rw [List.mem_cons, not_or] at h
      obtain ⟨hne, hmem⟩ := h
      rw [List.cons_append, List.infix_cons_iff, not_or]
      refine ⟨?_, ih hmem⟩
      rintro ⟨later, e⟩
      exact hne (List.cons.inj e).1
  simpa [styleElement, styleOpening, markupComment, List.infix_cons_iff] using hcontent

end Pages

/-- Where the contents of two elements stand, one right behind the other. -/
theorem styleContents_styleElements {a b : List Char} (ha : '<' ∉ a) (hb : '<' ∉ b) :
    markupComment.blank (styleElement a ++ styleElement b) = styleElement a ++ styleElement b ∧
      styleContents (styleElement a ++ styleElement b) =
        [⟨7, 7 + a.length⟩, ⟨22 + a.length, 22 + a.length + b.length⟩] := by
  constructor
  · apply CommentStyle.blank_eq_self
    apply not_infix_styleElement ha
    have hlast := not_infix_styleElement hb (by decide : ¬ markupComment.opening <:+: [])
    rwa [List.append_nil] at hlast
  · have hlast := findAll_append_part (fun _ _ _ => rfl) (by simp [styleElement, styleOpening])
      (styleBlock_styleElement hb none [])
    rw [List.append_nil] at hlast
    rw [styleContents, findAll_append_part (fun _ _ _ => rfl)
      (by simp [styleElement, styleOpening]) (styleBlock_styleElement ha none (styleElement b)),
      hlast]
    simp [findAll, findAllFrom, Found.shift, styleElement, styleOpening, styleClosing]
    omega

theorem slice_append (front part back : List Char) :
    (⟨front.length, front.length + part.length⟩ : Span).slice (front ++ (part ++ back)) = part := by
  simp [Span.slice]

theorem slice_styleElements (a b : List Char) :
    (⟨7, 7 + a.length⟩ : Span).slice (styleElement a ++ styleElement b) = a ∧
      (⟨22 + a.length, 22 + a.length + b.length⟩ : Span).slice
        (styleElement a ++ styleElement b) = b := by
  have hfirst : styleElement a ++ styleElement b =
      styleOpening ++ (a ++ (styleClosing ++ styleElement b)) := by simp [styleElement]
  have hsecond : styleElement a ++ styleElement b =
      (styleElement a ++ styleOpening) ++ (b ++ styleClosing) := by simp [styleElement]
  have hlength : (styleElement a ++ styleOpening).length = 22 + a.length := by
    simp only [styleElement, styleOpening, styleClosing, List.length_append, List.length_cons,
      List.length_nil]
    omega
  constructor
  · rw [hfirst]
    exact slice_append styleOpening a _
  · rw [hsecond, ← hlength]
    exact slice_append _ b styleClosing

theorem styleSheets_styleElements {a b : List Char} (ha : '<' ∉ a) (hb : '<' ∉ b) :
    styleSheets (styleElement a ++ styleElement b) = [⟨7, a⟩, ⟨22 + a.length, b⟩] := by
  obtain ⟨hblank, hcontents⟩ := styleContents_styleElements ha hb
  obtain ⟨hfirst, hsecond⟩ := slice_styleElements a b
  rw [styleSheets, hblank, hcontents, List.map_cons, List.map_singleton, hfirst, hsecond]

/-- The stylesheets of two elements are scanned with nothing but blanks between them. -/
theorem exists_styleBlocks_eq {a b : List Char} (ha : '<' ∉ a) (hb : '<' ∉ b) :
    ∃ gap gap', isAllBlank gap ∧ isAllBlank gap' ∧
      (scanMarkup (styleElement a ++ styleElement b)).styleBlocks =
        scanStylesheet 7 false (a ++ (gap ++ (b ++ gap'))) := by
  obtain ⟨hblank, hcontents⟩ := styleContents_styleElements ha hb
  obtain ⟨hfirst, hsecond⟩ := slice_styleElements a b
  have horder := inOrder_styleContents (styleElement a ++ styleElement b)
  rw [hcontents] at horder
  obtain ⟨front, hfront, hplace, hkept⟩ := drop_keepSpans_cons horder
  obtain ⟨gap, hgap, -, hkept'⟩ := drop_keepSpans_cons horder.2.2.2
  have hend := isAllBlank_drop_keepSpans_nil (styleElement a ++ styleElement b)
    (22 + a.length + b.length)
  refine ⟨gap, _, hgap, hend, ?_⟩
  rw [hfirst, hkept', hsecond, List.drop_zero] at hkept
  show scanStylesheet 0 false (keepSpans (styleContents (markupComment.blank _))
    (markupComment.blank _)) = _
  rw [hblank, hcontents, hkept, scanStylesheet_blanks_append hfront, hplace]

/-- What a stylesheet leaves open goes on in the next element. -/
theorem exists_styleBlocks_ne {a : List Char} (ha : '<' ∉ a) (h : ¬ IsComplete a) :
    ∃ b, '<' ∉ b ∧ IsComplete b ∧
      (scanMarkup (styleElement a ++ styleElement b)).styleBlocks ≠
        scanEach (styleSheets (styleElement a ++ styleElement b)) := by
  obtain ⟨b, hcomplete, hb, hne⟩ := exists_scanStylesheet_append_ne h
  refine ⟨b, hb, hcomplete, ?_⟩
  obtain ⟨gap, gap', hgap, hgap', hscan⟩ := exists_styleBlocks_eq ha hb
  have hplace : 22 + a.length = 7 + (15 + a.length) := by omega
  have heach : scanEach [⟨7, a⟩, ⟨22 + a.length, b⟩] =
      (scanStylesheet 0 false a ++ scanStylesheet (15 + a.length) false b).shift 7 := by
    rw [StylesheetScan.shift_append, scanStylesheet_shift (15 + a.length),
      StylesheetScan.shift_shift, ← hplace, ← scanStylesheet_shift, ← scanStylesheet_shift]
    simp [scanEach, StylesheetScan.append_empty]
  rw [hscan, styleSheets_styleElements ha hb, heach, scanStylesheet_shift]
  intro heq
  exact hne gap gap' hgap hgap' _ (StylesheetScan.shift_injective 7 heq)

/-- **Stylesheets in a page** are each scanned for itself if all but the last one are complete and
the end of the last one ends no property. Nothing less than completeness will do: whatever a
stylesheet leaves open shows in some other one behind it. -/
theorem styleBlocks_eq_scanEach_iff (text a : List Char) :
    ((∀ sheet ∈ (styleSheets text).dropLast, IsComplete sheet.text) →
      ((scanMarkup text).styleBlocks = scanEach (styleSheets text) ↔
        ∀ sheet ∈ (styleSheets text).getLast?, LeavesNoProperty sheet.text)) ∧
    ('<' ∉ a → ¬ IsComplete a → ∃ b, '<' ∉ b ∧ IsComplete b ∧
      (scanMarkup (styleElement a ++ styleElement b)).styleBlocks ≠
        scanEach (styleSheets (styleElement a ++ styleElement b))) := by
  constructor
  · intro hcomplete
    rw [styleSheets, ← List.map_dropLast, List.forall_mem_map] at hcomplete
    have hscan : (scanMarkup text).styleBlocks = scanStylesheet 0 false
        ((keepSpans (styleContents (markupComment.blank text))
          (markupComment.blank text)).drop 0) :=
      rfl
    have horder := inOrder_styleContents (markupComment.blank text)
    rw [hscan, styleSheets, scanStylesheet_keepSpans_iff horder hcomplete, List.getLast?_map]
    simp
  · intro ha h
    exact exists_styleBlocks_ne ha h

/-- A page of two stylesheets, of which the last one leaves a rule open behind a semicolon. -/
def twoSheets : List Char :=
  "<style>.a\x7b--x:1\x7d</style> <style>.b\x7b--y:2;</style>".toList

/-- A rule that is open at the end of the page does no harm; before another element it does. -/
theorem styleBlocks_eq_scanEach_iff_openRule :
    (∀ sheet ∈ (styleSheets twoSheets).dropLast, IsComplete sheet.text) ∧
      ((scanMarkup twoSheets).styleBlocks = scanEach (styleSheets twoSheets) ↔
        ∀ sheet ∈ (styleSheets twoSheets).getLast?, LeavesNoProperty sheet.text) ∧
      (scanMarkup twoSheets).styleBlocks =
        { classTokens := [⟨"a", 7⟩, ⟨"b", 32⟩]
          declarations := [⟨"--x", "1", 10, 14⟩, ⟨"--y", "2", 35, 39⟩] } ∧
      '<' ∉ ['a', '{'] ∧ ¬ IsComplete ['a', '{'] ∧
      ∃ b, '<' ∉ b ∧ IsComplete b ∧
        (scanMarkup (styleElement ['a', '{'] ++ styleElement b)).styleBlocks ≠
          scanEach (styleSheets (styleElement ['a', '{'] ++ styleElement b)) := by
  have hcomplete : ∀ sheet ∈ (styleSheets twoSheets).dropLast, IsComplete sheet.text := by
    decide +kernel
  have hopen : ¬ IsComplete ['a', '{'] := by decide +kernel
  obtain ⟨hiff, hne⟩ := styleBlocks_eq_scanEach_iff twoSheets ['a', '{']
  exact ⟨hcomplete, hiff hcomplete, by decide +kernel, by decide, hopen, hne (by decide) hopen⟩

/-- The rule that the first stylesheet leaves open takes the second one into its last declaration,
which is lost. -/
theorem styleBlocks_carriedOver :
    (scanMarkup "<style>a\x7b--x:1</style><style>.b\x7b--y:2\x7d</style>".toList).styleBlocks ≠
      scanEach (styleSheets "<style>a\x7b--x:1</style><style>.b\x7b--y:2\x7d</style>".toList) := by
  decide +kernel

end BeamLint
