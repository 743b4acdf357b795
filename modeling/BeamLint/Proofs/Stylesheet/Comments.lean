import BeamLint.Proofs.Stylesheet.Grammar
import BeamLint.Proofs.Text.Blanking
import BeamLint.Stylesheet.Scan

/-!
# Comments of stylesheets

From the left, a stylesheet is made of characters at which no comment begins, of comments, and
perhaps of one comment at the end that is never closed (`comment_induction`). Blanking goes over
these parts one by one: it leaves the first alone and blanks the others.

So a blanked stylesheet holds no comment, and is scanned as the stylesheet is; what stands in a
comment has no say, apart from its length and its line ends (`comments_invisible`). Of two
stylesheets one after the other each is blanked for itself, if the first one closes its comments
(`blank_append`).
-/

namespace BeamLint

open Text

/-! ### Searching for a closing mark -/

namespace Text

variable {pattern text inner rest : List Char}

theorem find?_eq_none_iff : find? pattern text = none ↔ ¬ pattern <:+: text := by
  rw [← occurs_iff, occurs, Bool.not_eq_true, Option.isSome_eq_false_iff, Option.isNone_iff_eq_none]

/-- The first occurrence is found. -/
theorem find?_append_pattern (hne : pattern ≠ []) (h : ¬ pattern <:+: inner ++ pattern.dropLast)
    (rest : List Char) : find? pattern (inner ++ (pattern ++ rest)) = some inner.length := by
  induction inner with
  | nil =>
    obtain ⟨c, later, rfl⟩ := List.exists_cons_of_ne_nil hne
    rw [List.nil_append, List.cons_append, find?, if_pos]
    · rfl
    · rw [List.isPrefixOf_iff_prefix]
      exact ⟨rest, rfl⟩
  | cons c inner ih =>
    have hno : ¬ pattern <+: c :: (inner ++ (pattern ++ rest)) := by
      intro hp
      -- An occurrence at the first character would end before the last one of the pattern.
      have hsplit : c :: (inner ++ (pattern ++ rest)) =
          (c :: inner ++ pattern.dropLast) ++ ([pattern.getLast hne] ++ rest) := by
        nth_rewrite 1 [← List.dropLast_append_getLast hne]
        simp
      apply h
      apply List.IsPrefix.isInfix
      refine List.prefix_of_prefix_length_le hp ⟨_, hsplit.symm⟩ ?_
      simp only [List.length_append, List.length_cons, List.length_dropLast]
      omega
    rw [List.cons_append, find?, if_neg (by rwa [List.isPrefixOf_iff_prefix]), ih, Option.map_some,
      List.length_cons]
    intro hi
    exact h (hi.trans (List.suffix_cons c _).isInfix)

theorem exists_of_find?_eq_some {n : Nat} (hne : pattern ≠ []) (h : find? pattern text = some n) :
    ∃ inner rest, text = inner ++ (pattern ++ rest) ∧ inner.length = n ∧ ¬ pattern <:+: inner := by
  induction text generalizing n with
  | nil => simp [find?, hne] at h
  | cons c text ih =>
    rw [find?] at h
    split at h
    · next hp =>
      obtain ⟨rest, hrest⟩ := List.isPrefixOf_iff_prefix.1 hp
      obtain rfl := Option.some.inj h
      exact ⟨[], rest, hrest.symm, rfl, by simpa using hne⟩
    · next hp =>
      obtain ⟨m, hm, rfl⟩ := Option.map_eq_some_iff.1 h
      obtain ⟨inner, rest, rfl, rfl, hinner⟩ := ih hm
      refine ⟨c :: inner, rest, rfl, rfl, ?_⟩
      rw [List.infix_cons_iff, not_or]
      refine ⟨fun hc => hp ?_, hinner⟩
      rw [List.isPrefixOf_iff_prefix]
      exact hc.trans ⟨pattern ++ rest, rfl⟩

end Text

/-! ### The parts of a stylesheet -/

/-- A comment. -/
def comment (inner : List Char) : List Char :=
  stylesheetComment.opening ++ (inner ++ stylesheetComment.closing)

/-- The closing mark does not occur in the text. -/
def StaysOpen (text : List Char) : Prop := ¬ stylesheetComment.closing <:+: text

instance (text : List Char) : Decidable (StaysOpen text) := inferInstanceAs (Decidable (¬ _))

section Read

variable {text inner : List Char} (b : Option Char)

theorem recognizer_of_not_isPrefix (h : ¬ stylesheetComment.opening <+: text) :
    stylesheetComment.recognizer b text = none := by
  unfold CommentStyle.recognizer
  split
  · rfl
  · next body hb => exact absurd ⟨body, List.isPrefixOf?_eq_some_iff_append_eq.1 hb⟩ h

theorem recognizer_opening (body : List Char) :
    stylesheetComment.recognizer b (stylesheetComment.opening ++ body) =
      match find? stylesheetComment.closing body with
      | some n => some (n + 4, ())
      | none => some (body.length + 2, ()) := by
  cases h : find? stylesheetComment.closing body with
  | none => simp_all [CommentStyle.recognizer, stylesheetComment, List.isPrefixOf?]
  | some n =>
    simp_all [CommentStyle.recognizer, stylesheetComment, List.isPrefixOf?]
    omega

theorem recognizer_comment (h : StaysOpen inner) (rest : List Char) :
    stylesheetComment.recognizer b (comment inner ++ rest) =
      some ((comment inner).length, ()) := by
  -- The first character of the closing mark is not its last one.
  have hfirst : ¬ stylesheetComment.closing <:+: inner ++ stylesheetComment.closing.dropLast := by
    rintro hi
    rcases List.infix_concat_iff.1 hi with hs | hi
    · have hlast := hs.getLast (by decide)
      simp [stylesheetComment] at hlast
    · exact h hi
  have hfind := find?_append_pattern (by decide) hfirst rest
  rw [comment, List.append_assoc, recognizer_opening, List.append_assoc, hfind]
  simp [stylesheetComment]

theorem recognizer_staysOpen (h : StaysOpen inner) :
    stylesheetComment.recognizer b (stylesheetComment.opening ++ inner) =
      some ((stylesheetComment.opening ++ inner).length, ()) := by
  rw [recognizer_opening, find?_eq_none_iff.2 h, List.length_append, Nat.add_comm]
  rfl

end Read

/-- A text is empty, or begins with a character at which no comment begins, with a comment, or with
a comment that is never closed. -/
@[elab_as_elim]
theorem comment_induction {motive : List Char → Prop} (nil : motive [])
    (plain : ∀ c rest, ¬ stylesheetComment.opening <+: c :: rest → motive rest → motive (c :: rest))
    (closed : ∀ inner rest, StaysOpen inner → motive rest → motive (comment inner ++ rest))
    (unclosed : ∀ inner, StaysOpen inner → motive (stylesheetComment.opening ++ inner))
    (text : List Char) : motive text := by
  induction h : text.length using Nat.strong_induction_on generalizing text with
  | h n ih =>
    subst h
    by_cases hopen : stylesheetComment.opening <+: text
    · obtain ⟨body, rfl⟩ := hopen
      cases hfind : find? stylesheetComment.closing body with
      | none => exact unclosed body (find?_eq_none_iff.1 hfind)
      | some n =>
        obtain ⟨inner, rest, rfl, -, hinner⟩ := exists_of_find?_eq_some (by decide) hfind
        have hsplit : stylesheetComment.opening ++ (inner ++ (stylesheetComment.closing ++ rest)) =
            comment inner ++ rest := by simp [comment]
        rw [hsplit] at ih ⊢
        apply closed inner rest hinner
        apply ih rest.length _ rest rfl
        simp [comment, stylesheetComment]
        omega
    · cases text with
      | nil => exact nil
      | cons c rest => exact plain c rest hopen (ih rest.length (by simp) rest rfl)

/-! ### Blanking part by part -/

variable {a b inner rest : List Char} {c : Char}

@[simp] theorem blank_nil : stylesheetComment.blank [] = [] := rfl

@[simp] theorem length_blank (text : List Char) :
    (stylesheetComment.blank text).length = text.length := length_blankSpans _ _

theorem blank_plain (h : ¬ stylesheetComment.opening <+: c :: rest) :
    stylesheetComment.blank (c :: rest) = c :: stylesheetComment.blank rest :=
  blankFound_cons (fun _ _ _ => rfl) (recognizer_of_not_isPrefix none h)

theorem blank_comment (h : StaysOpen inner) (rest : List Char) :
    stylesheetComment.blank (comment inner ++ rest) =
      (comment inner).map blankChar ++ stylesheetComment.blank rest :=
  blankFound_append_part (fun _ _ _ => rfl) (by simp [comment, stylesheetComment])
    (recognizer_comment none h rest)

theorem blank_unclosed (h : StaysOpen inner) :
    stylesheetComment.blank (stylesheetComment.opening ++ inner) =
      (stylesheetComment.opening ++ inner).map blankChar :=
  blankFound_whole (fun _ _ _ => rfl) (by simp [stylesheetComment]) (recognizer_staysOpen none h)

/-! ### Closed comments -/

namespace Text

/-- Whether a comment that was found has its closing mark. -/
def CommentStyle.Closed (s : CommentStyle) (text : List Char) (f : Found Unit) : Prop :=
  s.closing <:+ (f.span.slice text).drop s.opening.length

instance (s : CommentStyle) (text : List Char) (f : Found Unit) : Decidable (s.Closed text f) :=
  inferInstanceAs (Decidable (_ <:+ _))

theorem CommentStyle.closed_shift (s : CommentStyle) (front rest : List Char) (f : Found Unit) :
    s.Closed (front ++ rest) (f.shift front.length) ↔ s.Closed rest f := by
  have hslice : (f.shift front.length).span.slice (front ++ rest) = f.span.slice rest := by
    have hlen : front.length + f.start + f.length - (front.length + f.start) =
        f.start + f.length - f.start := by omega
    simp only [Span.slice, Found.span, Found.stop, Found.shift, hlen, List.drop_length_add_append]
  rw [Closed, Closed, hslice]

end Text

/-- Every comment of the stylesheet has its closing mark. -/
def ClosesComments (text : List Char) : Prop :=
  ∀ f ∈ findAll stylesheetComment.recognizer text, stylesheetComment.Closed text f

instance (text : List Char) : Decidable (ClosesComments text) :=
  inferInstanceAs (Decidable (∀ f ∈ _, _))

theorem closesComments_plain (h : ¬ stylesheetComment.opening <+: c :: rest) :
    ClosesComments (c :: rest) ↔ ClosesComments rest := by
  have hfind := findAll_cons (fun _ _ _ => rfl) (recognizer_of_not_isPrefix none h)
  rw [ClosesComments, hfind, List.forall_mem_map]
  exact forall₂_congr fun f _ => stylesheetComment.closed_shift [c] rest f

theorem closed_comment (inner rest : List Char) :
    stylesheetComment.Closed (comment inner ++ rest) ⟨0, (comment inner).length, ()⟩ := by
  refine ⟨inner, ?_⟩
  simp only [Span.slice, Found.span, Found.stop, List.drop_zero, Nat.zero_add, Nat.sub_zero,
    List.take_left]
  rfl

theorem closesComments_comment (h : StaysOpen inner) (rest : List Char) :
    ClosesComments (comment inner ++ rest) ↔ ClosesComments rest := by
  have hfind := findAll_append_part (fun _ _ _ => rfl) (by simp [comment, stylesheetComment])
    (recognizer_comment none h rest)
  rw [ClosesComments, hfind, List.forall_mem_cons, List.forall_mem_map,
    and_iff_right (closed_comment inner rest)]
  exact forall₂_congr fun f _ => stylesheetComment.closed_shift (comment inner) rest f

theorem not_closesComments_unclosed (h : StaysOpen inner) :
    ¬ ClosesComments (stylesheetComment.opening ++ inner) := by
  have hfind := findAll_whole (fun _ _ _ => rfl) (by simp [stylesheetComment])
    (recognizer_staysOpen none h)
  rw [ClosesComments, hfind, List.forall_mem_singleton]
  intro hclosed
  apply h
  simpa [CommentStyle.Closed, Span.slice, Found.span, Found.stop, stylesheetComment]
    using hclosed.isInfix

/-- Without the opening mark there is no comment to close. -/
theorem closesComments_of_commentFree (h : CommentFree a) : ClosesComments a := by
  intro f hf
  obtain ⟨front, rest, b, rfl, -, -, hread⟩ := exists_of_mem_findAll hf
  have hno : ¬ stylesheetComment.opening <+: rest := fun hp =>
    h (hp.isInfix.trans (List.suffix_append front rest).isInfix)
  rw [recognizer_of_not_isPrefix b hno] at hread
  contradiction

/-- A comment that is not closed runs to the end. -/
theorem stop_eq_of_not_closed {text : List Char} {f : Found Unit}
    (hf : f ∈ findAll stylesheetComment.recognizer text)
    (h : ¬ stylesheetComment.Closed text f) : f.stop = text.length := by
  obtain ⟨front, rest, b, rfl, hstart, hne, hread⟩ := exists_of_mem_findAll hf
  obtain ⟨start, length, value⟩ := f
  obtain rfl : start = front.length := hstart
  induction rest using comment_induction with
  | nil => exact absurd rfl hne
  | plain c rest hp => simp [recognizer_of_not_isPrefix b hp] at hread
  | closed inner rest hinner =>
    rw [recognizer_comment b hinner] at hread
    obtain rfl : (comment inner).length = length := congrArg Prod.fst (Option.some.inj hread)
    have hclosed := closed_comment inner rest
    rw [← stylesheetComment.closed_shift front] at hclosed
    exact absurd hclosed h
  | unclosed inner hinner =>
    rw [recognizer_staysOpen b hinner] at hread
    obtain rfl : (stylesheetComment.opening ++ inner).length = length :=
      congrArg Prod.fst (Option.some.inj hread)
    simp [Found.stop]

/-! ### One text after the other -/

theorem head?_of_prefix_cons (h : stylesheetComment.opening <+: c :: b) :
    c = '/' ∧ b.head? = some '*' := by
  obtain ⟨rest, e⟩ := h
  obtain ⟨rfl, rfl⟩ : '/' = c ∧ '*' :: rest = b := by simpa [stylesheetComment] using e
  exact ⟨rfl, rfl⟩

/-- At the seam of two texts no comment begins. -/
theorem not_prefix_append (h : ¬ stylesheetComment.opening <+: c :: rest)
    (hseam : rest = [] → c ≠ '/' ∨ b.head? ≠ some '*') :
    ¬ stylesheetComment.opening <+: c :: (rest ++ b) := by
  intro hp
  obtain ⟨rfl, hhead⟩ := head?_of_prefix_cons hp
  cases rest with
  | nil => exact (hseam rfl).elim (fun hc => hc rfl) fun hb => hb hhead
  | cons d rest =>
    obtain rfl : d = '*' := by simpa using hhead
    exact h ⟨rest, rfl⟩

/-- Behind a text that closes its comments, blanking starts afresh. -/
theorem blank_append (ha : ClosesComments a)
    (hseam : (stylesheetComment.blank a).getLast? ≠ some '/' ∨ b.head? ≠ some '*') :
    stylesheetComment.blank (a ++ b) = stylesheetComment.blank a ++ stylesheetComment.blank b := by
  induction a using comment_induction with
  | nil => rfl
  | plain c rest hp ih =>
    rw [closesComments_plain hp] at ha
    rw [blank_plain hp] at hseam ⊢
    have hp' : ¬ stylesheetComment.opening <+: c :: (rest ++ b) := by
      apply not_prefix_append hp
      rintro rfl
      simpa using hseam
    rw [List.cons_append, blank_plain hp', ih ha, List.cons_append]
    apply hseam.imp_left
    intro hlast h
    apply hlast
    simp [List.getLast?_cons, h]
  | closed inner rest hinner ih =>
    rw [closesComments_comment hinner] at ha
    rw [blank_comment hinner] at hseam ⊢
    rw [List.append_assoc, blank_comment hinner, ih ha, List.append_assoc]
    apply hseam.imp_left
    intro hlast h
    apply hlast
    simp [List.getLast?_append, h]
  | unclosed inner hinner => exact absurd ha (not_closesComments_unclosed hinner)

/-- A comment that is open goes on over a text without the closing mark. -/
theorem StaysOpen.append (ha : StaysOpen a) (hb : StaysOpen b) (h : b.head? ≠ some '/') :
    StaysOpen (a ++ b) := by
  induction a with
  | nil => exact hb
  | cons c a ih =>
    rw [StaysOpen, List.infix_cons_iff, not_or] at ha
    rw [StaysOpen, List.cons_append, List.infix_cons_iff, not_or]
    refine ⟨?_, ih ha.2⟩
    rintro ⟨rest, e⟩
    obtain ⟨rfl, hslash⟩ : '*' = c ∧ '/' :: rest = a ++ b := by
      simpa [stylesheetComment] using e
    cases a with
    | nil =>
      obtain rfl : '/' :: rest = b := hslash
      exact h rfl
    | cons d a =>
      obtain rfl : '/' = d := (List.cons.inj hslash).1
      exact ha.1 ⟨a, rfl⟩

/-- Behind a text that leaves a comment open, everything up to the closing mark is blanked. -/
theorem blank_append_of_not_closesComments (ha : ¬ ClosesComments a) (hb : StaysOpen b)
    (h : b.head? ≠ some '/') :
    stylesheetComment.blank (a ++ b) = stylesheetComment.blank a ++ b.map blankChar := by
  induction a using comment_induction with
  | nil => exact absurd (closesComments_of_commentFree (by decide)) ha
  | plain c rest hp ih =>
    rw [closesComments_plain hp] at ha
    have hp' : ¬ stylesheetComment.opening <+: c :: (rest ++ b) := by
      apply not_prefix_append hp
      rintro rfl
      exact absurd (closesComments_of_commentFree (by decide)) ha
    rw [List.cons_append, blank_plain hp', blank_plain hp, ih ha, List.cons_append]
  | closed inner rest hinner ih =>
    rw [closesComments_comment hinner] at ha
    rw [List.append_assoc, blank_comment hinner, blank_comment hinner, ih ha, List.append_assoc]
  | unclosed inner hinner =>
    rw [List.append_assoc, blank_unclosed (hinner.append hb h), blank_unclosed hinner,
      ← List.append_assoc, List.map_append]

/-! ### Comments have no say -/

/-- The same length, and line ends at the same places. -/
structure SameLines (a b : List Char) : Prop where
  length_eq : a.length = b.length
  newline_iff : ∀ i : Nat, a[i]? = some '\n' ↔ b[i]? = some '\n'

theorem sameLines_iff : SameLines a b ↔ a.map blankChar = b.map blankChar := by
  have hnewline (text : List Char) (i : Nat) :
      (text.map blankChar)[i]? = some '\n' ↔ text[i]? = some '\n' := by
    simp [Option.map_eq_some_iff, blankChar_eq_newline_iff]
  constructor
  · rintro ⟨hlength, hlines⟩
    apply List.ext_getElem (by simp [hlength])
    intro i ha hb
    have hi := hlines i
    simp only [List.length_map] at ha hb
    simp only [List.getElem?_eq_getElem ha, List.getElem?_eq_getElem hb, Option.some.injEq] at hi
    simp only [List.getElem_map, blankChar, hi]
  · intro h
    constructor
    · simpa using congrArg List.length h
    · intro i
      rw [← hnewline a, ← hnewline b, h]

instance (a b : List Char) : Decidable (SameLines a b) := decidable_of_iff _ sameLines_iff.symm

/-- A stylesheet without comments is what blanking leaves of a stylesheet: nothing but the comments
is changed, and the line ends in them stay. -/
structure Uncommented (text blanked : List Char) : Prop extends SameLines blanked text where
  outside : ∀ i : Nat, OutsideFound stylesheetComment.recognizer text i → blanked[i]? = text[i]?
  commentFree : CommentFree blanked
  /-- A comment that is not closed is blanked to the end of the text. -/
  unclosed : ∀ f ∈ findAll stylesheetComment.recognizer text, ¬ stylesheetComment.Closed text f →
    ∀ i : Nat, f.start ≤ i → blanked[i]? = text[i]?.map blankChar

/-- No comment begins in a blanked text. -/
theorem commentFree_blank (text : List Char) : CommentFree (stylesheetComment.blank text) := by
  rintro ⟨before, after, e⟩
  have hsolid : Solid stylesheetComment.opening := by decide
  have hstands :
      StandsAt 0 (stylesheetComment.blank text) before.length stylesheetComment.opening :=
    ⟨before, after, e.symm, by simp⟩
  obtain ⟨⟨front, rest, htext, hfront⟩, houtside⟩ := hstands.of_blankFound hsolid
  -- The mark stands in the text itself, so a comment would have been found there.
  obtain ⟨n, hn, hread⟩ : ∃ n, 0 < n ∧
      stylesheetComment.recognizer none (stylesheetComment.opening ++ rest) = some (n, ()) := by
    rw [recognizer_opening]
    cases find? stylesheetComment.closing rest with
    | none => exact ⟨_, Nat.succ_pos _, rfl⟩
    | some n => exact ⟨_, Nat.succ_pos _, rfl⟩
  obtain ⟨f, hf, hcovers⟩ := exists_covers_of_reads (fun _ _ _ => rfl) front
    (by simp [stylesheetComment]) hn hread
  rw [List.append_assoc] at htext
  rw [← htext] at hf
  have hno := houtside f hf
  rw [hfront, Nat.zero_add, Nat.sub_zero, hcovers] at hno
  contradiction

theorem uncommented_blank (text : List Char) :
    Uncommented text (stylesheetComment.blank text) where
  length_eq := length_blank text
  newline_iff := getElem?_blankFound_newline _ _
  outside _ := getElem?_blankFound_of_outside
  commentFree := commentFree_blank text
  unclosed := by
    intro f hf hopen i hi
    by_cases hlt : i < text.length
    · apply getElem?_blankFound_of_covers hf
      rw [Span.covers_iff]
      refine ⟨hi, ?_⟩
      show i < f.stop
      rwa [stop_eq_of_not_closed hf hopen]
    · rw [List.getElem?_eq_none (Nat.le_of_not_lt hlt), List.getElem?_eq_none, Option.map_none]
      simpa using hlt

theorem blank_append_comment (ha : CommentFree a) (h : StaysOpen inner) (b : List Char) :
    stylesheetComment.blank (a ++ (comment inner ++ b)) =
      a ++ ((comment inner).map blankChar ++ stylesheetComment.blank b) := by
  rw [blank_append (closesComments_of_commentFree ha)
    (Or.inr (by simp [comment, stylesheetComment])), CommentStyle.blank_eq_self ha, blank_comment h]

/-- **Comments are invisible**: blanking takes the comments out of a stylesheet and leaves all else
where it is, once and for all, and the blanked stylesheet is scanned as the stylesheet is. So the
text of a comment has no say, apart from its length and its line ends. -/
theorem comments_invisible :
    (∀ text : List Char, Uncommented text (stylesheetComment.blank text) ∧
      stylesheetComment.blank (stylesheetComment.blank text) = stylesheetComment.blank text ∧
      ∀ base inline, scanStylesheet base inline text =
        scanStylesheet base inline (stylesheetComment.blank text)) ∧
    ∀ front back inner inner' : List Char, CommentFree front → StaysOpen inner →
      StaysOpen inner' → SameLines inner inner' → ∀ base inline,
        scanStylesheet base inline (front ++ (comment inner ++ back)) =
          scanStylesheet base inline (front ++ (comment inner' ++ back)) := by
  constructor
  · intro text
    have hblank := CommentStyle.blank_eq_self (commentFree_blank text)
    refine ⟨uncommented_blank text, hblank, fun base inline => ?_⟩
    rw [scanStylesheet, scanStylesheet, hblank]
  · intro front back inner inner' hfront hinner hinner' hlines base inline
    have hmap : (comment inner).map blankChar = (comment inner').map blankChar := by
      simp only [comment, List.map_append, sameLines_iff.1 hlines]
    rw [scanStylesheet, scanStylesheet, blank_append_comment hfront hinner,
      blank_append_comment hfront hinner', hmap]

/-- A brace and a semicolon in a comment end nothing, and neither does a mark that looks like an
opening one. -/
theorem comments_invisible_braceAndSemicolon :
    CommentFree ['a', '{'] ∧ StaysOpen ['}', '\n', ';'] ∧ StaysOpen ['/', '\n', '*'] ∧
      SameLines ['}', '\n', ';'] ['/', '\n', '*'] ∧
      scanStylesheet 0 false
          (['a', '{'] ++ (comment ['}', '\n', ';'] ++ ['-', '-', 'x', ':', '1', '}'])) =
        scanStylesheet 0 false
          (['a', '{'] ++ (comment ['/', '\n', '*'] ++ ['-', '-', 'x', ':', '1', '}'])) ∧
      scanStylesheet 0 false
          (['a', '{'] ++ (comment ['/', '\n', '*'] ++ ['-', '-', 'x', ':', '1', '}'])) =
        { declarations := [⟨"--x", "1", 9, 13⟩] } := by
  have hfront : CommentFree ['a', '{'] := by decide
  have hbrace : StaysOpen ['}', '\n', ';'] := by decide
  have hmark : StaysOpen ['/', '\n', '*'] := by decide
  have hlines : SameLines ['}', '\n', ';'] ['/', '\n', '*'] := by decide
  exact ⟨hfront, hbrace, hmark, hlines,
    comments_invisible.2 _ _ _ _ hfront hbrace hmark hlines 0 false, by decide +kernel⟩

end BeamLint
