import BeamLint.Proofs.Text.Search
import BeamLint.Proofs.Value.Grammar
import BeamLint.Stylesheet.Scan

/-!
# How stylesheets are written

A stylesheet is a list of rules with blanks around them. A rule is a prelude and a body in braces:

* a prelude is a text without braces, semicolons, quotes and parentheses;
* a body is a list of declarations and rules with blanks around them. A declaration is a name, a
  colon and a value, and a semicolon ends it; the last one of a body may go without;
* a value has no quotes, its parentheses are balanced, and all its braces and semicolons stand in
  parentheses.

Nothing of this has the opening mark of a comment in it, and so neither has the whole stylesheet
(`WrittenSheet.commentFree_text`). Trees of this grammar say how a stylesheet is written (`text`)
and what is to be found in it (`found`).
-/

namespace BeamLint

open Text

/-! ### Texts that are not cut -/

/-- Whether `c` cuts a stylesheet. -/
def isCut (c : Char) : Bool := c == '{' || c == '}' || c == ';'

/-- The characters of the text outside parentheses, `depth` of which are open before it. -/
def outside : (depth : Nat) → List Char → List Char
  | _, [] => []
  | depth, c :: rest =>
    if c = '(' then outside (depth + 1) rest
    else if c = ')' then outside (depth - 1) rest
    else if depth = 0 then c :: outside depth rest
    else outside depth rest

/-- The text holds no quotes, its parentheses are balanced, and nothing cuts it outside of them. -/
structure Uncut (text : List Char) : Prop extends Tidy text where
  whole : ∀ c ∈ outside 0 text, isCut c = false

theorem outside_append {k : Nat} {a b : List Char} (h : closes k a) :
    outside k (a ++ b) = outside k a ++ outside 0 b := by
  induction a generalizing k with
  | nil =>
    obtain rfl : k = 0 := by simpa [closes] using h
    rfl
  | cons c a ih =>
    rw [closes] at h
    rw [List.cons_append, outside, outside]
    split_ifs at h ⊢ with h₁ h₂ h₃
    · exact ih h
    · exact ih (Bool.and_eq_true_iff.1 h).2
    · rw [ih h, List.cons_append]
    · exact ih h

theorem mem_of_mem_outside {c : Char} {k : Nat} {text : List Char} (h : c ∈ outside k text) :
    c ∈ text := by
  induction text generalizing k with
  | nil => exact h
  | cons d text ih =>
    rw [outside] at h
    split_ifs at h
    · exact List.mem_cons_of_mem _ (ih h)
    · exact List.mem_cons_of_mem _ (ih h)
    · exact (List.mem_cons.1 h).elim (· ▸ List.mem_cons_self) fun h => List.mem_cons_of_mem _ (ih h)
    · exact List.mem_cons_of_mem _ (ih h)

theorem Uncut.append {a b : List Char} (ha : Uncut a) (hb : Uncut b) : Uncut (a ++ b) where
  toTidy := ha.toTidy.append hb.toTidy
  whole := by
    rw [outside_append ha.balanced]
    exact List.forall_mem_append.2 ⟨ha.whole, hb.whole⟩

theorem Uncut.of_forall {text : List Char} (h : ∀ c ∈ text, isPlain c ∧ isCut c = false) :
    Uncut text where
  toTidy := .of_isPlain fun c hc => (h c hc).1
  whole c hc := (h c (mem_of_mem_outside hc)).2

theorem isCut_of_isBlank {c : Char} (h : isBlank c) : isCut c = false := by
  simp [isCut, ne_of_isBlank h (d := '{') (by decide), ne_of_isBlank h (d := '}') (by decide),
    ne_of_isBlank h (d := ';') (by decide)]

theorem Blanks.uncut (b : Blanks) : Uncut b.text :=
  .of_forall fun c hc =>
    have hb := List.all_eq_true.1 b.blank c hc
    ⟨isPlain_of_isBlank hb, isCut_of_isBlank hb⟩

/-! ### Texts without comments -/

/-- No comment begins in the text. -/
def CommentFree (text : List Char) : Prop := ¬ stylesheetComment.opening <:+: text

instance (text : List Char) : Decidable (CommentFree text) := inferInstanceAs (Decidable (¬ _))

namespace CommentFree

variable {a b : List Char} {c : Char}

theorem cons (hc : c ≠ '/' ∨ ∀ d ∈ a.head?, d ≠ '*') (ha : CommentFree a) :
    CommentFree (c :: a) := by
  rw [CommentFree, List.infix_cons_iff, not_or]
  refine ⟨?_, ha⟩
  rintro ⟨rest, e⟩
  obtain ⟨rfl, rfl⟩ : '/' = c ∧ '*' :: rest = a := by simpa [stylesheetComment] using e
  simp at hc

/-- Texts without comments may stand side by side, unless the second one begins with a star. -/
theorem append (ha : CommentFree a) (hb : CommentFree b) (h : ∀ d ∈ b.head?, d ≠ '*') :
    CommentFree (a ++ b) := by
  induction a with
  | nil => exact hb
  | cons c a ih =>
    have htail : CommentFree a := fun hi => ha (hi.trans (List.suffix_cons c a).isInfix)
    refine cons ?_ (ih htail)
    refine or_iff_not_imp_left.2 fun hc d hd => ?_
    obtain rfl : c = '/' := not_not.1 hc
    cases a with
    | nil => exact h d hd
    | cons e a =>
      obtain rfl : e = d := by simpa using hd
      rintro rfl
      exact ha ⟨[], a, rfl⟩

end CommentFree

theorem Blanks.ne_star (b : Blanks) {rest : List Char} (h : ∀ d ∈ rest.head?, d ≠ '*') :
    ∀ d ∈ (b.text ++ rest).head?, d ≠ '*' :=
  b.forall_head? (fun _ hd => ne_of_isBlank hd (by decide)) h

/-- Blanks begin no comment. -/
theorem Blanks.commentFree_append (b : Blanks) {rest : List Char} (h : CommentFree rest) :
    CommentFree (b.text ++ rest) := by
  obtain ⟨text, hb⟩ := b
  induction text with
  | nil => exact h
  | cons c text ih =>
    obtain ⟨hc, hb⟩ := Bool.and_eq_true_iff.1 hb
    exact .cons (Or.inl (ne_of_isBlank hc (by decide))) (ih hb)

/-! ### Trees -/

/-- A prelude. -/
structure PreludeText where
  text : List Char
  chars : ∀ c ∈ text, isPlain c ∧ isCut c = false
  commentFree : CommentFree text

/-- The name in a declaration. It need not be the name of a property: any text without blanks and
colons that is not cut may stand there. -/
structure DeclaredName where
  text : List Char
  ne_nil : text ≠ []
  chars : ∀ c ∈ text, isPlain c ∧ isCut c = false ∧ isBlank c = false ∧ c ≠ ':'
  commentFree : CommentFree text

/-- The value in a declaration, from the colon to the end of the declaration. -/
structure ValueText where
  text : List Char
  uncut : Uncut text
  commentFree : CommentFree text

/-- What stands before the body of a rule. -/
structure Heading where
  before : Blanks
  prelude : PreludeText

/-- A declaration without the semicolon, after blanks. -/
structure WrittenDeclaration where
  before : Blanks
  name : DeclaredName
  gap : Blanks
  value : ValueText

/-- The body of a rule. Its last declaration may go without a semicolon; the value then runs up to
the closing brace. -/
inductive WrittenBody where
  | blanks (space : Blanks)
  | last (d : WrittenDeclaration)
  | declaration (d : WrittenDeclaration) (rest : WrittenBody)
  | rule (heading : Heading) (body rest : WrittenBody)

/-- A stylesheet. -/
inductive WrittenSheet where
  | blanks (space : Blanks)
  | rule (heading : Heading) (body : WrittenBody) (rest : WrittenSheet)

/-! ### How they are written -/

def Heading.text (h : Heading) : List Char := h.before.text ++ h.prelude.text

def WrittenDeclaration.text (d : WrittenDeclaration) : List Char :=
  d.before.text ++ (d.name.text ++ (d.gap.text ++ ':' :: d.value.text))

def WrittenBody.text : WrittenBody → List Char
  | .blanks space => space.text
  | .last d => d.text
  | .declaration d rest => d.text ++ ';' :: rest.text
  | .rule heading body rest => heading.text ++ '{' :: (body.text ++ '}' :: rest.text)

def WrittenSheet.text : WrittenSheet → List Char
  | .blanks space => space.text
  | .rule heading body rest => heading.text ++ '{' :: (body.text ++ '}' :: rest.text)

/-! ### What is to be found -/

/-- Whether this is the name of a custom property: two hyphens, and letters, digits, hyphens and
underscores. -/
def DeclaredName.isCustom (name : DeclaredName) : Bool :=
  ['-', '-'].isPrefixOf name.text && name.text.length > 2 && name.text.all isPropertyChar

/-- Whether this is the name of a property: a letter or a hyphen, and letters, digits, hyphens and
underscores. -/
def DeclaredName.isProperty (name : DeclaredName) : Bool :=
  (name.text.head?.any fun c => c.isAlpha || c == '-') && name.text.all isPropertyChar

/-- The class names in the prelude of a rule at place `i`, each at the place of its dot. A prelude
that begins with an at sign holds none. -/
def Heading.found (h : Heading) (i : Nat) : StylesheetScan where
  classTokens :=
    if (trimLeft h.prelude.text).head? = some '@' then []
    else
      (findAll classNameRecognizer (blankFound preludeNoise h.prelude.text)).map fun f =>
        ⟨String.ofList f.value, i + h.before.text.length + f.start⟩

/-- The property in a declaration at place `i`. -/
def WrittenDeclaration.site (d : WrittenDeclaration) (i : Nat) : PropertySite where
  name := String.ofList d.name.text
  value := String.ofList d.value.text
  offset := i + d.before.text.length
  valueOffset := i + d.before.text.length + d.name.text.length + d.gap.text.length + 1

/-- A custom property is found with any value, another property if its value has a call. -/
def WrittenDeclaration.found (d : WrittenDeclaration) (i : Nat) : StylesheetScan :=
  if d.name.isCustom then { declarations := [d.site i] }
  else if d.name.isProperty ∧ varOpen <:+: d.value.text then { usages := [d.site i] }
  else {}

/-- What is found in a body at place `i`, in the order of the text. -/
def WrittenBody.found (i : Nat) : WrittenBody → StylesheetScan
  | .blanks _ => {}
  | .last d => d.found i
  | .declaration d rest => d.found i ++ rest.found (i + d.text.length + 1)
  | .rule heading body rest =>
    heading.found i ++ (body.found (i + heading.text.length + 1) ++
      rest.found (i + heading.text.length + 1 + body.text.length + 1))

/-- What is found in a stylesheet at place `i`, in the order of the text. -/
def WrittenSheet.found (i : Nat) : WrittenSheet → StylesheetScan
  | .blanks _ => {}
  | .rule heading body rest =>
    heading.found i ++ (body.found (i + heading.text.length + 1) ++
      rest.found (i + heading.text.length + 1 + body.text.length + 1))

/-! ### No cuts in headings and declarations -/

theorem Heading.uncut_text (h : Heading) : Uncut h.text :=
  h.before.uncut.append (.of_forall h.prelude.chars)

theorem WrittenDeclaration.uncut_text (d : WrittenDeclaration) : Uncut d.text := by
  have hname : Uncut d.name.text := .of_forall fun c hc =>
    have ⟨hp, hu, _⟩ := d.name.chars c hc
    ⟨hp, hu⟩
  have hcolon : Uncut [':'] := .of_forall (by simp [isPlain, isQuote, isCut])
  exact d.before.uncut.append (hname.append (d.gap.uncut.append (hcolon.append d.value.uncut)))

/-! ### No comments -/

theorem Heading.commentFree_append (h : Heading) {rest : List Char} (hr : CommentFree rest)
    (hs : ∀ d ∈ rest.head?, d ≠ '*') : CommentFree (h.text ++ rest) := by
  rw [Heading.text, List.append_assoc]
  exact h.before.commentFree_append (h.prelude.commentFree.append hr hs)

theorem WrittenDeclaration.commentFree_append (d : WrittenDeclaration) {rest : List Char}
    (hr : CommentFree rest) (hs : ∀ d ∈ rest.head?, d ≠ '*') : CommentFree (d.text ++ rest) := by
  have hvalue : CommentFree (':' :: (d.value.text ++ rest)) :=
    .cons (Or.inl (by decide)) (d.value.commentFree.append hr hs)
  have hname : CommentFree (d.name.text ++ (d.gap.text ++ ':' :: (d.value.text ++ rest))) :=
    d.name.commentFree.append (d.gap.commentFree_append hvalue) (d.gap.ne_star (by simp))
  simpa [WrittenDeclaration.text] using d.before.commentFree_append hname

theorem WrittenBody.commentFree_append (b : WrittenBody) {rest : List Char}
    (hr : CommentFree rest) (hs : ∀ d ∈ rest.head?, d ≠ '*') : CommentFree (b.text ++ rest) := by
  induction b generalizing rest with
  | blanks space => exact space.commentFree_append hr
  | last d => exact d.commentFree_append hr hs
  | declaration d more ih =>
    have hmore : CommentFree (';' :: (more.text ++ rest)) := .cons (Or.inl (by decide)) (ih hr hs)
    simpa [WrittenBody.text] using d.commentFree_append hmore (by simp)
  | rule heading body more ihBody ih =>
    have hmore : CommentFree ('}' :: (more.text ++ rest)) := .cons (Or.inl (by decide)) (ih hr hs)
    have hbody : CommentFree ('{' :: (body.text ++ '}' :: (more.text ++ rest))) :=
      .cons (Or.inl (by decide)) (ihBody hmore (by simp))
    simpa [WrittenBody.text] using heading.commentFree_append hbody (by simp)

theorem WrittenSheet.commentFree_text (s : WrittenSheet) : CommentFree s.text := by
  induction s with
  | blanks space =>
    have hnil : CommentFree [] := by simp [CommentFree, stylesheetComment]
    simpa [WrittenSheet.text] using space.commentFree_append hnil
  | rule heading body rest ih =>
    have hrest : CommentFree ('}' :: rest.text) := .cons (Or.inl (by decide)) ih
    have hbody : CommentFree ('{' :: (body.text ++ '}' :: rest.text)) :=
      .cons (Or.inl (by decide)) (body.commentFree_append hrest (by simp))
    exact heading.commentFree_append hbody (by simp)

end BeamLint
