import BeamLint.Proofs.Text.Trim
import BeamLint.Proofs.Value.Parens
import BeamLint.Proofs.Value.References

/-!
# How values are written

A value, with blanks around it, is empty, a literal, a call or a compound:

* a literal is a text without calls;
* a call stands between `var(` and `)`: a name, and perhaps a comma and a fallback, which is again
  a value;
* a compound is put together of plain characters, groups in parentheses and calls. It has a call
  somewhere, and it is not just a call.

Trees of this grammar say how a value is written (`text`), which names it refers to and where
(`references`), and in which literal it ends (`literal`). Nothing that is written so has quotes or
unbalanced parentheses (`Written.tidy_text`).
-/

namespace BeamLint

open Text

/-! ### Words -/

/-- Blanks. -/
structure Blanks where
  text : List Char
  blank : isAllBlank text

/-- The name of a custom property: two hyphens, and letters, digits, hyphens and underscores. -/
structure PropertyName where
  text : List Char
  hyphens : ['-', '-'] <+: text
  length : 2 < text.length
  chars : ∀ c ∈ text, isPropertyChar c

/-- A literal: a trimmed text without quotes and without calls, its parentheses balanced. -/
structure LiteralText where
  text : List Char
  ne_nil : text ≠ []
  trimmed : trim text = text
  tidy : Tidy text
  noCall : ¬ varOpen <:+: text

/-- Whether `c` may stand by itself in a compound. -/
def isPlain (c : Char) : Bool := !isQuote c && c != '(' && c != ')'

/-- The text of a call. -/
def callText (inner : List Char) : List Char := varOpen ++ (inner ++ [')'])

theorem callText_ne_nil (inner : List Char) : callText inner ≠ [] := by simp [callText, varOpen]

theorem length_callText (inner : List Char) : (callText inner).length = inner.length + 5 := by
  simp [callText, varOpen]

/-! ### Trees -/

mutual

/-- A value and the blanks around it. -/
inductive Written where
  | empty (blanks : Blanks)
  | literal (lead : Blanks) (literal : LiteralText) (trail : Blanks)
  | call (lead : Blanks) (call : WrittenCall) (trail : Blanks)
  | compound (lead : Blanks) (pieces : Pieces) (trail : Blanks)

/-- What stands inside a call: a name with blanks around it, and the fallback after a comma. -/
inductive WrittenCall where
  | bare (lead : Blanks) (name : PropertyName) (trail : Blanks)
  | withFallback (lead : Blanks) (name : PropertyName) (trail : Blanks) (fallback : Written)

/-- The pieces of a compound. -/
inductive Pieces where
  | nil
  | plain (c : Char) (rest : Pieces)
  | group (content rest : Pieces)
  | call (call : WrittenCall) (rest : Pieces)

end

mutual

/-- How a value is written. -/
def Written.text : Written → List Char
  | .empty blanks => blanks.text
  | .literal lead literal trail => lead.text ++ (literal.text ++ trail.text)
  | .call lead call trail => lead.text ++ (callText call.inner ++ trail.text)
  | .compound lead pieces trail => lead.text ++ (pieces.text ++ trail.text)

/-- How the inside of a call is written. -/
def WrittenCall.inner : WrittenCall → List Char
  | .bare lead name trail => lead.text ++ (name.text ++ trail.text)
  | .withFallback lead name trail fallback =>
    lead.text ++ (name.text ++ (trail.text ++ ',' :: fallback.text))

/-- How the pieces of a compound are written. -/
def Pieces.text : Pieces → List Char
  | .nil => []
  | .plain c rest => c :: rest.text
  | .group content rest => '(' :: (content.text ++ ')' :: rest.text)
  | .call call rest => callText call.inner ++ rest.text

end

mutual

/-- The names that a value at place `i` refers to, in the order of the text. -/
def Written.references (i : Nat) : Written → List ValueReference
  | .empty _ => []
  | .literal .. => []
  | .call lead call _ => call.references (i + lead.text.length + 4)
  | .compound lead pieces _ => pieces.references (i + lead.text.length)

/-- The names in a call whose inside is at place `i`. -/
def WrittenCall.references (i : Nat) : WrittenCall → List ValueReference
  | .bare lead name _ => [⟨String.ofList name.text, i + lead.text.length, false⟩]
  | .withFallback lead name trail fallback =>
    ⟨String.ofList name.text, i + lead.text.length, true⟩ ::
      fallback.references
        (i + lead.text.length + name.text.length + trail.text.length + 1)

/-- The names in the pieces of a compound at place `i`. -/
def Pieces.references (i : Nat) : Pieces → List ValueReference
  | .nil => []
  | .plain _ rest => rest.references (i + 1)
  | .group content rest =>
    content.references (i + 1) ++ rest.references (i + content.text.length + 2)
  | .call call rest =>
    call.references (i + 4) ++ rest.references (i + call.inner.length + 5)

end

mutual

/-- The literal in which a value ends, if it is one or is a call that ends in one. -/
def Written.literal? : Written → Option String
  | .literal _ literal _ => some (String.ofList literal.text)
  | .call _ call _ => call.literal?
  | .empty _ => none
  | .compound .. => none

/-- The literal in which the fallback of a call ends. -/
def WrittenCall.literal? : WrittenCall → Option String
  | .bare .. => none
  | .withFallback _ _ _ fallback => fallback.literal?

end

/-- Whether a call is among the pieces. -/
def Pieces.hasCall : Pieces → Bool
  | .nil => false
  | .plain _ rest => rest.hasCall
  | .group content rest => content.hasCall || rest.hasCall
  | .call .. => true

/-- Whether the pieces are just one call. -/
def Pieces.isCall : Pieces → Bool
  | .call _ .nil => true
  | _ => false

mutual

/-- A compound is trimmed, has a call and is not just one, and its pieces are well-formed. -/
def Written.WellFormed : Written → Prop
  | .empty _ => True
  | .literal .. => True
  | .call _ call _ => call.WellFormed
  | .compound _ pieces _ =>
    trim pieces.text = pieces.text ∧ pieces.hasCall ∧ ¬ pieces.isCall ∧ pieces.WellFormed

/-- The fallback is well-formed. -/
def WrittenCall.WellFormed : WrittenCall → Prop
  | .bare .. => True
  | .withFallback _ _ _ fallback => fallback.WellFormed

/-- Every character that stands by itself is a plain one, and none of them begins what looks like a
call: `var(` only opens the calls among the pieces. -/
def Pieces.WellFormed : Pieces → Prop
  | .nil => True
  | .plain c rest => isPlain c ∧ ¬ varOpen <+: c :: rest.text ∧ rest.WellFormed
  | .group content rest => content.WellFormed ∧ rest.WellFormed
  | .call call rest => call.WellFormed ∧ rest.WellFormed

end

/-! ### No quotes, and balanced parentheses -/

theorem isPlain_of_isBlank {c : Char} (h : isBlank c) : isPlain c := by
  simp [isPlain, isQuote, ne_of_isBlank h (d := '\'') (by decide),
    ne_of_isBlank h (d := '"') (by decide), ne_of_isBlank h (d := '(') (by decide),
    ne_of_isBlank h (d := ')') (by decide)]

theorem isPlain_of_isPropertyChar {c : Char} (h : isPropertyChar c) : isPlain c := by
  have hne {d : Char} (hd : isPropertyChar d = false) : c ≠ d := by
    rintro rfl
    simp [hd] at h
  simp [isPlain, isQuote, hne (d := '\'') (by decide), hne (d := '"') (by decide),
    hne (d := '(') (by decide), hne (d := ')') (by decide)]

theorem Tidy.of_isPlain {text : List Char} (h : ∀ c ∈ text, isPlain c) : Tidy text := by
  refine .of_forall fun c hc => ?_
  simpa [isPlain, and_assoc] using h c hc

theorem Blanks.tidy (b : Blanks) : Tidy b.text :=
  .of_isPlain fun c hc => isPlain_of_isBlank (List.all_eq_true.1 b.blank c hc)

/-- What holds of every blank and of the character that follows holds of the first character. -/
theorem Blanks.forall_head? (b : Blanks) {p : Char → Prop} (hp : ∀ c, isBlank c → p c)
    {rest : List Char} (h : ∀ c ∈ rest.head?, p c) : ∀ c ∈ (b.text ++ rest).head?, p c := by
  intro c hc
  rw [List.head?_append] at hc
  cases hb : b.text.head? with
  | none => exact h c (by simpa [hb] using hc)
  | some d =>
    obtain rfl : d = c := by simpa [hb] using hc
    exact hp d (List.all_eq_true.1 b.blank d (List.mem_of_head? hb))

theorem PropertyName.tidy (name : PropertyName) : Tidy name.text :=
  .of_isPlain fun c hc => isPlain_of_isPropertyChar (name.chars c hc)

theorem Tidy.callText {inner : List Char} (h : Tidy inner) : Tidy (callText inner) :=
  have hvar : Tidy ['v', 'a', 'r'] := .of_isPlain (by simp [isPlain, isQuote])
  hvar.append h.parens

mutual

theorem Written.tidy_text (v : Written) (h : v.WellFormed) : Tidy v.text := by
  match v, h with
  | .empty blanks, _ => exact blanks.tidy
  | .literal lead literal trail, _ => exact lead.tidy.append (literal.tidy.append trail.tidy)
  | .call lead call trail, h =>
    exact lead.tidy.append ((call.tidy_inner h).callText.append trail.tidy)
  | .compound lead pieces trail, ⟨_, _, _, h⟩ =>
    exact lead.tidy.append ((pieces.tidy_text h).append trail.tidy)

theorem WrittenCall.tidy_inner (c : WrittenCall) (h : c.WellFormed) : Tidy c.inner := by
  match c, h with
  | .bare lead name trail, _ => exact lead.tidy.append (name.tidy.append trail.tidy)
  | .withFallback lead name trail fallback, h =>
    have hcomma : Tidy [','] := .of_isPlain (by simp [isPlain, isQuote])
    exact lead.tidy.append
      (name.tidy.append (trail.tidy.append (hcomma.append (fallback.tidy_text h))))

theorem Pieces.tidy_text (p : Pieces) (h : p.WellFormed) : Tidy p.text := by
  match p, h with
  | .nil, _ => exact ⟨by simp [Pieces.text], rfl⟩
  | .plain c rest, ⟨hc, _, h⟩ =>
    have hplain : Tidy [c] := .of_isPlain (by simpa using hc)
    exact hplain.append (rest.tidy_text h)
  | .group content rest, ⟨hc, h⟩ =>
    have happ := (content.tidy_text hc).parens.append (rest.tidy_text h)
    simpa [Pieces.text] using happ
  | .call call rest, ⟨hc, h⟩ => exact (call.tidy_inner hc).callText.append (rest.tidy_text h)

end

end BeamLint
