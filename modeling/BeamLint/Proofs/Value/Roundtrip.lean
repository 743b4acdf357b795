import BeamLint.Proofs.Value.Important
import BeamLint.Proofs.Value.Shape
import Mathlib

/-!
# Written values are read back

Reading what is written as a value of the grammar gives the names and the literal that the grammar
says, at whatever depth calls and compounds are nested in each other. By itself, a value is read up
to its `!important` mark, so what is written may have such a mark after it (`Value.parse_text`).
-/

namespace BeamLint

open Text

/-! ### Names and fallbacks -/

/-- A name is read up to the first character that cannot stand in it. -/
theorem PropertyName.propertyName?_append (name : PropertyName) {after : List Char}
    (h : ∀ c ∈ after.head?, isPropertyChar c = false) :
    propertyName? (name.text ++ after) = some (name.text, after) := by
  obtain ⟨htake, hdrop⟩ := takeWhile_append_of_head? h name.text
  rw [List.takeWhile_eq_self_iff.2 name.chars] at htake
  rw [List.dropWhile_eq_nil_iff.2 name.chars, List.nil_append] at hdrop
  have hp : ['-', '-'].isPrefixOf name.text := List.isPrefixOf_iff_prefix.2 name.hyphens
  simp [propertyName?, htake, hdrop, hp, name.length]

/-- Blanks before a name are all that is dropped there. -/
theorem PropertyName.blanks_before (name : PropertyName) (lead : Blanks) (rest : List Char) :
    (lead.text ++ (name.text ++ rest)).takeWhile isBlank = lead.text ∧
      trimLeft (lead.text ++ (name.text ++ rest)) = name.text ++ rest := by
  obtain ⟨later, e⟩ := name.hyphens
  refine Text.blanks_before lead.blank fun c hc => ?_
  obtain rfl : '-' = c := by simpa [← e] using hc
  decide

theorem isPropertyChar_of_isBlank {c : Char} (h : isBlank c) : isPropertyChar c = false := by
  by_contra hp
  rw [isBlank_of_isPropertyChar (by simpa using hp)] at h
  exact absurd h (by decide)

/-- Blanks do not go on with a name. -/
theorem Blanks.isPropertyChar_head? (b : Blanks) {rest : List Char}
    (h : ∀ c ∈ rest.head?, isPropertyChar c = false) :
    ∀ c ∈ (b.text ++ rest).head?, isPropertyChar c = false :=
  b.forall_head? (fun _ => isPropertyChar_of_isBlank) h

theorem Value.fallback?_blanks (b : Blanks) : Value.fallback? b.text = none := by
  rw [fallback?, trimLeft_of_isAllBlank b.blank]

theorem Value.fallback?_comma (b : Blanks) (text : List Char) :
    Value.fallback? (b.text ++ ',' :: text) = some text := by
  have hb : isBlank ',' = false := by decide
  rw [fallback?, trimLeft_append b.blank, trimLeft, List.dropWhile_cons_of_neg (by simp [hb])]
  rfl

/-! ### Reading back -/

-- The proofs follow the trees. The place of a stretch is arbitrary, since a fallback or a piece
-- stands somewhere inside the whole value.
mutual

/-- A value is read back. -/
theorem Written.ofShape_text (v : Written) (h : v.WellFormed) (i : Nat) :
    Value.ofShape (ValueShape.ofText i v.text) = ⟨v.references i, v.literal?⟩ := by
  match v, h with
  | .empty blanks, _ =>
    have hnil : trim blanks.text = [] := by
      rw [trim, trimLeft_of_isAllBlank blanks.blank]
      rfl
    rw [Written.text, ValueShape.ofText, hnil]
    rfl
  | .literal lead literal trail, _ =>
    rw [Written.text, ofText_between lead.blank trail.blank literal.trimmed literal.ne_nil,
      literal.ofText_text]
    rfl
  | .call lead call trail, h =>
    rw [Written.text, ofText_between lead.blank trail.blank (trim_callText _) (callText_ne_nil _),
      ofText_callText (call.tidy_inner h)]
    exact call.ofCall_inner h (i + lead.text.length + 4)
  | .compound lead pieces trail, ⟨ht, hc, hp, h⟩ =>
    have hne : pieces.text ≠ [] := pieces.text_ne_nil hc
    rw [Written.text, ofText_between lead.blank trail.blank ht hne, pieces.ofText_text ht hc hp h,
      Value.ofShape, pieces.flatMap_calls h]
    rfl

/-- The inside of a call is read back. -/
theorem WrittenCall.ofCall_inner (c : WrittenCall) (h : c.WellFormed) (i : Nat) :
    Value.ofCall ⟨i, c.inner⟩ = ⟨c.references i, c.literal?⟩ := by
  match c, h with
  | .bare lead name trail, _ =>
    obtain ⟨hlead, htrim⟩ := name.blanks_before lead trail.text
    have hname : propertyName? (name.text ++ trail.text) = some (name.text, trail.text) :=
      name.propertyName?_append fun c hc =>
        isPropertyChar_of_isBlank (List.all_eq_true.1 trail.blank c (List.mem_of_head? hc))
    rw [WrittenCall.inner, Value.ofCall_of_propertyName? (htrim ▸ hname)]
    simp only [Value.fallback?_blanks, hlead]
    rfl
  | .withFallback lead name trail fallback, h =>
    obtain ⟨hlead, htrim⟩ := name.blanks_before lead (trail.text ++ ',' :: fallback.text)
    have hname : propertyName? (name.text ++ (trail.text ++ ',' :: fallback.text)) =
        some (name.text, trail.text ++ ',' :: fallback.text) :=
      name.propertyName?_append (trail.isPropertyChar_head? (by simp [isPropertyChar]))
    have hplace : i + ((lead.text ++ (name.text ++ (trail.text ++ ',' :: fallback.text))).length -
        fallback.text.length) =
        i + lead.text.length + name.text.length + trail.text.length + 1 := by
      simp only [List.length_append, List.length_cons]
      omega
    rw [WrittenCall.inner, Value.ofCall_of_propertyName? (htrim ▸ hname)]
    simp only [Value.fallback?_comma, hlead, hplace, fallback.ofShape_text h]
    rfl

/-- The calls among the pieces of a compound are read back. -/
theorem Pieces.flatMap_calls (p : Pieces) (h : p.WellFormed) (i : Nat) :
    ((p.calls i).flatMap fun c => (Value.ofCall c).references) = p.references i := by
  match p, h with
  | .nil, _ => rfl
  | .plain c rest, ⟨_, _, h⟩ => exact rest.flatMap_calls h (i + 1)
  | .group content rest, ⟨hc, h⟩ =>
    rw [Pieces.calls, List.flatMap_append, content.flatMap_calls hc, rest.flatMap_calls h]
    rfl
  | .call c rest, ⟨hc, h⟩ =>
    rw [Pieces.calls, List.flatMap_cons, c.ofCall_inner hc, rest.flatMap_calls h]
    rfl

end

/-! ### Whole values -/

/-- Blanks at the end do not matter. -/
theorem ofText_trimRight (i : Nat) (text : List Char) :
    ValueShape.ofText i (trimRight text) = ValueShape.ofText i text := by
  obtain ⟨blanks, hb, e⟩ := exists_eq_trimRight_append text
  generalize trimRight text = front at e
  subst e
  have htrim : trim (front ++ blanks) = trim front := by
    simpa using trim_between (rfl : isAllBlank []) hb front
  by_cases hf : isAllBlank front
  · have hnil : trim front = [] := by
      rw [trim, trimLeft_of_isAllBlank hf]
      rfl
    rw [ValueShape.ofText, ValueShape.ofText, htrim, hnil]
    rfl
  · have htake : (front ++ blanks).takeWhile isBlank = front.takeWhile isBlank := by
      rw [List.takeWhile_append, if_neg]
      intro hl
      have hall := (List.takeWhile_prefix isBlank).eq_of_length hl
      exact hf (hall ▸ isAllBlank_takeWhile front)
    rw [ValueShape.ofText, ValueShape.ofText, htrim, htake]

/-- **Written values are read back**, with or without a mark at the end: the names in the order of
the text, each with its place and whether a fallback follows, and the literal at the end of the
chain. The names stand at these places. -/
theorem Value.parse_text (v : Written) (h : v.WellFormed) :
    ((∀ front (m : ImportantMark), v.text ≠ front ++ m.text) →
        parse v.text = ⟨v.references 0, v.literal?⟩) ∧
      (∀ m : ImportantMark, parse (v.text ++ m.text) = ⟨v.references 0, v.literal?⟩) ∧
      ReferencesIn 0 v.text (v.references 0) := by
  have hv := v.ofShape_text h 0
  refine ⟨fun hm => ?_, fun m => ?_, ?_⟩
  · rw [parse_eq, dropImportant_eq_self_iff.2 hm, hv]
  · rw [parse_eq, dropImportant_append_mark, ofText_trimRight, hv]
  · have hin := referencesIn_ofShape 0 v.text
    rwa [hv] at hin

/-- A call with a compound for its fallback, in which a call stands in a group and one beside it. -/
def nestedValue : Written :=
  .call ⟨[' '], rfl⟩
    (.withFallback ⟨[' '], rfl⟩ (name 'a' rfl) ⟨[], rfl⟩
      (.compound ⟨[' '], rfl⟩
        (.plain '1' (.plain '+' (.group
          (.call (.withFallback ⟨[], rfl⟩ (name 'b' rfl) ⟨[' '], rfl⟩
            (.literal ⟨[], rfl⟩ color ⟨[], rfl⟩)) .nil)
          (.call (.bare ⟨[], rfl⟩ (name 'c' rfl) ⟨[], rfl⟩) .nil))))
        ⟨[], rfl⟩))
    ⟨[], rfl⟩
where
  /-- A name of one letter. -/
  name (c : Char) (h : isPropertyChar c) : PropertyName :=
    ⟨['-', '-', c], ⟨[c], rfl⟩, by simp, by simpa using ⟨by decide, h⟩⟩
  /-- A color. -/
  color : LiteralText :=
    ⟨['#', 'f'], by decide, by decide, ⟨by simp [isQuote], by decide⟩, by decide⟩

/-- A mark in capital letters. -/
def capitalMark : ImportantMark :=
  ⟨⟨[' '], rfl⟩, ⟨[], rfl⟩, ['I', 'M', 'P', 'O', 'R', 'T', 'A', 'N', 'T'], by simp [isLetter],
    ⟨[], rfl⟩⟩

theorem parse_nestedValue :
    nestedValue.WellFormed ∧
      nestedValue.text = " var( --a, 1+(var(--b ,#f))var(--c))".toList ∧
      Value.parse nestedValue.text =
        ⟨[⟨"--a", 6, true⟩, ⟨"--b", 18, true⟩, ⟨"--c", 31, false⟩], none⟩ ∧
      Value.parse (nestedValue.text ++ capitalMark.text) =
        ⟨[⟨"--a", 6, true⟩, ⟨"--b", 18, true⟩, ⟨"--c", 31, false⟩], none⟩ := by
  have hw : nestedValue.WellFormed := by
    simp only [nestedValue, Written.WellFormed, WrittenCall.WellFormed, Pieces.WellFormed, and_true]
    decide
  have hno : ∀ front (m : ImportantMark), nestedValue.text ≠ front ++ m.text :=
    Value.dropImportant_eq_self_iff.1 (by decide)
  obtain ⟨h, hm, -⟩ := Value.parse_text nestedValue hw
  exact ⟨hw, by decide, h hno, hm capitalMark⟩

end BeamLint
