import BeamLint.Proofs.Value.Grammar
import Mathlib

/-!
# The mark at the end of a value

A mark is written in whatever case, with blanks before it, after it and between its parts. Dropping
it takes the blanks before it along, and where a text does not end in a mark nothing is dropped
(`dropImportant_eq_self_iff`).
-/

namespace BeamLint

open Text

/-- An `!important` mark, in whatever case, with blanks before it, after it and between its
parts. -/
structure ImportantMark where
  lead : Blanks
  gap : Blanks
  word : List Char
  spelled : List.Forall₂ (fun letter c => isLetter letter c)
    ['i', 'm', 'p', 'o', 'r', 't', 'a', 'n', 't'] word
  trail : Blanks

/-- How a mark is written. -/
def ImportantMark.text (m : ImportantMark) : List Char :=
  m.lead.text ++ '!' :: (m.gap.text ++ (m.word ++ m.trail.text))

/-- What follows a word that is met, letter by letter. -/
theorem dropWord?_eq_some_iff {word text rest : List Char} :
    dropWord? word text = some rest ↔
      ∃ front, List.Forall₂ (fun letter c => isLetter letter c) word front ∧
        text = front ++ rest := by
  induction word generalizing text with
  | nil =>
    simp only [dropWord?, Option.some.injEq, List.forall₂_nil_left_iff, exists_eq_left,
      List.nil_append]
  | cons letter word ih =>
    cases text with
    | nil =>
      simp only [dropWord?, reduceCtorEq, false_iff, not_exists, not_and]
      rintro front hf e
      cases hf
      simp at e
    | cons c text =>
      rw [dropWord?]
      constructor
      · intro h
        split at h
        · next hc =>
          obtain ⟨front, hf, rfl⟩ := ih.1 h
          exact ⟨c :: front, .cons hc hf, rfl⟩
        · contradiction
      · rintro ⟨front, hf, e⟩
        cases hf with
        | cons hc hf =>
          obtain ⟨rfl, rfl⟩ := List.cons.inj e
          rw [if_pos hc]
          exact ih.2 ⟨_, hf, rfl⟩

/-- A blank is no letter, in whatever case. -/
theorem isBlank_of_isLetter {letter c : Char} (hl : isBlank letter = false)
    (h : isLetter letter c) : isBlank c = false := by
  by_contra hb
  have hb : isBlank c = true := by simpa using hb
  have hlower : c.toLower = c := by
    have hc : ¬ (65 ≤ c.toNat ∧ c.toNat ≤ 90) := by
      simp only [isBlank, Bool.or_eq_true, Bool.and_eq_true, decide_eq_true_eq, beq_iff_eq] at hb
      omega
    unfold Char.toLower
    split
    · next h => exact absurd ⟨h.1, h.2⟩ hc
    · rfl
  simp only [isLetter, hlower, Bool.or_eq_true, Bool.and_eq_true, beq_iff_eq] at h
  rcases h with (rfl | ⟨-, rfl⟩) | ⟨-, rfl | rfl⟩
  · simp [hl] at hb
  · exact absurd hb (by decide)
  · exact absurd hb (by decide)
  · exact absurd hb (by decide)

namespace Value

/-- What is left without the mark. -/
theorem dropImportant_append_mark (text : List Char) (m : ImportantMark) :
    dropImportant (text ++ m.text) = trimRight text := by
  have hreverse : (text ++ m.text).reverse = m.trail.text.reverse ++ (m.word.reverse ++
      (m.gap.text.reverse ++ '!' :: (m.lead.text.reverse ++ text.reverse))) := by
    simp [ImportantMark.text]
  have hspelled : List.Forall₂ (fun letter c => isLetter letter c)
      ['t', 'n', 'a', 't', 'r', 'o', 'p', 'm', 'i'] m.word.reverse := List.rel_reverse m.spelled
  have htrail : trimLeft (text ++ m.text).reverse = m.word.reverse ++
      (m.gap.text.reverse ++ '!' :: (m.lead.text.reverse ++ text.reverse)) := by
    rw [hreverse, trimLeft_append (isAllBlank_reverse m.trail.blank)]
    cases hw : m.word.reverse with
    | nil => simp [hw] at hspelled
    | cons c word =>
      rw [hw, List.forall₂_cons] at hspelled
      rw [trimLeft, List.cons_append, List.dropWhile_cons_of_neg]
      simp [isBlank_of_isLetter (by decide) hspelled.1]
  have hword : dropWord? ['t', 'n', 'a', 't', 'r', 'o', 'p', 'm', 'i']
      (m.word.reverse ++ (m.gap.text.reverse ++ '!' :: (m.lead.text.reverse ++ text.reverse))) =
      some (m.gap.text.reverse ++ '!' :: (m.lead.text.reverse ++ text.reverse)) :=
    dropWord?_eq_some_iff.2 ⟨_, hspelled, rfl⟩
  have hgap : trimLeft (m.gap.text.reverse ++ '!' :: (m.lead.text.reverse ++ text.reverse)) =
      '!' :: (m.lead.text.reverse ++ text.reverse) := by
    rw [trimLeft_append (isAllBlank_reverse m.gap.blank), trimLeft, List.dropWhile_cons_of_neg]
    decide
  unfold dropImportant
  rw [trimLeft] at htrail hgap
  dsimp only
  rw [htrail, hword]
  dsimp only
  rw [hgap]
  exact congrArg List.reverse (trimLeft_append (isAllBlank_reverse m.lead.blank) text.reverse)

/-- Nothing is dropped exactly where there is no mark. -/
theorem dropImportant_eq_self_iff {text : List Char} :
    dropImportant text = text ↔ ∀ front (m : ImportantMark), text ≠ front ++ m.text := by
  constructor
  · rintro h front m rfl
    have hlength := congrArg List.length h
    have hle := (trimRight_isPrefix front).length_le
    rw [dropImportant_append_mark] at hlength
    simp only [ImportantMark.text, List.length_append, List.length_cons] at hlength
    omega
  · intro h
    unfold dropImportant
    dsimp only
    split
    · rfl
    · next rest hw =>
      split
      · next last hl =>
        obtain ⟨word, hf, e⟩ := dropWord?_eq_some_iff.1 hw
        -- Read backwards, the text is the blanks after the word, the word, the blanks before it,
        -- the exclamation mark and what is left.
        have hreverse : text.reverse = text.reverse.takeWhile isBlank ++
            (word ++ (rest.takeWhile isBlank ++ '!' :: last)) := by
          rw [← hl, List.takeWhile_append_dropWhile, ← e, List.takeWhile_append_dropWhile]
        let m : ImportantMark :=
          { lead := ⟨[], rfl⟩
            gap := ⟨_, isAllBlank_reverse (isAllBlank_takeWhile rest)⟩
            word := word.reverse
            spelled := List.rel_reverse hf
            trail := ⟨_, isAllBlank_reverse (isAllBlank_takeWhile text.reverse)⟩ }
        refine absurd ?_ (h last.reverse m)
        rw [← List.reverse_reverse text, hreverse]
        simp [m, ImportantMark.text]
      · rfl

end Value

end BeamLint
