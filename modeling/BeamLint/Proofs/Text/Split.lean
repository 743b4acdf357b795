import BeamLint.Proofs.Text.Position

/-!
# Splitting a text at a mark

The first piece of a text ends at its first mark. What stands before the first mark belongs to the
first piece, and the pieces after it are those of what follows the mark.

The pieces are those of the library (`splitOn_eq`): put together with marks between them they are
the text again, no piece holds a mark, and there is one piece more than there are marks.
-/

namespace BeamLint.Text

variable {mark : Char} {front text : List Char}

/-- A text without marks in front only makes the first piece longer. -/
theorem splitOn_append {piece : List Char} {pieces : List (List Char)} (hf : mark ∉ front)
    (h : splitOn mark text = piece :: pieces) :
    splitOn mark (front ++ text) = (front ++ piece) :: pieces := by
  induction front with
  | nil => exact h
  | cons c front ih =>
    rw [List.mem_cons, not_or] at hf
    rw [List.cons_append, splitOn, ih hf.2]
    simp [Ne.symm hf.1]

theorem splitOn_of_notMem (h : mark ∉ text) : splitOn mark text = [text] := by
  simpa using splitOn_append h (show splitOn mark [] = [[]] from rfl)

theorem splitOn_append_mark (hf : mark ∉ front) :
    splitOn mark (front ++ mark :: text) = front :: splitOn mark text := by
  obtain ⟨piece, pieces, h⟩ := exists_splitOn_eq_cons mark text
  have hm : splitOn mark (mark :: text) = [] :: splitOn mark text := by simp [splitOn, h]
  simpa using splitOn_append hf hm

/-- Either there is no mark, or the text is cut at the first one. -/
theorem splitOn_cases (mark : Char) (text : List Char) :
    (mark ∉ text ∧ splitOn mark text = [text]) ∨
      ∃ front rest, text = front ++ mark :: rest ∧ mark ∉ front ∧
        splitOn mark text = front :: splitOn mark rest := by
  by_cases h : mark ∈ text
  · obtain ⟨front, rest, rfl, hf⟩ := List.eq_append_cons_of_mem h
    exact Or.inr ⟨front, rest, rfl, hf, splitOn_append_mark hf⟩
  · exact Or.inl ⟨h, splitOn_of_notMem h⟩

/-! ### All pieces -/

theorem splitOn_eq (mark : Char) (text : List Char) : splitOn mark text = text.splitOn mark := by
  induction text with
  | nil => rfl
  | cons c text ih =>
    obtain ⟨piece, pieces, h⟩ := exists_splitOn_eq_cons mark text
    rw [List.splitOn_cons_eq_if_modifyHead, ← ih, splitOn, h]
    by_cases hc : c = mark <;> simp [hc]

theorem intercalate_splitOn (mark : Char) (text : List Char) :
    [mark].intercalate (splitOn mark text) = text := by
  rw [splitOn_eq, List.intercalate_splitOn]

theorem splitOn_intercalate {pieces : List (List Char)} (h : ∀ piece ∈ pieces, mark ∉ piece)
    (hne : pieces ≠ []) : splitOn mark ([mark].intercalate pieces) = pieces := by
  rw [splitOn_eq, List.splitOn_intercalate mark h hne]

theorem length_splitOn (mark : Char) (text : List Char) :
    (splitOn mark text).length = text.count mark + 1 := by
  induction text with
  | nil => rfl
  | cons c text ih =>
    obtain ⟨piece, pieces, h⟩ := exists_splitOn_eq_cons mark text
    rw [h, List.length_cons] at ih
    rw [splitOn, h, List.count_cons]
    by_cases hc : c = mark
    · simp [hc]
      omega
    · simp [hc]
      omega

/-- A piece stands in the text, between the marks. -/
theorem isInfix_of_mem_splitOn {piece : List Char} (h : piece ∈ splitOn mark text) :
    piece <:+: text ∧ mark ∉ piece := by
  induction hn : text.length using Nat.strong_induction_on generalizing text with
  | _ n ih =>
    rcases splitOn_cases mark text with ⟨hm, e⟩ | ⟨front, rest, rfl, hf, e⟩
    · rw [e, List.mem_singleton] at h
      subst h
      exact ⟨List.infix_rfl, hm⟩
    · rw [e, List.mem_cons] at h
      rcases h with rfl | h
      · exact ⟨(List.prefix_append _ _).isInfix, hf⟩
      · have hlt : rest.length < n := by
          rw [← hn, List.length_append, List.length_cons]
          omega
        obtain ⟨hi, hm⟩ := ih rest.length hlt h rfl
        exact ⟨hi.trans ⟨front ++ [mark], [], by simp⟩, hm⟩

end BeamLint.Text
