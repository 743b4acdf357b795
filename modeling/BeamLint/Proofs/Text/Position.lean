import BeamLint.Location
import BeamLint.Proofs.Text.LineIndex
import BeamLint.Text.Search
import Mathlib

/-!
# From positions back to places

A position tells its place: the lines before it, with their line ends, and the columns before it in
its own line (`offsetOf`). Every place of a text, its end included, is recovered from its position,
so different places have different positions.
-/

namespace BeamLint

namespace Text

/-- The place that a position tells. -/
def offsetOf (text : List Char) (p : Position) : Nat :=
  (((splitOn '\n' text).take (p.line - 1)).map fun line => line.length + 1).sum + (p.column - 1)

theorem exists_splitOn_eq_cons (mark : Char) (text : List Char) :
    ∃ piece pieces, splitOn mark text = piece :: pieces := by
  induction text with
  | nil => exact ⟨[], [], rfl⟩
  | cons c rest ih =>
    obtain ⟨piece, pieces, h⟩ := ih
    rw [splitOn, h]
    dsimp only
    split
    · exact ⟨[], piece :: pieces, rfl⟩
    · exact ⟨c :: piece, pieces, rfl⟩

/-! ### How positions move with the text -/

@[simp] theorem position_zero (text : List Char) : position text 0 = ⟨1, 1⟩ := by
  simp [position_eq, lineStart]

theorem line_pos (text : List Char) (offset : Nat) : 0 < (position text offset).line := by
  simp [position_eq]

theorem column_pos (text : List Char) (offset : Nat) : 0 < (position text offset).column := by
  simp [position_eq]

/-- A column counts the characters since the last line end. -/
theorem column_eq {text : List Char} {offset : Nat} (h : offset ≤ text.length) :
    (position text offset).column =
      ((text.take offset).reverse.takeWhile (· ≠ '\n')).length + 1 := by
  have hle : ((text.take offset).reverse.takeWhile (· ≠ '\n')).length ≤ offset := by
    have := (List.takeWhile_sublist (l := (text.take offset).reverse) (· ≠ '\n')).length_le
    rw [List.length_reverse, List.length_take] at this
    omega
  have hlen : (text.take offset).length = offset := List.length_take_of_le h
  simp only [position_eq, lineStart, hlen]
  omega

theorem line_eq_one_iff {text : List Char} {offset : Nat} :
    (position text offset).line = 1 ↔
      (text.take offset).reverse.takeWhile (· ≠ '\n') = (text.take offset).reverse := by
  rw [List.takeWhile_eq_self_iff]
  simp only [position_eq, Nat.add_eq_right, List.count_eq_zero, List.mem_reverse, decide_eq_true_eq]
  exact ⟨fun h c hc e => h (e ▸ hc), fun h hm => h _ hm rfl⟩

/-- A line end in front moves a position to the next line. -/
theorem position_newline (rest : List Char) (offset : Nat) (h : offset ≤ rest.length) :
    position ('\n' :: rest) (offset + 1) =
      ⟨(position rest offset).line + 1, (position rest offset).column⟩ := by
  have hline : (position ('\n' :: rest) (offset + 1)).line = (position rest offset).line + 1 := by
    simp [position_eq]
  have hcol : (position ('\n' :: rest) (offset + 1)).column = (position rest offset).column := by
    rw [column_eq (by simpa using h), column_eq h, List.take_succ_cons, List.reverse_cons,
      List.takeWhile_append]
    split
    · next he => rw [he, List.takeWhile_cons_of_neg (by simp), List.append_nil]
    · rfl
  rw [← hline, ← hcol]

/-- Any other character in front moves the positions of the first line by a column. -/
theorem position_cons {c : Char} (hc : c ≠ '\n') (rest : List Char) (offset : Nat)
    (h : offset ≤ rest.length) :
    position (c :: rest) (offset + 1) =
      if (position rest offset).line = 1 then ⟨1, (position rest offset).column + 1⟩
      else position rest offset := by
  have hline : (position (c :: rest) (offset + 1)).line = (position rest offset).line := by
    simp [position_eq, hc]
  have hcol : (position (c :: rest) (offset + 1)).column =
      if (position rest offset).line = 1 then (position rest offset).column + 1
      else (position rest offset).column := by
    rw [column_eq (by simpa using h), column_eq h, List.take_succ_cons, List.reverse_cons,
      List.takeWhile_append]
    by_cases h1 : (position rest offset).line = 1
    · rw [if_pos h1, line_eq_one_iff.1 h1]
      simp [hc]
    · rw [if_neg h1, if_neg fun e => h1 (line_eq_one_iff.2 ?_)]
      exact (List.takeWhile_prefix _).eq_of_length e
  rcases hp : position (c :: rest) (offset + 1) with ⟨line, column⟩
  rw [hp] at hline hcol
  dsimp only at hline hcol
  split
  · next h1 => rw [hcol, hline, h1, if_pos rfl]
  · next h1 => rw [hcol, hline, if_neg h1]

/-! ### Back to the place -/

theorem offsetOf_newline (rest : List Char) {line column : Nat} (h : 0 < line) :
    offsetOf ('\n' :: rest) ⟨line + 1, column⟩ = offsetOf rest ⟨line, column⟩ + 1 := by
  obtain ⟨piece, pieces, hs⟩ := exists_splitOn_eq_cons '\n' rest
  obtain ⟨n, rfl⟩ := Nat.exists_eq_add_of_le' h
  simp [offsetOf, splitOn, hs]
  omega

theorem offsetOf_cons_first (c : Char) (rest : List Char) {column : Nat}
    (h : 0 < column) :
    offsetOf (c :: rest) ⟨1, column + 1⟩ = offsetOf rest ⟨1, column⟩ + 1 := by
  simp [offsetOf]
  omega

theorem offsetOf_cons_later {c : Char} (hc : c ≠ '\n') (rest : List Char) {line column : Nat}
    (h : 1 < line) : offsetOf (c :: rest) ⟨line, column⟩ = offsetOf rest ⟨line, column⟩ + 1 := by
  obtain ⟨piece, pieces, hs⟩ := exists_splitOn_eq_cons '\n' rest
  obtain ⟨n, rfl⟩ := Nat.exists_eq_add_of_le' h
  simp [offsetOf, splitOn, hs, hc]
  omega

/-- Every place of a text is recovered from its position. -/
theorem offsetOf_position (text : List Char) (offset : Nat) (h : offset ≤ text.length) :
    offsetOf text (position text offset) = offset := by
  induction text generalizing offset with
  | nil =>
    obtain rfl : offset = 0 := by simpa using h
    simp [offsetOf]
  | cons c rest ih =>
    cases offset with
    | zero => simp [offsetOf]
    | succ offset =>
      have hle : offset ≤ rest.length := by simpa using h
      have hl := line_pos rest offset
      have hp := ih offset hle
      by_cases hc : c = '\n'
      · rw [hc, position_newline rest offset hle, offsetOf_newline rest hl, hp]
      · rw [position_cons hc rest offset hle]
        split
        · next h1 =>
          rw [offsetOf_cons_first c rest (column_pos rest offset), ← h1, hp]
        · next h1 => rw [offsetOf_cons_later hc rest (by omega), hp]

end Text

namespace Location

/-- The place in the text that a location tells. -/
def place (l : Location) (text : List Char) : Nat :=
  Text.offsetOf text ⟨l.line.toNat, l.column.toNat⟩

@[simp] theorem place_ofOffset (file : String) (text : List Char) (offset : Nat)
    (h : offset ≤ text.length) : (ofOffset file text offset).place text = offset := by
  simpa [place, ofOffset] using Text.offsetOf_position text offset h

theorem ofOffset_inj {file : String} {text : List Char} {a b : Nat} (ha : a ≤ text.length)
    (hb : b ≤ text.length) : ofOffset file text a = ofOffset file text b ↔ a = b := by
  refine ⟨fun h => ?_, fun h => h ▸ rfl⟩
  have := congrArg (·.place text) h
  simpa [ha, hb] using this

end Location

end BeamLint
