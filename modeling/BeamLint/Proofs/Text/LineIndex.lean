import BeamLint.Text.Position
import Mathlib

/-!
# The line of a place

Cut at a place, the table of line starts falls into two parts: the starts of the lines of the text
in front, and those of the lines that begin behind the place. Halving finds the seam
(`insertionPoint_eq`), so the line of a place is one more than the line feeds in front of it, and
its column counts from the last of them (`position_eq`).
-/

namespace BeamLint.Text

/-- Where the line that holds the place `offset` starts. -/
def lineStart (text : List Char) (offset : Nat) : Nat :=
  let before := text.take offset
  before.length - (before.reverse.takeWhile (· ≠ '\n')).length

/-- Behind the last line feed there is none. -/
theorem exists_lastLine (before : List Char) :
    ∃ front line, before = front ++ line ∧
      front.length = before.length - (before.reverse.takeWhile (· ≠ '\n')).length ∧
      '\n' ∉ line ∧ (front = [] ∨ front.getLast? = some '\n') := by
  induction before using List.reverseRecOn with
  | nil => exact ⟨[], [], rfl, rfl, List.not_mem_nil, Or.inl rfl⟩
  | append_singleton before c ih =>
    rw [List.reverse_append, List.reverse_singleton, List.singleton_append, List.length_append,
      List.length_singleton]
    by_cases hc : c = '\n'
    · refine ⟨before ++ [c], [], by simp, ?_, List.not_mem_nil, Or.inr (by simp [hc])⟩
      rw [List.takeWhile_cons_of_neg (by simpa using hc)]
      simp
    · obtain ⟨front, line, rfl, hlen, hline, hfront⟩ := ih
      refine ⟨front, line ++ [c], by simp, ?_, by simp [hline, Ne.symm hc], hfront⟩
      rw [List.takeWhile_cons_of_pos (by simpa using hc), List.length_cons, hlen]
      omega

/-! ### The table of line starts -/

theorem lineEndsFrom_append (i : Nat) (a b : List Char) :
    lineEndsFrom i (a ++ b) = lineEndsFrom i a ++ lineEndsFrom (i + a.length) b := by
  induction a generalizing i with
  | nil => rfl
  | cons c a ih =>
    have hi : i + (c :: a).length = i + 1 + a.length := by
      rw [List.length_cons]
      omega
    rw [List.cons_append, lineEndsFrom, lineEndsFrom, ih, hi]
    split_ifs <;> rfl

theorem length_lineEndsFrom (i : Nat) (text : List Char) :
    (lineEndsFrom i text).length = text.count '\n' := by
  induction text generalizing i with
  | nil => rfl
  | cons c text ih =>
    rw [lineEndsFrom, List.count_cons]
    split_ifs <;> simp_all

/-- A line starts behind the line feed that ends the one before. -/
theorem lt_of_mem_lineEndsFrom {i s : Nat} {text : List Char} (h : s ∈ lineEndsFrom i text) :
    i < s ∧ s ≤ i + text.length := by
  induction text generalizing i with
  | nil => simp [lineEndsFrom] at h
  | cons c text ih =>
    have hlater (h : s ∈ lineEndsFrom (i + 1) text) : i < s ∧ s ≤ i + (c :: text).length := by
      have := ih h
      rw [List.length_cons]
      omega
    rw [lineEndsFrom] at h
    split_ifs at h
    · rcases List.mem_cons.1 h with rfl | h
      · simp
      · exact hlater h
    · exact hlater h

theorem lineEndsFrom_eq_nil {i : Nat} {text : List Char} (h : '\n' ∉ text) :
    lineEndsFrom i text = [] := by
  rw [← List.length_eq_zero_iff, length_lineEndsFrom, List.count_eq_zero.2 h]

/-- The last line starts behind the last line feed. -/
theorem getLast?_lineEndsFrom (i : Nat) (text : List Char) :
    (i :: lineEndsFrom i text).getLast? =
      some (i + (text.length - (text.reverse.takeWhile (· ≠ '\n')).length)) := by
  obtain ⟨front, line, rfl, hlen, hline, hlast⟩ := exists_lastLine text
  rw [lineEndsFrom_append, lineEndsFrom_eq_nil hline, List.append_nil, ← hlen]
  rcases hlast with rfl | hlast
  · rfl
  · obtain ⟨front, rfl⟩ := List.getLast?_eq_some_iff.1 hlast
    rw [lineEndsFrom_append, ← List.cons_append, List.getLast?_append]
    simp [lineEndsFrom, Nat.add_assoc]

/-! ### Halving -/

-- The seam stays between `lo` and `hi`, whichever half is dropped.
theorem insertionPoint_eq {table : Array Nat} {below above : List Nat} {x lo hi : Nat}
    (h : hi ≤ table.size) (ht : table.toList = below ++ above) (hb : ∀ s ∈ below, s ≤ x)
    (ha : ∀ s ∈ above, x < s) (hlo : lo ≤ below.length) (hhi : below.length ≤ hi) :
    insertionPoint table x lo hi h = below.length := by
  fun_induction insertionPoint table x lo hi h with
  | case1 lo hi h hlt mid hx ih =>
    refine ih hlo ?_
    by_contra hmid
    have hmem : table[mid] ∈ below := by
      have e : table.toList[mid]? = some table[mid] := by simp
      rw [ht, List.getElem?_append_left (by omega)] at e
      exact List.mem_of_getElem? e
    exact absurd (hb _ hmem) (by omega)
  | case2 lo hi h hlt mid hx ih =>
    refine ih ?_ hhi
    by_contra hmid
    have hmem : table[mid] ∈ above := by
      have e : table.toList[mid]? = some table[mid] := by simp
      rw [ht, List.getElem?_append_right (by omega)] at e
      exact List.mem_of_getElem? e
    exact hx (ha _ hmem)
  | case3 lo hi h hlt => omega

/-! ### Cut at a place -/

/-- The starts of the lines in front of a place come first in the table. -/
theorem starts_ofText (text : List Char) (offset : Nat) :
    (LineIndex.ofText text).starts.toList =
      (0 :: lineEndsFrom 0 (text.take offset)) ++
        lineEndsFrom (text.take offset).length (text.drop offset) := by
  have h := lineEndsFrom_append 0 (text.take offset) (text.drop offset)
  rw [List.take_append_drop, Nat.zero_add] at h
  exact congrArg (0 :: ·) h

/-- Halving finds the number of lines that start at the place or in front of it. -/
theorem insertionPoint_starts (text : List Char) (offset : Nat) :
    let starts := (LineIndex.ofText text).starts
    insertionPoint starts offset 0 starts.size le_rfl = (text.take offset).count '\n' + 1 := by
  intro starts
  have hsplit := starts_ofText text offset
  have hlen : (text.take offset).length = min offset text.length := List.length_take
  have hbelow : ∀ s ∈ 0 :: lineEndsFrom 0 (text.take offset), s ≤ offset := by
    refine List.forall_mem_cons.2 ⟨Nat.zero_le _, fun s hs => ?_⟩
    have := lt_of_mem_lineEndsFrom hs
    omega
  have habove : ∀ s ∈ lineEndsFrom (text.take offset).length (text.drop offset), offset < s := by
    intro s hs
    have hlt := lt_of_mem_lineEndsFrom hs
    rw [List.length_drop] at hlt
    omega
  have hle : (0 :: lineEndsFrom 0 (text.take offset)).length ≤
      (LineIndex.ofText text).starts.size := by
    have hsize := congrArg List.length hsplit
    rw [Array.length_toList, List.length_append] at hsize
    omega
  rw [insertionPoint_eq le_rfl hsplit hbelow habove (Nat.zero_le _) hle, List.length_cons,
    length_lineEndsFrom]

/-- The table tells where the line of a place starts. -/
theorem getElem?_starts (text : List Char) (offset : Nat) :
    (LineIndex.ofText text).starts[(text.take offset).count '\n']? =
      some (lineStart text offset) := by
  have hlen : (0 :: lineEndsFrom 0 (text.take offset)).length =
      (text.take offset).count '\n' + 1 := by
    rw [List.length_cons, length_lineEndsFrom]
  have hlast := getLast?_lineEndsFrom 0 (text.take offset)
  rw [List.getLast?_eq_getElem?, hlen, Nat.add_sub_cancel, Nat.zero_add] at hlast
  rw [← Array.getElem?_toList, starts_ofText text offset, List.getElem?_append_left (by omega),
    hlast]
  rfl

/-- The position of a place is told by the text in front of it. -/
theorem position_eq (text : List Char) (offset : Nat) :
    position text offset =
      ⟨(text.take offset).count '\n' + 1, offset - lineStart text offset + 1⟩ := by
  obtain ⟨_, hstart⟩ := Array.getElem?_eq_some_iff.1 (getElem?_starts text offset)
  unfold position LineIndex.position
  simp only [insertionPoint_starts, Nat.add_sub_cancel, hstart]

end BeamLint.Text
