import BeamLint.Proofs.Text.Position
import Mathlib

/-!
# Places and positions stand in the same order

The column of a place counts from the start of its line, which the table of line starts tells
(`startsLine_lineStart`). So places of one line are ordered as their columns are, and of two places
on different lines the one on the earlier line comes first (`lt_iff_position_lt`). The positions of the
places of a text, its end included, are those that one of its lines has room for
(`exists_position_iff`).
-/

namespace BeamLint

namespace Text

variable {text : List Char} {k : Nat}

/-- `start` is where the line of the place `k` starts: right behind a line feed, or at the beginning
of the text, and no line feed stands between it and `k`. -/
structure StartsLine (text : List Char) (start k : Nat) : Prop where
  le : start ≤ k
  first : start = 0 ∨ text[start - 1]? = some '\n'
  unbroken : ∀ j, start ≤ j → j < k → text[j]? ≠ some '\n'

theorem startsLine_lineStart (h : k ≤ text.length) : StartsLine text (lineStart text k) k := by
  have hlen : (text.take k).length = k := List.length_take_of_le h
  obtain ⟨front, line, hsplit, hfront, hline, hlast⟩ := exists_lastLine (text.take k)
  have hstart : lineStart text k = front.length := hfront.symm
  have hk : k = front.length + line.length := by rw [← hlen, hsplit, List.length_append]
  have hget {j : Nat} (hj : j < k) : text[j]? = (front ++ line)[j]? := by
    rw [← hsplit, List.getElem?_take_of_lt hj]
  rw [hstart]
  refine ⟨by omega, ?_, fun j hle hj he => hline ?_⟩
  · rcases hlast with rfl | hlast
    · exact Or.inl rfl
    · rw [List.getLast?_eq_getElem?] at hlast
      have hpos : front.length - 1 < front.length := (List.getElem?_eq_some_iff.1 hlast).1
      exact Or.inr (by rw [hget (by omega), List.getElem?_append_left hpos, hlast])
  · rw [hget hj, List.getElem?_append_right hle] at he
    exact List.mem_of_getElem? he

/-! ### Order -/

/-- Later places do not stand on earlier lines, and places of one line count from the same start. -/
theorem position_lt_of_lt {k' : Nat} (h : k < k') (hk' : k' ≤ text.length) :
    toLex ((position text k).line, (position text k).column) <
      toLex ((position text k').line, (position text k').column) := by
  have hcount : (text.take k).count '\n' ≤ (text.take k').count '\n' :=
    (List.take_prefix_take_left (by omega)).sublist.count_le '\n'
  simp only [Prod.Lex.toLex_lt_toLex, position_eq]
  rcases Nat.lt_or_eq_of_le hcount with hlt | heq
  · exact Or.inl (by omega)
  · have hstart : lineStart text k = lineStart text k' := by
      have hget := getElem?_starts text k
      rw [heq, getElem?_starts] at hget
      exact (Option.some.inj hget).symm
    have hle := (startsLine_lineStart (h.le.trans hk')).le
    exact Or.inr ⟨by omega, by omega⟩

theorem lt_iff_position_lt {k' : Nat} (hk : k ≤ text.length) (hk' : k' ≤ text.length) :
    k < k' ↔ toLex ((position text k).line, (position text k).column) <
      toLex ((position text k').line, (position text k').column) := by
  refine ⟨fun h => position_lt_of_lt h hk', fun h => ?_⟩
  rcases Nat.lt_trichotomy k k' with hlt | rfl | hlt
  · exact hlt
  · exact absurd h (lt_irrefl _)
  · exact absurd h (position_lt_of_lt hlt hk).asymm

/-! ### All positions of a text -/

/-- A line of the text has room for the position; the end of a line counts as a place of it. -/
structure Position.FitsIn (p : Position) (text : List Char) : Prop where
  line_pos : 0 < p.line
  column_pos : 0 < p.column
  room : ∃ line, (splitOn '\n' text)[p.line - 1]? = some line ∧ p.column ≤ line.length + 1

theorem fitsIn_newline {rest : List Char} {line column : Nat} :
    (⟨line + 2, column⟩ : Position).FitsIn ('\n' :: rest) ↔
      (⟨line + 1, column⟩ : Position).FitsIn rest := by
  obtain ⟨piece, pieces, hs⟩ := exists_splitOn_eq_cons '\n' rest
  constructor <;> rintro ⟨-, hc, hroom⟩ <;>
    exact ⟨Nat.succ_pos _, hc, by simpa [splitOn, hs] using hroom⟩

theorem fitsIn_cons_first {c : Char} (hc : c ≠ '\n') {rest : List Char} {column : Nat} :
    (⟨1, column + 2⟩ : Position).FitsIn (c :: rest) ↔
      (⟨1, column + 1⟩ : Position).FitsIn rest := by
  obtain ⟨piece, pieces, hs⟩ := exists_splitOn_eq_cons '\n' rest
  constructor <;> rintro ⟨hl, -, hroom⟩ <;>
    exact ⟨hl, Nat.succ_pos _, by simpa [splitOn, hs, hc] using hroom⟩

theorem fitsIn_cons_later {c : Char} (hc : c ≠ '\n') {rest : List Char} {line column : Nat} :
    (⟨line + 2, column⟩ : Position).FitsIn (c :: rest) ↔
      (⟨line + 2, column⟩ : Position).FitsIn rest := by
  obtain ⟨piece, pieces, hs⟩ := exists_splitOn_eq_cons '\n' rest
  constructor <;> rintro ⟨hl, hcol, hroom⟩ <;>
    exact ⟨hl, hcol, by simpa [splitOn, hs, hc] using hroom⟩

theorem fitsIn_first (text : List Char) : (⟨1, 1⟩ : Position).FitsIn text := by
  obtain ⟨piece, pieces, hs⟩ := exists_splitOn_eq_cons '\n' text
  exact ⟨Nat.one_pos, Nat.one_pos, piece, by simp [hs], by simp⟩

/-- The position of a place in the text is one that a line has room for. -/
theorem fitsIn_position (h : k ≤ text.length) : (position text k).FitsIn text := by
  induction text generalizing k with
  | nil =>
    obtain rfl : k = 0 := by simpa using h
    rw [position_zero]
    exact fitsIn_first []
  | cons c rest ih =>
    cases k with
    | zero =>
      rw [position_zero]
      exact fitsIn_first _
    | succ k =>
      have hle : k ≤ rest.length := by simpa using h
      have hfit := ih hle
      rcases hp : position rest k with ⟨line, column⟩
      rw [hp] at hfit
      obtain ⟨line, rfl⟩ := Nat.exists_eq_add_of_le' hfit.line_pos
      obtain ⟨column, rfl⟩ := Nat.exists_eq_add_of_le' hfit.column_pos
      by_cases hc : c = '\n'
      · rw [hc, position_newline rest k hle, hp]
        exact fitsIn_newline.2 hfit
      · rw [position_cons hc rest k hle, hp]
        cases line with
        | zero => exact (fitsIn_cons_first hc).2 hfit
        | succ line => exact (fitsIn_cons_later hc).2 hfit

/-- A position that a line has room for is that of a place in the text. -/
theorem exists_of_fitsIn {p : Position} (h : p.FitsIn text) :
    ∃ k ≤ text.length, position text k = p := by
  obtain ⟨line, column⟩ := p
  obtain ⟨line, rfl⟩ := Nat.exists_eq_add_of_le' h.line_pos
  obtain ⟨column, rfl⟩ := Nat.exists_eq_add_of_le' h.column_pos
  induction text generalizing line column with
  | nil =>
    obtain ⟨line', hget, hcol⟩ := h.room
    obtain ⟨rfl, rfl⟩ : line = 0 ∧ [] = line' := by
      cases line <;> simp_all [splitOn]
    obtain rfl : column = 0 := by simpa using hcol
    exact ⟨0, le_rfl, position_zero _⟩
  | cons c rest ih =>
    by_cases hc : c = '\n'
    · subst hc
      cases line with
      | zero =>
        obtain ⟨piece, pieces, hs⟩ := exists_splitOn_eq_cons '\n' rest
        obtain rfl : column = 0 := by simpa [splitOn, hs] using h.room
        exact ⟨0, Nat.zero_le _, position_zero _⟩
      | succ line =>
        obtain ⟨k, hk, e⟩ := ih line column (fitsIn_newline.1 h)
        exact ⟨k + 1, by simpa using hk, by rw [position_newline rest k hk, e]⟩
    · cases line with
      | zero =>
        cases column with
        | zero => exact ⟨0, Nat.zero_le _, position_zero _⟩
        | succ column =>
          obtain ⟨k, hk, e⟩ := ih 0 column ((fitsIn_cons_first hc).1 h)
          exact ⟨k + 1, by simpa using hk, by rw [position_cons hc rest k hk, e]; rfl⟩
      | succ line =>
        obtain ⟨k, hk, e⟩ := ih (line + 1) column ((fitsIn_cons_later hc).1 h)
        refine ⟨k + 1, by simpa using hk, ?_⟩
        rw [position_cons hc rest k hk, e, if_neg (by simp)]

theorem exists_position_iff {p : Position} :
    (∃ k ≤ text.length, position text k = p) ↔ p.FitsIn text := by
  refine ⟨?_, exists_of_fitsIn⟩
  rintro ⟨k, hk, rfl⟩
  exact fitsIn_position hk

end Text

namespace Location

open Text

/-- The line of a place counts the line feeds in front of it, and its column the characters from the
start of that line, so that the start gives the place back. Places and their locations stand in the
same order, and the locations are those that the lines of the text have room for. -/
theorem ofOffset_strictMono_bijective (file : String) (text : List Char) :
    (∀ k ≤ text.length, ∃ start, StartsLine text start k ∧
      ofOffset file text k = ⟨file, 1 + (text.take k).count '\n', k - start + 1⟩ ∧
      (LineIndex.ofText text).starts[((ofOffset file text k).line - 1).toNat]? = some start ∧
      start + ((ofOffset file text k).column - 1) = k) ∧
    (∀ k ≤ text.length, ∀ k' ≤ text.length,
      k < k' ↔ toLex ((ofOffset file text k).line, (ofOffset file text k).column) <
        toLex ((ofOffset file text k').line, (ofOffset file text k').column)) ∧
    ∀ p : Position, p.FitsIn text ↔
      ∃ k ≤ text.length, ofOffset file text k = ⟨file, p.line, p.column⟩ := by
  refine ⟨fun k hk => ?_, fun k hk k' hk' => ?_, fun p => ?_⟩
  · have hstart := startsLine_lineStart hk
    have hle := hstart.le
    have hloc : ofOffset file text k =
        ⟨file, 1 + (text.take k).count '\n', k - lineStart text k + 1⟩ := by
      simp only [ofOffset, position_eq, Location.mk.injEq, true_and]
      omega
    refine ⟨lineStart text k, hstart, hloc, ?_, ?_⟩
    · rw [hloc, ← getElem?_starts text k]
      congr 1
      dsimp only
      omega
    · rw [hloc]
      dsimp only
      omega
  · rw [lt_iff_position_lt hk hk', Prod.Lex.toLex_lt_toLex, Prod.Lex.toLex_lt_toLex]
    simp [ofOffset]
  · rw [← exists_position_iff]
    obtain ⟨line, column⟩ := p
    refine exists_congr fun k => and_congr_right fun _ => ?_
    rcases hp : position text k with ⟨line', column'⟩
    simp [ofOffset, hp]

/-- Inside the second line, and at the end of a text that ends in a line feed. -/
theorem ofOffset_twoLines :
    let text := "ab\ncd\n".toList
    4 ≤ text.length ∧ 6 ≤ text.length ∧
      StartsLine text 3 4 ∧ ofOffset "f" text 4 = ⟨"f", 2, 2⟩ ∧
      StartsLine text 6 6 ∧ ofOffset "f" text 6 = ⟨"f", 3, 1⟩ ∧
      toLex ((2 : Int), (2 : Int)) < toLex ((3 : Int), (1 : Int)) := by
  intro text
  have h₄ : 4 ≤ text.length := by decide
  have h₆ : 6 ≤ text.length := by decide
  obtain ⟨hloc, hlt, -⟩ := ofOffset_strictMono_bijective "f" text
  obtain ⟨start₄, hs₄, e₄, hget₄, -⟩ := hloc 4 h₄
  obtain ⟨start₆, hs₆, e₆, hget₆, -⟩ := hloc 6 h₆
  have hstarts : (LineIndex.ofText text).starts = #[0, 3, 6] := by decide
  rw [e₄, hstarts] at hget₄
  rw [e₆, hstarts] at hget₆
  obtain rfl : 3 = start₄ := Option.some.inj hget₄
  obtain rfl : 6 = start₆ := Option.some.inj hget₆
  have hbefore := (hlt 4 h₄ 6 h₆).1 (by decide)
  rw [e₄, e₆] at hbefore
  exact ⟨h₄, h₆, hs₄, e₄, hs₆, e₆, hbefore⟩

end Location

end BeamLint
