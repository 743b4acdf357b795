/-!
# Positions in a text

A place in a text is told to a reader as a line and a column, both counted from one. Only a line
feed ends a line, and columns count characters. The places where the lines start are looked up once
for a text; the line of a place is then found among them by halving.
-/

namespace BeamLint.Text

/-- A line and a column, both counted from one. -/
structure Position where
  line : Nat
  column : Nat
  deriving Repr, DecidableEq

/-- The places right behind the line ends of a text that stands at place `i`. -/
def lineEndsFrom (i : Nat) : List Char → List Nat
  | [] => []
  | c :: rest =>
    if c = '\n' then (i + 1) :: lineEndsFrom (i + 1) rest else lineEndsFrom (i + 1) rest

/-- How many entries of an increasing table are at most `x`, when those before place `lo` are and
those from place `hi` on are not. -/
def insertionPoint (table : Array Nat) (x lo hi : Nat) (h : hi ≤ table.size) : Nat :=
  if _hlt : lo < hi then
    let mid := (lo + hi) / 2
    if x < table[mid] then insertionPoint table x lo mid (by omega)
    else insertionPoint table x (mid + 1) hi h
  else lo
termination_by hi - lo

theorem insertionPoint_le {table : Array Nat} {x lo hi : Nat} (h : hi ≤ table.size)
    (hlo : lo ≤ hi) : insertionPoint table x lo hi h ≤ hi := by
  fun_induction insertionPoint table x lo hi h with
  | case1 lo hi h hlt mid hx ih =>
    have hmid : lo ≤ mid ∧ mid ≤ hi := by omega
    exact Nat.le_trans (ih hmid.1) hmid.2
  | case2 lo hi h hlt mid hx ih => exact ih (by omega)
  | case3 => exact hlo

/-- Where the lines of a text start, in increasing order; there is a first line. -/
structure LineIndex where
  starts : Array Nat
  nonempty : 0 < starts.size

namespace LineIndex

/-- The lines of a text. -/
def ofText (text : List Char) : LineIndex where
  starts := (0 :: lineEndsFrom 0 text).toArray
  nonempty := by simp

/-- The position of the place `offset`. -/
def position (index : LineIndex) (offset : Nat) : Position :=
  let line := insertionPoint index.starts offset 0 index.starts.size (Nat.le_refl _)
  have hline : line - 1 < index.starts.size := by
    have hle : line ≤ index.starts.size := insertionPoint_le (Nat.le_refl _) (Nat.zero_le _)
    have := index.nonempty
    omega
  { line, column := offset - index.starts[line - 1] + 1 }

end LineIndex

/-- The position of the place `offset` in a text. -/
def position (text : List Char) (offset : Nat) : Position := (LineIndex.ofText text).position offset

end BeamLint.Text
