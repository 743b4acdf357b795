/-!
# Case tables

A case mapping sends most characters to one other character, at a distance that is shared by
runs of neighbours, and a few to several characters.
-/

namespace BeamLint.Text

/-- The code points from `first` to `last`, `step` apart, each mapped `shift` further. -/
structure CaseShift where
  first : Nat
  last : Nat
  step : Nat
  shift : Int

/-- The image of `n`, when the run holds it. -/
def CaseShift.map? (s : CaseShift) (n : Nat) : Option Nat :=
  if s.first ≤ n && n ≤ s.last && (n - s.first) % s.step == 0 then some (n + s.shift).toNat
  else none

/-- A case mapping: runs with a common distance, and the characters that become several. -/
structure CaseTable where
  shifts : List CaseShift
  expansions : List (Nat × List Nat)

/-- The image of `c`, when the table changes or lists it. -/
def CaseTable.map? (t : CaseTable) (c : Char) : Option (List Char) :=
  match t.expansions.lookup c.toNat with
  | some codes => some (codes.map Char.ofNat)
  | none => (t.shifts.findSome? (·.map? c.toNat)).map fun n => [Char.ofNat n]

/-- The image of `c`; a character outside the table stays as it is. -/
def CaseTable.map (t : CaseTable) (c : Char) : List Char :=
  (t.map? c).getD [c]

end BeamLint.Text
