import BeamLint.Text.Position

/-!
# Locations

A location is a file with a line and a column, both counted from one. Line and column zero stand
for the file as a whole.
-/

namespace BeamLint

/-- A position in a file. -/
structure Location where
  file : String
  line : Int
  column : Int
  deriving Repr, DecidableEq

namespace Location

/-- The file as a whole. -/
def wholeFile (file : String) : Location := ⟨file, 0, 0⟩

/-- The location of the place `offset` in the text of `file`. -/
def ofOffset (file : String) (text : List Char) (offset : Nat) : Location :=
  let p := Text.position text offset
  ⟨file, p.line, p.column⟩

/-- How a location is written in a report. -/
def render (l : Location) : String := s!"{l.file}:{l.line}:{l.column}"

end Location

end BeamLint
