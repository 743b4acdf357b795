import BeamLint.Text.Blank
import BeamLint.Text.Search

/-!
# Words between blanks

A text is cut into words at its blanks, however many stand together.
-/

namespace BeamLint.Text

/-- Finds runs of blanks. -/
def blankRun : Recognizer Unit := fun _ text =>
  let blanks := text.takeWhile isBlank
  if blanks.isEmpty then none else some (blanks.length, ())

/-- The words of a text. -/
def words (text : List Char) : List (List Char) :=
  (chunks blankRun text).filterMap fun
    | .plain word => some word
    | .found () => none

end BeamLint.Text
