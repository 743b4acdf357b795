import BeamLint.Text.Span

/-!
# Comments

A comment runs from its opening mark to the first closing mark after it, or to the end of the text
when there is none. Blanking the comments leaves every other character at its place.
-/

namespace BeamLint.Text

/-- The marks around a comment. -/
structure CommentStyle where
  opening : List Char
  closing : List Char

/-- Comments of stylesheets. -/
def stylesheetComment : CommentStyle := ⟨['/', '*'], ['*', '/']⟩

/-- Comments of markup. -/
def markupComment : CommentStyle := ⟨['<', '!', '-', '-'], ['-', '-', '>']⟩

/-- Finds comments. -/
def CommentStyle.recognizer (s : CommentStyle) : Recognizer Unit := fun _ text =>
  match s.opening.isPrefixOf? text with
  | none => none
  | some body =>
    match find? s.closing body with
    | some n => some (s.opening.length + n + s.closing.length, ())
    | none => some (text.length, ())

/-- The text with its comments blanked. -/
def CommentStyle.blank (s : CommentStyle) (text : List Char) : List Char :=
  blankFound s.recognizer text

end BeamLint.Text
