import BeamLint.Text.Search

/-!
# Spans and blanking

A span is a stretch of a text, given by its ends. Blanking a span puts spaces for its characters
but leaves its line ends alone, so that neither the length of the text nor any position in it
changes.
-/

namespace BeamLint.Text

/-- The places from `start` up to, and without, `stop`. -/
structure Span where
  start : Nat
  stop : Nat
  deriving Repr, DecidableEq

/-- Whether the place `i` lies in the span. -/
def Span.covers (s : Span) (i : Nat) : Bool := s.start ≤ i && i < s.stop

/-- The stretch of the text in the span. -/
def Span.slice (s : Span) (text : List Char) : List Char := (text.drop s.start).take (s.stop - s.start)

/-- The span of what was found. -/
def Found.span {α : Type} (f : Found α) : Span := ⟨f.start, f.stop⟩

/-- A space, or a line end where `c` is one. -/
def blankChar (c : Char) : Char := if c = '\n' then '\n' else ' '

/-- Blanks the characters of the text whose places, counted from `i`, satisfy `hidden`. -/
def blankWhere (hidden : Nat → Bool) (i : Nat) : List Char → List Char
  | [] => []
  | c :: rest => (if hidden i then blankChar c else c) :: blankWhere hidden (i + 1) rest

/-- Blanks the spans. -/
def blankSpans (spans : List Span) (text : List Char) : List Char :=
  blankWhere (fun i => spans.any (·.covers i)) 0 text

/-- Blanks everything outside the spans. -/
def keepSpans (spans : List Span) (text : List Char) : List Char :=
  blankWhere (fun i => !spans.any (·.covers i)) 0 text

/-- Blanks everything that `r` finds. -/
def blankFound {α : Type} (r : Recognizer α) (text : List Char) : List Char :=
  blankSpans ((findAll r text).map Found.span) text

@[simp] theorem length_blankWhere (hidden : Nat → Bool) (i : Nat) (text : List Char) :
    (blankWhere hidden i text).length = text.length := by
  induction text generalizing i with
  | nil => rfl
  | cons c rest ih => simp [blankWhere, ih]

@[simp] theorem length_blankSpans (spans : List Span) (text : List Char) :
    (blankSpans spans text).length = text.length := by simp [blankSpans]

@[simp] theorem length_keepSpans (spans : List Span) (text : List Char) :
    (keepSpans spans text).length = text.length := by simp [keepSpans]

/-- Blanking changes no line end and makes none. -/
theorem blankChar_eq_newline_iff (c : Char) : blankChar c = '\n' ↔ c = '\n' := by
  unfold blankChar; split <;> simp_all

end BeamLint.Text
