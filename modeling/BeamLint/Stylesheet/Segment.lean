import BeamLint.Text.Quote

/-!
# Segments of a stylesheet

A stylesheet is cut at its braces and semicolons. The text before an opening brace is the prelude
of a rule; inside a rule, the text before a semicolon or a closing brace, or before the end, is a
declaration. Nothing is cut inside quotes or parentheses.

`ScanState.step` reads one character, so that what comes after it depends on what came before it
only through the state.
-/

namespace BeamLint

/-- What a segment is. -/
inductive SegmentKind where
  | prelude
  | declaration
  deriving Repr, DecidableEq

/-- A stretch of a stylesheet and where it starts. -/
structure Segment where
  kind : SegmentKind
  offset : Nat
  text : List Char
  deriving Repr, DecidableEq

/-- What is known between two characters of a stylesheet. -/
structure ScanState where
  /-- The quote that is open. -/
  quote : Option Char := none
  /-- The character before. -/
  before : Char := ' '
  /-- How many parentheses are open. -/
  parens : Nat := 0
  /-- How many braces are open. -/
  depth : Nat := 0
  /-- Where the current segment starts. -/
  start : Nat := 0
  /-- The characters of the current segment, the last one first. -/
  seen : List Char := []
  deriving Repr, DecidableEq

namespace ScanState

/-- The current segment. -/
def segment (s : ScanState) (kind : SegmentKind) : Segment := ⟨kind, s.start, s.seen.reverse⟩

/-- The current segment as a declaration, inside a rule only. -/
def declaration (s : ScanState) : List Segment :=
  if s.depth > 0 then [s.segment .declaration] else []

/-- The state after `c`, which belongs to the current segment. -/
def extend (s : ScanState) (c : Char) : ScanState :=
  { s with before := c, seen := c :: s.seen }

/-- The state after `c`, which ends the current segment, with `depth` open braces. -/
def next (s : ScanState) (c : Char) (depth : Nat) : ScanState :=
  { s with before := c, depth := depth, start := s.start + s.seen.length + 1, seen := [] }

/-- Reads the character `c`: the segments that it ends, and the state after it. -/
def step (s : ScanState) (c : Char) : List Segment × ScanState :=
  if s.quote.isSome || c == '\'' || c == '"' then
    ([], { s.extend c with quote := Text.quoteAfter s.quote s.before c })
  else if c == '(' then ([], { s.extend c with parens := s.parens + 1 })
  else if c == ')' then ([], { s.extend c with parens := s.parens - 1 })
  else if s.parens > 0 then ([], s.extend c)
  else if c == '{' then ([s.segment .prelude], s.next c (s.depth + 1))
  else if c == ';' then (s.declaration, s.next c s.depth)
  else if c == '}' then (s.declaration, s.next c (s.depth - 1))
  else ([], s.extend c)

/-- The segment that the end of the text ends. -/
def finish (s : ScanState) : List Segment := if s.seen.isEmpty then [] else s.declaration

/-- The segments that are ended in a text, from the state at its beginning. -/
def segments (s : ScanState) : List Char → List Segment
  | [] => s.finish
  | c :: rest => (s.step c).1 ++ segments (s.step c).2 rest

end ScanState

/-- The segments of a stylesheet without comments that starts at place `base`; with `inline` the
text is the body of a single rule. -/
def segments (base : Nat) (inline : Bool) (text : List Char) : List Segment :=
  ({ depth := if inline then 1 else 0, start := base } : ScanState).segments text

end BeamLint
