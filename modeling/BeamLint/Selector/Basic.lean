import BeamLint.Location
import BeamLint.Text.Search

/-!
# Class selectors

A class token names a layout primitive, or a component: a block, perhaps followed by the path of an
element inside it, with hyphens between. Names are words of lower-case letters and digits joined by
underscores. A token with the right shape but badly spelt names is still read, and its defects are
derived from what was read:

* `Selector.defects`, in the order in which they are reported;
* `Selector.kind`, which is `malformed` exactly when there is a defect.
-/

namespace BeamLint

/-- What is wrong with a class token that could be read. -/
inductive Defect where
  | blockCase
  | elementCase
  | excessDepth
  deriving Repr, DecidableEq

/-- The name of a defect. -/
def Defect.name : Defect → String
  | .blockCase => "block-case"
  | .elementCase => "element-case"
  | .excessDepth => "excess-depth"

/-- What a class token names. -/
inductive SelectorKind where
  | block
  | element
  | layoutPrimitive
  | malformed
  deriving Repr, DecidableEq

/-- The name of a kind of selector. -/
def SelectorKind.name : SelectorKind → String
  | .block => "block"
  | .element => "element"
  | .layoutPrimitive => "layout-primitive"
  | .malformed => "malformed"

/-- Whether `c` is a lower-case letter or a digit of ASCII. -/
def isNameChar (c : Char) : Bool := c.isLower || c.isDigit

/-- Whether the text is a word: one or more lower-case letters and digits. -/
def isNameWord (text : List Char) : Bool := !text.isEmpty && text.all isNameChar

/-- Whether the text is in lower snake case: words joined by single underscores. -/
def isSnakeCase (text : List Char) : Bool := (Text.splitOn '_' text).all isNameWord

/-- Whether the text is a path: names in lower snake case joined by single hyphens. -/
def isSnakePath (text : List Char) : Bool := (Text.splitOn '-' text).all isSnakeCase

/-- The parts of a class token. -/
inductive SelectorForm where
  /-- The layout prefix and what follows it; `whole` is the token without its dots. -/
  | layout (identifier whole : String)
  /-- A block and the segments of the element path inside it. -/
  | component (block : String) (path : List String)
  deriving Repr, DecidableEq

/-- A class token that could be read. -/
structure Selector where
  raw : String
  form : SelectorForm
  deriving Repr, DecidableEq

namespace Selector

/-- The segments of the element path. -/
def path (s : Selector) : List String :=
  match s.form with
  | .layout .. => []
  | .component _ path => path

/-- The number of levels below the block. -/
def depth (s : Selector) : Nat := s.path.length

/-- The element, when the token names one. -/
def element? (s : Selector) : Option String :=
  if s.path.isEmpty then none else some ("-".intercalate s.path)

/-- What follows the layout prefix. -/
def identifier? (s : Selector) : Option String :=
  match s.form with
  | .layout identifier _ => some identifier
  | .component .. => none

/-- The defects, in the order in which they are reported. -/
def defects (s : Selector) : List Defect :=
  match s.form with
  | .layout identifier _ => if isSnakePath identifier.toList then [] else [.blockCase]
  | .component block path =>
    (if isSnakeCase block.toList then [] else [.blockCase]) ++
    (if path.all fun p => isSnakeCase p.toList then [] else [.elementCase]) ++
    (if path.length > 1 then [.excessDepth] else [])

/-- The block: none for a layout primitive, and the whole token for one that is badly spelt. -/
def block? (s : Selector) : Option String :=
  match s.form with
  | .layout identifier whole => if isSnakePath identifier.toList then none else some whole
  | .component block _ => some block

/-- What the token names. -/
def kind (s : Selector) : SelectorKind :=
  if !s.defects.isEmpty then .malformed
  else
    match s.form with
    | .layout .. => .layoutPrimitive
    | .component _ [] => .block
    | .component .. => .element

/-- Whether the token names a layout primitive. -/
def isLayout (s : Selector) : Bool := s.kind == .layoutPrimitive

/-- Whether the token names a block or an element. -/
def isComponent (s : Selector) : Bool := s.kind == .block || s.kind == .element

/-- The segment that a finding on the block names. -/
def blockSegment (s : Selector) : String := s.block?.getD s.raw

/-- The token with one level at most: the block and the last segment of the path. -/
def flattened (s : Selector) : String :=
  match s.path.getLast? with
  | none => s.blockSegment
  | some last => s.blockSegment ++ "-" ++ last

/-- A token is malformed exactly when it has a defect. -/
theorem kind_eq_malformed_iff (s : Selector) : s.kind = .malformed ↔ s.defects ≠ [] := by
  unfold kind
  cases h : s.defects with
  | nil => rcases s with ⟨raw, _ | ⟨block, _ | _⟩⟩ <;> simp
  | cons d ds => simp

end Selector

/-- A class token at a place. -/
structure Occurrence where
  selector : Selector
  location : Location
  deriving Repr, DecidableEq

end BeamLint
