import BeamLint.Config
import BeamLint.Diagnostic
import BeamLint.Selector.Basic

/-!
# Naming rules

Casing of blocks and elements, flat nesting, and state words in class names. Every finding on a
badly cased name suggests the name in snake case.
-/

namespace BeamLint

/-- Puts an underscore between a lower-case letter or digit and the capital that follows it. -/
def breakWords : List Char → List Char
  | c :: d :: rest =>
    if isNameChar c && d.isUpper then c :: '_' :: breakWords (d :: rest)
    else c :: breakWords (d :: rest)
  | text => text

/-- The name in lower snake case: words are broken at capitals, and underscores stand only between
words and one at a time. -/
def snakeCase (name : List Char) : List Char :=
  let words := (Text.splitOn '_' (Text.lower (breakWords name))).filter fun w => !w.isEmpty
  ['_'].intercalate words

/-- The name in lower snake case, on strings. -/
def snakeCaseString (name : String) : String := String.ofList (snakeCase name.toList)

namespace Naming

/-- Findings on the casing of the block. -/
def blockCase (o : Occurrence) : List Diagnostic :=
  let raw := o.selector.raw
  let segment := o.selector.blockSegment
  let better := snakeCaseString segment
  if .blockCase ∈ o.selector.defects then
    [Rule.blockCase.finding s!"Block segment '{segment}' of '{raw}' must be lower snake case"
      o.location [] s!"Rename the block to '{better}'"]
  else []

/-- Findings on the casing of the element. -/
def elementCase (o : Occurrence) : List Diagnostic :=
  let raw := o.selector.raw
  let element := o.selector.element?.getD ""
  let better := snakeCaseString element
  if .elementCase ∈ o.selector.defects then
    [Rule.elementCase.finding s!"Element segment '{element}' of '{raw}' must be lower case"
      o.location [] s!"Rename the element to '{better}'"]
  else []

/-- Findings on nesting deeper than one level. -/
def flatNesting (o : Occurrence) : List Diagnostic :=
  let raw := o.selector.raw
  let depth := o.selector.depth
  let flat := o.selector.flattened
  if .excessDepth ∈ o.selector.defects then
    [Rule.flatNesting.finding
      s!"Selector '{raw}' nests {depth} levels deep; elements are flat, use '{flat}'"
      o.location [] s!"Rename '{raw}' to '{flat}'"]
  else []

/-- The words of the element path, in lower case. -/
def elementWords (s : Selector) : List String :=
  s.path.flatMap fun segment => Text.splitString '_' (Text.lowerString segment)

/-- A finding on the first state word in the element path. -/
def stateInClass (stateWords : List String) (o : Occurrence) : List Diagnostic :=
  match (elementWords o.selector).find? fun w => w ∈ stateWords with
  | some word =>
    let raw := o.selector.raw
    [Rule.stateInClass.finding s!"Class '{raw}' encodes the state '{word}' in its name"
      o.location [] s!"Use a data attribute instead, e.g. [data-state=\"{word}\"]"]
  | none => []

/-- All findings on the name of one class token. -/
def check (c : Config) (o : Occurrence) : List Diagnostic :=
  blockCase o ++ elementCase o ++ flatNesting o ++ stateInClass c.stateWords o

end Naming

end BeamLint
