import BeamLint.Diagnostic
import BeamLint.Selector.Basic

/-!
# Layout exclusivity

A layout primitive never shares an element with a block or an element class. Every class list is
judged by itself.
-/

namespace BeamLint

/-- The class tokens of one element: the distinct tokens as written, those of them that could be
read, and the place of the class list. -/
structure ClassList where
  tokens : List String
  occurrences : List Occurrence
  location : Location
  deriving Repr, DecidableEq

/-- The tokens of the occurrences, in quotes. -/
def quotedTokens (os : List Occurrence) : String :=
  ", ".intercalate (os.map fun o => "'" ++ o.selector.raw ++ "'")

/-- The finding on a class list with a layout primitive beside a block or element. -/
def ClassList.checkLayout (l : ClassList) : List Diagnostic :=
  match l.occurrences.filter (·.selector.isLayout), l.occurrences.filter (·.selector.isComponent) with
  | layout :: layouts, component :: components =>
    let layoutNames := quotedTokens (layout :: layouts)
    let componentNames := quotedTokens (component :: components)
    [Rule.layoutBlockMutex.finding
      s!"Layout primitive {layoutNames} shares an element with block/element class {componentNames}"
      l.location [layout.location, component.location]
      "Move the layout class to a wrapping element, or style the block with its own layout"]
  | _, _ => []

end BeamLint
