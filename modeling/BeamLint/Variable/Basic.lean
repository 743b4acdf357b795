import BeamLint.Location
import BeamLint.Value.Color

/-!
# Custom properties

Declarations of custom properties, uses of them in ordinary properties, and the tiers that the
convention sorts them into: primitive and semantic tokens come from the theme, component tokens
from anywhere else, and of a token set on an element the tier is unknown.
-/

namespace BeamLint

/-- The tier of a declaration, the lowest first. -/
inductive Tier where
  | unknown
  | component
  | semantic
  | primitive
  deriving Repr, DecidableEq

namespace Tier

/-- The name of a tier. -/
def name : Tier → String
  | .unknown => "unknown"
  | .component => "local"
  | .semantic => "semantic"
  | .primitive => "primitive"

/-- The place of a tier, counted from the lowest. -/
def rank : Tier → Nat
  | .unknown => 0
  | .component => 1
  | .semantic => 2
  | .primitive => 3

/-- The higher of two tiers. -/
def max (a b : Tier) : Tier := if a.rank < b.rank then b else a

/-- Whether tokens of the tier are those that a component should fall back to. -/
def isToken (t : Tier) : Bool := t == .semantic || t == .primitive

/-- The tier of a declaration in a stylesheet, by where it stands and how its name begins. -/
def classify (name : String) (inTheme : Bool) (primitivePrefix : String) : Tier :=
  if !inTheme then .component
  else if primitivePrefix.toList.isPrefixOf name.toList then .primitive
  else .semantic

end Tier

/-- A name that a value refers to, at a place. -/
structure Reference where
  name : String
  location : Location
  hasFallback : Bool
  deriving Repr, DecidableEq

/-- One declaration of a custom property. -/
structure Declaration where
  name : String
  tier : Tier
  references : List Reference
  literal : Option String
  location : Location
  deriving Repr, DecidableEq

namespace Declaration

/-- The file of a declaration. -/
def file (d : Declaration) : String := d.location.file

/-- The names that a declaration falls back to. -/
def fallbackNames (d : Declaration) : List String := d.references.map (·.name)

/-- Whether the value ends in a literal with a hexadecimal color. -/
def hasHexTerminal (d : Declaration) : Bool := d.literal.any fun l => hasHexColor l.toList

end Declaration

/-- An ordinary property whose value refers to custom properties. -/
structure Usage where
  property : String
  references : List Reference
  location : Location
  fromTheme : Bool
  deriving Repr, DecidableEq

/-- The file of a use. -/
def Usage.file (u : Usage) : String := u.location.file

end BeamLint
