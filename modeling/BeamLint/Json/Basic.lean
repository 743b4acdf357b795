/-!
# JSON values

Values of the interchange format, with objects as lists of fields in the order in which they are
written. A number is an integer divided by a power of ten.
-/

namespace BeamLint

/-- A JSON value. -/
inductive Json where
  | null
  | bool (b : Bool)
  /-- The number `mantissa / 10 ^ exponent`. -/
  | num (mantissa : Int) (exponent : Nat)
  | str (s : String)
  | arr (items : List Json)
  | obj (fields : List (String × Json))
  deriving Repr, Inhabited

namespace Json

/-- An integer. -/
def int (n : Int) : Json := .num n 0

/-- A text, or null. -/
def strOrNull : Option String → Json
  | some s => .str s
  | none => .null

/-- The field of an object with the given name; the last one counts. -/
def field? (fields : List (String × Json)) (name : String) : Option Json :=
  fields.reverse.lookup name

end Json

end BeamLint
