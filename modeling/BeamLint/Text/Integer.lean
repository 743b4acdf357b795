import BeamLint.Text.Blank
import BeamLint.Text.Digit

/-!
# Reading an integer

An integer is an optional sign and decimal digits of any script, with single underscores between
digits, and blanks around. The four ASCII separators do not count as blanks here, and a number of
more than 4300 digits is refused.
-/

namespace BeamLint.Text

/-- Whether `c` may stand around an integer: blank, but not one of the four ASCII separators. -/
def isNumberBlank (c : Char) : Bool := isBlank c && !(28 ≤ c.toNat && c.toNat ≤ 31)

/-- The values of the digits of a text of digits with single underscores between them. -/
def digits? : List Char → Option (List Nat)
  | [] => none
  | [c] => (digitValue? c).map ([·])
  | c :: '_' :: rest => do return (← digitValue? c) :: (← digits? rest)
  | c :: rest => do return (← digitValue? c) :: (← digits? rest)

/-- The most digits that are read. -/
def maxDigits : Nat := 4300

/-- The number without sign that the text spells. -/
def natural? (text : List Char) : Option Nat :=
  match digits? text with
  | some ds => if ds.length ≤ maxDigits then some (ds.foldl (fun n d => 10 * n + d) 0) else none
  | none => none

/-- The integer that the text spells. -/
def integer? (text : List Char) : Option Int :=
  let body := ((text.dropWhile isNumberBlank).reverse.dropWhile isNumberBlank).reverse
  match body with
  | '-' :: rest => (natural? rest).map fun n => -(n : Int)
  | '+' :: rest => (natural? rest).map Int.ofNat
  | rest => (natural? rest).map Int.ofNat

end BeamLint.Text
