import BeamLint.Json.Basic
import BeamLint.Text.Quoted

/-!
# Printing JSON

Every item and field stands on a line of its own, two spaces further in than what holds it. Only
printable ASCII is written as it is; a character beyond the basic plane is written as the two units
of its UTF-16 form.
-/

namespace BeamLint.Json

/-- A UTF-16 unit as an escape. -/
def escapeUnit (n : Nat) : List Char := ['\\', 'u'] ++ Text.hexDigits 4 n

/-- How `c` is written inside a string. -/
def escapeChar (c : Char) : List Char :=
  let n := c.toNat
  if c == '"' || c == '\\' then ['\\', c]
  else if 32 ≤ n && n < 127 then [c]
  else if c == '\n' then ['\\', 'n']
  else if c == '\r' then ['\\', 'r']
  else if c == '\t' then ['\\', 't']
  else if n == 8 then ['\\', 'b']
  else if n == 12 then ['\\', 'f']
  else if n < 0x10000 then escapeUnit n
  else escapeUnit (0xD800 + (n - 0x10000) / 0x400) ++ escapeUnit (0xDC00 + (n - 0x10000) % 0x400)

/-- A string with its quotes. -/
def printString (s : String) : List Char := '"' :: s.toList.flatMap escapeChar ++ ['"']

/-- The decimal digits of a number. -/
def printNat (n : Nat) : List Char := Nat.toDigits 10 n

/-- An integer. -/
def printInt : Int → List Char
  | .ofNat n => printNat n
  | .negSucc n => '-' :: printNat (n + 1)

/-- A number: an integer, with a point before the last `exponent` digits if there are any. -/
def printNum (mantissa : Int) : (exponent : Nat) → List Char
  | 0 => printInt mantissa
  | exponent + 1 =>
    let digits := printNat mantissa.natAbs
    let digits := List.replicate (exponent + 2 - digits.length) '0' ++ digits
    let whole := digits.length - (exponent + 1)
    (if mantissa < 0 then ['-'] else []) ++ digits.take whole ++ '.' :: digits.drop whole

/-- A new line, `level` steps in. -/
def newLine (level : Nat) : List Char := '\n' :: List.replicate (2 * level) ' '

mutual

/-- A value that stands `level` steps in. -/
def printAt (level : Nat) : Json → List Char
  | .null => ['n', 'u', 'l', 'l']
  | .bool true => ['t', 'r', 'u', 'e']
  | .bool false => ['f', 'a', 'l', 's', 'e']
  | .num mantissa exponent => printNum mantissa exponent
  | .str s => printString s
  | .arr [] => ['[', ']']
  | .arr (item :: items) =>
    '[' :: newLine (level + 1) ++ printAt (level + 1) item ++ printItems (level + 1) items ++
      newLine level ++ [']']
  | .obj [] => ['{', '}']
  | .obj ((name, value) :: fields) =>
    '{' :: newLine (level + 1) ++ printString name ++ [':', ' '] ++ printAt (level + 1) value ++
      printFields (level + 1) fields ++ newLine level ++ ['}']

/-- The further items of an array, `level` steps in. -/
def printItems (level : Nat) : List Json → List Char
  | [] => []
  | item :: items => ',' :: newLine level ++ printAt level item ++ printItems level items

/-- The further fields of an object, `level` steps in. -/
def printFields (level : Nat) : List (String × Json) → List Char
  | [] => []
  | (name, value) :: fields =>
    ',' :: newLine level ++ printString name ++ [':', ' '] ++ printAt level value ++
      printFields level fields

end

/-- The text of a value. -/
def print (j : Json) : List Char := printAt 0 j

end BeamLint.Json
