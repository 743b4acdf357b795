import BeamLint.Text.Word

/-!
# Hexadecimal colors

A color is a number sign and three, four, six or eight hexadecimal digits, with no word character
after them.
-/

namespace BeamLint

/-- Whether `c` is a hexadecimal digit. -/
def isHexDigit (c : Char) : Bool :=
  c.isDigit || ('a' ≤ c && c ≤ 'f') || ('A' ≤ c && c ≤ 'F')

/-- Whether the text after a number sign begins with the digits of a color. -/
def startsHexColor (text : List Char) : Bool :=
  let n := (text.takeWhile isHexDigit).length
  (n == 3 || n == 4 || n == 6 || n == 8) && !(text.drop n).head?.any Text.isWord

/-- Whether the text holds a color. -/
def hasHexColor : List Char → Bool
  | [] => false
  | c :: rest => (c == '#' && startsHexColor rest) || hasHexColor rest

end BeamLint
