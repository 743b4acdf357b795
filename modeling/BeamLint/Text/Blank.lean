/-!
# Blank characters

A blank is a character of the Unicode class of white space or one of the four ASCII separators.
Texts are trimmed at both ends of their blanks.
-/

namespace BeamLint.Text

/-- Whether `c` is blank. -/
def isBlank (c : Char) : Bool :=
  let n := c.toNat
  (9 ≤ n && n ≤ 13) || (28 ≤ n && n ≤ 32) || n == 0x85 || n == 0xA0 || n == 0x1680 ||
    (0x2000 ≤ n && n ≤ 0x200A) || n == 0x2028 || n == 0x2029 || n == 0x202F || n == 0x205F ||
    n == 0x3000

/-- The text without the blanks at its beginning. -/
def trimLeft (text : List Char) : List Char := text.dropWhile isBlank

/-- The text without the blanks at its end. -/
def trimRight (text : List Char) : List Char := (text.reverse.dropWhile isBlank).reverse

/-- The text without the blanks at both ends. -/
def trim (text : List Char) : List Char := trimRight (trimLeft text)

/-- Whether the text holds nothing but blanks. -/
def isAllBlank (text : List Char) : Bool := text.all isBlank

/-- The string `s` without the blanks at both ends. -/
def trimString (s : String) : String := String.ofList (trim s.toList)

end BeamLint.Text
