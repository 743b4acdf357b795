import BeamLint.Text.Search
import BeamLint.Value.Color

/-!
# Paths of requests

The path of a request is what stands before a question mark or a number sign. It begins with a slash
whether one is written or not, after two slashes the name of a host is passed over, and the parts `.`
and `..` are resolved. A percent sign and two hexadecimal digits stand for a character.
-/

namespace BeamLint.Service

/-- The value of a hexadecimal digit. -/
def hexDigitValue (c : Char) : Nat :=
  if c.isDigit then c.toNat - '0'.toNat else c.toLower.toNat - 'a'.toNat + 10

/-- The text with the characters of ASCII that are written with a percent sign. -/
def decodePercent : List Char → List Char
  | '%' :: a :: b :: rest =>
    let n := 16 * hexDigitValue a + hexDigitValue b
    if isHexDigit a && isHexDigit b && n < 128 then Char.ofNat n :: decodePercent rest
    else '%' :: decodePercent (a :: b :: rest)
  | c :: rest => c :: decodePercent rest
  | [] => []

/-- The path without the name of a host, which two slashes announce. -/
def dropHost (path : List Char) : List Char :=
  match path with
  | '/' :: '/' :: rest => rest.dropWhile (· ≠ '/')
  | _ => path

/-- The parts of a path with `.` and `..` resolved; `above` are the parts before them, the last one
first. -/
def resolveDots (above : List (List Char)) : List (List Char) → List (List Char)
  | [] => above.reverse
  | part :: parts =>
    if part = ['.'] then resolveDots above parts
    else if part = ['.', '.'] then
      resolveDots (if above = [[]] then above else above.tail) parts
    else resolveDots (part :: above) parts

/-- The path that a request asks for. -/
def requestPath (target : String) : List Char :=
  let path := dropHost (target.toList.takeWhile fun c => c ≠ '?' && c ≠ '#')
  let path := '/' :: path.dropWhile (· = '/')
  decodePercent (decodePercent (['/'].intercalate (resolveDots [] (Text.splitOn '/' path))))

end BeamLint.Service
