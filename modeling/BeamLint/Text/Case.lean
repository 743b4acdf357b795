import BeamLint.Text.Case.Cased
import BeamLint.Text.Case.Lower
import BeamLint.Text.Case.Title

/-!
# Case of whole texts

Lower, upper and title case. Only the capital sigma needs its neighbours: at the end of a word its
lower form is `ς`, elsewhere it is `σ`.
-/

namespace BeamLint.Text

/-- Whether a letter with `before` (nearest first) and `after` as its neighbours ends a word: the
nearest character before it that counts has a case, and the nearest one after it has none. -/
def endsWord (before after : List Char) : Bool :=
  (before.dropWhile isCaseIgnorable).head?.any isCased &&
    !(after.dropWhile isCaseIgnorable).head?.any isCased

/-- The lower-case form of `c` between its neighbours. -/
def lowerIn (before : List Char) (c : Char) (after : List Char) : List Char :=
  if c == 'Σ' then [if endsWord before after then 'ς' else 'σ'] else lowerChar c

/-- Lower case of the text that follows `before` (nearest first). -/
def lowerFrom (before : List Char) : List Char → List Char
  | [] => []
  | c :: rest => lowerIn before c rest ++ lowerFrom (c :: before) rest

/-- Lower case. -/
def lower (text : List Char) : List Char := lowerFrom [] text

/-- Upper case. -/
def upper (text : List Char) : List Char := text.flatMap upperChar

/-- Title case of the text that follows `before`, which ends inside a word or not. -/
def titleFrom (before : List Char) (inWord : Bool) : List Char → List Char
  | [] => []
  | c :: rest =>
    (if inWord then lowerIn before c rest else titleChar c) ++
      titleFrom (c :: before) (isCased c) rest

/-- Title case: the first letter of every word is a capital and the others are not. -/
def title (text : List Char) : List Char := titleFrom [] false text

/-- The string `s` in lower case. -/
def lowerString (s : String) : String := String.ofList (lower s.toList)

/-- The string `s` in upper case. -/
def upperString (s : String) : String := String.ofList (upper s.toList)

end BeamLint.Text
