import BeamLint.Text.Search

/-!
# Words in any case

A letter is met in either case. The long s counts as an s, and the dotless i and the capital i with
a dot count as an i.
-/

namespace BeamLint.Text

/-- Whether `c` is the lower-case letter `letter` of ASCII, in whatever case. -/
def isLetter (letter c : Char) : Bool :=
  c.toLower == letter || (letter == 's' && c == 'ſ') || (letter == 'i' && (c == 'ı' || c == 'İ'))

/-- What follows `word` in a text that begins with it, in whatever case. -/
def dropWord? : (word text : List Char) → Option (List Char)
  | [], text => some text
  | letter :: word, c :: text => if isLetter letter c then dropWord? word text else none
  | _ :: _, [] => none

end BeamLint.Text
