import BeamLint.Text.Search

/-!
# Output without escape sequences

A report is written without the escape sequences by which a terminal is told to change its looks,
whatever texts it quotes, and a line ends with a line feed alone.
-/

namespace BeamLint.Console

/-- Finds escape sequences: an escape and a bracket, digits, semicolons and question marks, and a
letter of ASCII. Nothing is shown for them. -/
def escapeSequence : Text.Recognizer (List Char) := fun _ text =>
  match text with
  | '\x1b' :: '[' :: rest =>
    let parameters := rest.takeWhile fun c => c.isDigit || c == ';' || c == '?'
    if (rest.drop parameters.length).head?.any Char.isAlpha then some (parameters.length + 3, [])
    else none
  | _ => none

/-- Finds line feeds after a carriage return. -/
def longLineEnd : Text.Recognizer (List Char) := fun _ text =>
  match text with
  | '\r' :: '\n' :: _ => some (2, ['\n'])
  | _ => none

/-- The text as it is written out. -/
def written (text : String) : String :=
  String.ofList (Text.replaceFound longLineEnd (Text.replaceFound escapeSequence text.toList))

end BeamLint.Console
