import BeamLint.Console.Literal
import BeamLint.Text.Blank
import BeamLint.Text.Word

/-!
# Handlers of marks

A mark may name a handler, perhaps with arguments in parentheses on one line, or give a literal.
-/

namespace BeamLint.Console

/-- Whether the text names a handler, without arguments or with arguments that are literals, or is
itself a literal. -/
def isHandler (text : List Char) : Bool :=
  let text := Text.trim text
  let rest := text.dropWhile fun c => Text.isWord c || c == '.'
  if rest.isEmpty then true
  else if rest.head? = some '(' && rest.getLast? = some ')' && !rest.contains '\n' then
    Literal.isLiteral rest
  else Literal.isLiteral text

end BeamLint.Console
