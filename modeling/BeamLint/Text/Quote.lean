/-!
# Quotes

Whether a character stands inside quotes is decided from left to right: a quote opens a string,
and the same quote closes it unless a backslash stands right before it.
-/

namespace BeamLint.Text

/-- The quote that is open after `c`, given the one that is open at `c` and the character before. -/
def quoteAfter (quote : Option Char) (before c : Char) : Option Char :=
  match quote with
  | some q => if c == q && before != '\\' then none else some q
  | none => if c == '\'' || c == '"' then some c else none

end BeamLint.Text
