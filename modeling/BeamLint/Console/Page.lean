import BeamLint.Console.Mark
import BeamLint.Console.Wrap

/-!
# What a console shows

A marked text is shown without its marks, with emoji for their names, in lines of the console's
width.
-/

namespace BeamLint.Console

/-- What the console shows for a marked text, with the line ends. -/
def render (text : String) : Except MarkError String := do
  let shown ← plainText text.toList
  let lines := (Text.splitOn '\n' shown).flatMap fun line => wrap columns (expandTabs line)
  return String.ofList (lines.flatMap fun line => line ++ ['\n'])

end BeamLint.Console
