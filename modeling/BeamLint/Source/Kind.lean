import BeamLint.Text.Case
import BeamLint.Text.Search

/-!
# Kinds of sources

Whether a source is a stylesheet, markup or neither is told by the extension of its path.
-/

namespace BeamLint

/-- What a source is. -/
inductive SourceKind where
  | stylesheet
  | markup
  | unknown
  deriving Repr, DecidableEq

/-- The extensions of stylesheets. -/
def stylesheetExtensions : List String := [".css", ".scss", ".less", ".pcss", ".postcss"]

/-- The extensions of markup. -/
def markupExtensions : List String :=
  [".html", ".htm", ".vue", ".svelte", ".astro", ".jsx", ".tsx", ".erb", ".njk", ".hbs", ".twig",
   ".php"]

/-- The parts of a path between slashes, without empty parts and dots. -/
def pathParts (path : List Char) : List (List Char) :=
  (Text.splitOn '/' path).filter fun p => !p.isEmpty && p ≠ ['.']

/-- The extension of a file name, with its dot: what follows the last dot, if something does and
something precedes the dot. -/
def extension (fileName : List Char) : List Char :=
  let suffix := (fileName.reverse.takeWhile (· ≠ '.')).reverse
  if suffix.isEmpty || fileName.length ≤ suffix.length + 1 then [] else '.' :: suffix

namespace SourceKind

/-- The name of a kind. -/
def name : SourceKind → String
  | .stylesheet => "stylesheet"
  | .markup => "markup"
  | .unknown => "unknown"

/-- The kind of the files with the given name; case does not matter. -/
def ofFileName (fileName : List Char) : SourceKind :=
  let e := String.ofList (Text.lower (extension fileName))
  if e ∈ stylesheetExtensions then .stylesheet
  else if e ∈ markupExtensions then .markup
  else .unknown

/-- The kind of the source at a path; a backslash counts as a slash. -/
def ofPath (path : String) : SourceKind :=
  ofFileName ((pathParts (Text.replaceChar '\\' '/' path.toList)).getLast?.getD [])

end SourceKind

end BeamLint
