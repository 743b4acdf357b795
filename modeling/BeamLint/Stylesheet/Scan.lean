import BeamLint.Stylesheet.Segment
import BeamLint.Text.Comment
import BeamLint.Text.Word
import BeamLint.Value.Basic

/-!
# Scanning stylesheets

From the segments of a stylesheet come the class names in the preludes of its rules, the custom
properties that it declares, and the ordinary properties whose values refer to custom properties.
Everything found carries its place in the text.
-/

namespace BeamLint

/-- A token and its place. -/
structure TokenSite where
  text : String
  offset : Nat
  deriving Repr, DecidableEq

/-- A property, the text of its value, and the places of both. -/
structure PropertySite where
  name : String
  value : String
  offset : Nat
  valueOffset : Nat
  deriving Repr, DecidableEq

/-- What is found in a stylesheet. -/
structure StylesheetScan where
  classTokens : List TokenSite := []
  declarations : List PropertySite := []
  usages : List PropertySite := []
  deriving Repr, DecidableEq

namespace StylesheetScan

/-- Two scans, list by list. -/
def append (a b : StylesheetScan) : StylesheetScan where
  classTokens := a.classTokens ++ b.classTokens
  declarations := a.declarations ++ b.declarations
  usages := a.usages ++ b.usages

instance : Append StylesheetScan := ⟨append⟩

end StylesheetScan

/-! ### Preludes -/

/-- The length of a text that starts after `opening` and runs through the first `closing`, both
counted. -/
def enclosedLength? (opening : List Char) (closing : Char) (text : List Char) : Option Nat :=
  match opening.isPrefixOf? text with
  | none => none
  | some body =>
    let inner := body.takeWhile (· ≠ closing)
    if inner.length < body.length then some (opening.length + inner.length + 1) else none

/-- Finds what hides class names in a prelude: attribute tests, strings and interpolations. -/
def preludeNoise : Text.Recognizer Unit := fun _ text =>
  ((enclosedLength? ['['] ']' text).or <| (enclosedLength? ['"'] '"' text).or <|
    (enclosedLength? ['\''] '\'' text).or <| enclosedLength? ['#', '{'] '}' text).map (·, ())

/-- The longest run of word characters, hyphens and escaped characters. -/
def classNameRun : List Char → List Char
  | '\\' :: c :: rest => if c = '\n' then [] else '\\' :: c :: classNameRun rest
  | c :: rest => if Text.isWord c || c == '-' then c :: classNameRun rest else []
  | [] => []

/-- Finds class names: a dot, a letter of ASCII, underscore, hyphen or escaped character, and the
run that begins with it. -/
def classNameRecognizer : Text.Recognizer (List Char) := fun _ text =>
  match text with
  | '.' :: rest =>
    let run := classNameRun rest
    if run.head?.any fun c => c.isAlpha || c == '_' || c == '-' || c == '\\' then
      some (run.length + 1, run)
    else none
  | _ => none

/-- The class names of a prelude, each at the place of its dot. A prelude that begins with an at
sign holds none. -/
def Segment.classTokens (s : Segment) : List TokenSite :=
  if s.kind = .prelude ∧ (Text.trimLeft s.text).head? ≠ some '@' then
    (Text.findAll classNameRecognizer (Text.blankFound preludeNoise s.text)).map fun f =>
      ⟨String.ofList f.value, s.offset + f.start⟩
  else []

/-! ### Declarations -/

/-- The property `name` at the beginning of a declaration, up to blanks, with what follows it. -/
def Segment.property? (s : Segment) (name afterName : List Char) : Option PropertySite :=
  match Text.trimLeft afterName with
  | ':' :: value =>
    some
      { name := String.ofList name
        value := String.ofList value
        offset := s.offset + (s.text.takeWhile Text.isBlank).length
        valueOffset := s.offset + (s.text.length - value.length) }
  | _ => none

/-- The custom property that a segment declares. -/
def Segment.customProperty? (s : Segment) : Option PropertySite :=
  match s.kind, propertyName? (Text.trimLeft s.text) with
  | .declaration, some (name, afterName) => s.property? name afterName
  | _, _ => none

/-- The ordinary property that a segment sets: its name begins with a letter or a hyphen. -/
def Segment.ordinaryProperty? (s : Segment) : Option PropertySite :=
  let text := Text.trimLeft s.text
  let name := text.takeWhile isPropertyChar
  if s.kind = .declaration ∧ name.head?.any fun c => c.isAlpha || c == '-' then
    s.property? name (text.dropWhile isPropertyChar)
  else none

/-- The ordinary property that a segment sets to a value with a call. -/
def Segment.usage? (s : Segment) : Option PropertySite :=
  if s.customProperty?.isSome then none
  else s.ordinaryProperty?.filter fun p => Text.occurs varOpen p.value.toList

/-- What is found in the segments. -/
def StylesheetScan.ofSegments (segments : List Segment) : StylesheetScan where
  classTokens := segments.flatMap Segment.classTokens
  declarations := segments.filterMap Segment.customProperty?
  usages := segments.filterMap Segment.usage?

/-- Scans a stylesheet that starts at place `base`; with `inline` the text is the body of a single
rule. -/
def scanStylesheet (base : Nat) (inline : Bool) (text : List Char) : StylesheetScan :=
  .ofSegments (segments base inline (Text.stylesheetComment.blank text))

end BeamLint
