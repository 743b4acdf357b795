import BeamLint.Stylesheet.Scan
import BeamLint.Text.Comment
import BeamLint.Text.Letter

/-!
# Scanning markup

Markup is scanned for the class lists of its elements, the stylesheets in its `style` elements and
the declarations in its `style` attributes. Comments are blanked first; attributes are sought
outside the `style` elements only.
-/

namespace BeamLint

/-- A class attribute: its place, and the tokens of its value. -/
structure ClassAttribute where
  offset : Nat
  tokens : List TokenSite
  deriving Repr, DecidableEq

/-- What is found in markup. -/
structure MarkupScan where
  classAttributes : List ClassAttribute := []
  styleBlocks : StylesheetScan := {}
  inlineStyles : StylesheetScan := {}
  deriving Repr, DecidableEq

/-! ### Style elements -/

/-- The name of the element that holds a stylesheet. -/
def styleName : List Char := ['s', 't', 'y', 'l', 'e']

/-- Finds the closing tags of `style` elements. -/
def styleEnd : Text.Recognizer Unit := fun _ text =>
  match ['<', '/'].isPrefixOf? text with
  | none => none
  | some rest =>
    match (Text.dropWord? styleName rest).map Text.trimLeft with
    | some ('>' :: after) => some (text.length - after.length, ())
    | _ => none

/-- What follows the opening tag of a `style` element at the beginning of the text. -/
def afterStyleTag? (text : List Char) : Option (List Char) :=
  match text with
  | '<' :: rest =>
    match Text.dropWord? styleName rest with
    | some tag =>
      if tag.head?.any Text.isWord then none
      else
        match tag.dropWhile (· ≠ '>') with
        | _ :: body => some body
        | [] => none
    | none => none
  | _ => none

/-- Finds `style` elements; what is read is the span of the content, counted from the beginning of
the element. -/
def styleBlock : Text.Recognizer Text.Span := fun _ text =>
  match afterStyleTag? text with
  | none => none
  | some body =>
    match (Text.findAll styleEnd body).head? with
    | none => none
    | some closing =>
      let start := text.length - body.length
      some (start + closing.stop, ⟨start, start + closing.start⟩)

/-- The contents of the `style` elements. -/
def styleContents (text : List Char) : List Text.Span :=
  (Text.findAll styleBlock text).map fun f => ⟨f.start + f.value.start, f.start + f.value.stop⟩

/-! ### Attributes -/

/-- Whether the name of an attribute may begin after `before`. -/
def startsAttribute (before : Option Char) : Bool :=
  !before.any fun c => Text.isWord c || c == ':' || c == '.' || c == '@' || c == '-'

/-- The value of an attribute, given what follows its name: an equals sign, perhaps an opening
brace, and the text between two equal quotes. Gives the value and what follows it. -/
def attributeValue? (braced : Bool) (afterName : List Char) : Option (List Char × List Char) :=
  match Text.trimLeft afterName with
  | '=' :: rest =>
    let rest := Text.trimLeft rest
    let rest := if braced && rest.head? = some '{' then Text.trimLeft rest.tail else rest
    match rest with
    | quote :: body =>
      if quote == '"' || quote == '\'' then
        match body.dropWhile (· ≠ quote) with
        | _ :: after => some (body.takeWhile (· ≠ quote), after)
        | [] => none
      else none
    | [] => none
  | _ => none

/-- Finds the attribute `name`; what is read is its value and the place of the value, counted from
the beginning of the attribute. -/
def namedAttribute (name : List Char) (braced : Bool) : Text.Recognizer (Nat × List Char) :=
  fun before text =>
    match name.isPrefixOf? text with
    | none => none
    | some afterName =>
      if startsAttribute before then
        (attributeValue? braced afterName).map fun (value, after) =>
          let taken := text.length - after.length
          (taken, (taken - 1 - value.length, value))
      else none

/-- Finds class attributes, under either of their names. -/
def classAttribute : Text.Recognizer (Nat × List Char) := fun before text =>
  (namedAttribute ['c', 'l', 'a', 's', 's'] true before text).or
    (namedAttribute ['c', 'l', 'a', 's', 's', 'N', 'a', 'm', 'e'] true before text)

/-- Finds style attributes. -/
def styleAttribute : Text.Recognizer (Nat × List Char) := namedAttribute styleName false

/-- The length of an interpolation between double braces. -/
def doubleBraceLength? (text : List Char) : Option Nat :=
  match ['{', '{'].isPrefixOf? text with
  | none => none
  | some body => (Text.find? ['}', '}'] body).map (· + 4)

/-- The length of an interpolation between single braces, with no brace inside. -/
def singleBraceLength? (text : List Char) : Option Nat :=
  match text with
  | '{' :: body =>
    let inner := body.takeWhile fun c => c ≠ '{' && c ≠ '}'
    if (body.drop inner.length).head? = some '}' then some (inner.length + 2) else none
  | _ => none

/-- Finds interpolations in the value of a class attribute. -/
def interpolation : Text.Recognizer Unit := fun _ text =>
  ((doubleBraceLength? text).or <| (enclosedLength? ['$', '{'] '}' text).or <|
    singleBraceLength? text).map (·, ())

/-- Finds the tokens between blanks. -/
def tokenRecognizer : Text.Recognizer (List Char) := fun _ text =>
  let token := text.takeWhile fun c => !Text.isBlank c
  if token.isEmpty then none else some (token.length, token)

/-- The tokens of the value of a class attribute at place `offset`, interpolations left out. -/
def classListTokens (offset : Nat) (value : List Char) : List TokenSite :=
  (Text.findAll tokenRecognizer (Text.blankFound interpolation value)).map fun f =>
    ⟨String.ofList f.value, offset + f.start⟩

/-- The class attributes of markup; those without tokens are left out. -/
def classAttributes (text : List Char) : List ClassAttribute :=
  ((Text.findAll classAttribute text).map fun f =>
    ⟨f.start, classListTokens (f.start + f.value.1) f.value.2⟩).filter fun a => !a.tokens.isEmpty

/-- The scans of the style attributes of markup, one after the other. -/
def inlineStyles (text : List Char) : StylesheetScan :=
  (Text.findAll styleAttribute text).foldl
    (fun scan f => scan ++ scanStylesheet (f.start + f.value.1) true f.value.2) {}

/-- Scans markup. -/
def scanMarkup (text : List Char) : MarkupScan :=
  let clean := Text.markupComment.blank text
  let outside := Text.blankFound styleBlock clean
  { classAttributes := classAttributes outside
    styleBlocks := scanStylesheet 0 false (Text.keepSpans (styleContents clean) clean)
    inlineStyles := inlineStyles outside }

end BeamLint
