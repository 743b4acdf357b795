import BeamLint.Console.Color
import BeamLint.Text.Case

/-!
# Styles of a console

A style is described by words: attributes, which may be switched off, a color, a background and a
link. Two descriptions of the same style have the same normal form, in which the attributes come in
a fixed order under their long names. What does not describe a style is its own normal form, up to
case and the blanks around it.
-/

namespace BeamLint.Console

/-- The names of the attributes, in the order of the normal form. -/
def attributeNames : List String :=
  ["bold", "dim", "italic", "underline", "blink", "blink2", "reverse", "conceal", "strike",
   "underline2", "frame", "encircle", "overline"]

/-- The short names of attributes. -/
def attributeAbbreviations : List (String × String) :=
  [("b", "bold"), ("d", "dim"), ("i", "italic"), ("u", "underline"), ("r", "reverse"),
   ("c", "conceal"), ("s", "strike"), ("uu", "underline2"), ("o", "overline")]

/-- The attribute that a word names. -/
def attribute? (word : String) : Option String :=
  if word ∈ attributeNames then some word else attributeAbbreviations.lookup word

/-- A style. -/
structure Style where
  /-- The attributes that are switched on or off, the last word first. -/
  attributes : List (String × Bool) := []
  color : Option String := none
  background : Option String := none
  link : Option String := none
  deriving Repr, DecidableEq

namespace Style

/-- Reads a description, word by word. -/
def read (s : Style) : List String → Except StyleFault Style
  | [] => .ok s
  | word :: words =>
    let lowered := Text.lowerString word
    if lowered = "on" then
      match words with
      | [] => .error .notAStyle
      | color :: words =>
        match readColor (Text.lower color.toList) with
        | .ok () => { s with background := some (Text.lowerString color) }.read words
        | .error fault => .error fault
    else if lowered = "not" then
      match words with
      | [] => .error .notAStyle
      | name :: words =>
        match attribute? name with
        | some a => { s with attributes := (a, false) :: s.attributes }.read words
        | none => .error .notAStyle
    else if lowered = "link" then
      match words with
      | [] => .error .notAStyle
      | target :: words => { s with link := some target }.read words
    else
      match attribute? lowered with
      | some a => { s with attributes := (a, true) :: s.attributes }.read words
      | none =>
        match readColor lowered.toList with
        | .ok () => { s with color := some lowered }.read words
        | .error fault => .error fault

/-- The words of the normal form. -/
def words (s : Style) : List String :=
  (attributeNames.flatMap fun a =>
    match s.attributes.lookup a with
    | some true => [a]
    | some false => ["not", a]
    | none => []) ++
  s.color.toList ++
  (s.background.toList.flatMap fun b => ["on", b]) ++
  (s.link.toList.flatMap fun l => ["link", l])

end Style

/-- The normal form of a description. -/
def styleNormalForm (text : List Char) : Except StyleFault String :=
  match Style.read {} ((Text.words text).map String.ofList) with
  | .ok s => .ok (" ".intercalate s.words)
  | .error .notAStyle => .ok (String.ofList (Text.lower (Text.trim text)))
  | .error fault => .error fault

end BeamLint.Console
