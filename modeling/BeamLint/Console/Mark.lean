import BeamLint.Console.Emoji
import BeamLint.Console.Handler
import BeamLint.Console.Style

/-!
# Marks in a text

Marks in brackets say how a text is to look; they are not shown. A mark begins with a small letter,
a number sign or an at sign, and holds until it is closed: by a slash and the same style, or by a
slash alone, which closes the last one. A backslash before a mark makes it ordinary text, and two
backslashes before it stand for one.
-/

namespace BeamLint.Console

/-- What is wrong with the marks of a text. -/
inductive MarkError where
  /-- A style is closed that is not open. -/
  | notOpen (style : String)
  /-- The last mark is closed, but none is open. -/
  | nothingOpen
  /-- The handler of a mark cannot be read. -/
  | handler (parameters : String)
  /-- A component of a color cannot be read. -/
  | component
  deriving Repr, DecidableEq

/-- What is read at a mark: the backslashes before it, and what stands in its brackets. -/
structure Bracketed where
  backslashes : Nat
  inner : List Char
  deriving Repr, DecidableEq

/-- Whether a mark may begin with `c`. -/
def startsMark (c : Char) : Bool := c.isLower || c == '#' || c == '/' || c == '@'

/-- Finds marks with the backslashes before them. -/
def markRecognizer : Text.Recognizer Bracketed := fun _ text =>
  let backslashes := text.takeWhile (· = '\\')
  match text.drop backslashes.length with
  | '[' :: c :: rest =>
    let inner := rest.takeWhile fun d => d ≠ '[' && d ≠ ']'
    if startsMark c && (rest.drop inner.length).head? = some ']' then
      some (backslashes.length + inner.length + 3, ⟨backslashes.length, c :: inner⟩)
    else none
  | _ => none

/-- A part of a marked text. -/
inductive MarkPiece where
  | text (chars : List Char)
  | mark (inner : List Char)
  deriving Repr, DecidableEq

/-- The parts that stand for a mark with the backslashes before it. -/
def Bracketed.pieces (b : Bracketed) : List MarkPiece :=
  (if b.backslashes ≥ 2 then [.text (List.replicate (b.backslashes / 2) '\\')] else []) ++
    [if b.backslashes % 2 = 1 then .text ('[' :: b.inner ++ [']']) else .mark b.inner]

/-- The parts of a marked text. -/
def markPieces (text : List Char) : List MarkPiece :=
  (Text.chunks markRecognizer text).flatMap fun
    | .plain chars => [.text chars]
    | .found b => b.pieces

/-- Finds brackets with a backslash before them; the backslash is not shown. -/
def escapedBracket : Text.Recognizer (List Char) := fun _ text =>
  match text with
  | '\\' :: '[' :: _ => some (2, ['['])
  | _ => none

/-- Whether `c` would move the cursor instead of being shown. -/
def movesCursor (c : Char) : Bool :=
  c.toNat == 7 || c.toNat == 8 || c.toNat == 11 || c.toNat == 12 || c.toNat == 13

/-- What is shown of a part without marks. -/
def shownText (chars : List Char) : List Char :=
  (replaceEmoji (Text.replaceFound escapedBracket chars)).filter fun c => !movesCursor c

/-- A mark that is open: the normal form of its style, and what follows its equals sign. -/
structure OpenMark where
  style : String
  parameters : Option (List Char)
  deriving Repr, DecidableEq

/-- The marks that are open, the last one first. -/
abbrev OpenMarks := List OpenMark

/-- The normal form of the style of a mark. -/
def markStyle (name : List Char) : Except MarkError String :=
  match styleNormalForm name with
  | .ok style => .ok style
  | .error _ => .error .component

/-- Closes a mark that is no longer among the open ones; a handler is looked at only now. -/
def OpenMark.close (m : OpenMark) : Except MarkError Unit :=
  match m.parameters with
  | some parameters =>
    if m.style.toList.head? = some '@' && !isHandler parameters then
      .error (.handler (String.ofList parameters))
    else .ok ()
  | none => .ok ()

namespace OpenMarks

/-- Closes the last mark. -/
def closeLast (ms : OpenMarks) : Except MarkError OpenMarks :=
  match ms with
  | m :: ms => do m.close; return ms
  | [] => .error .nothingOpen

/-- Closes the last mark of the given style. -/
def closeStyle (ms : OpenMarks) (style : String) : Except MarkError OpenMarks :=
  match ms.find? fun m => m.style = style with
  | some m => do m.close; return ms.eraseP fun m => m.style = style
  | none => .error (.notOpen style)

/-- The open marks after a mark with `inner` in its brackets. -/
def step (ms : OpenMarks) (inner : List Char) : Except MarkError OpenMarks :=
  let name := inner.takeWhile (· ≠ '=')
  match name with
  | '/' :: style =>
    if Text.isAllBlank style then ms.closeLast
    else do ms.closeStyle (← markStyle (Text.trim style))
  | _ => do
    let parameters :=
      if name.length < inner.length then some (inner.drop (name.length + 1)) else none
    return ⟨← markStyle name, parameters⟩ :: ms

/-- What is shown of the parts of a text, given the marks that are open before them. Marks may stay
open at the end. -/
def shown (ms : OpenMarks) : List MarkPiece → Except MarkError (List Char)
  | [] => .ok []
  | .text chars :: pieces => do return shownText chars ++ (← shown ms pieces)
  | .mark inner :: pieces => do shown (← ms.step inner) pieces

end OpenMarks

/-- What is shown of a marked text. -/
def plainText (text : List Char) : Except MarkError (List Char) :=
  OpenMarks.shown [] (markPieces text)

end BeamLint.Console
