import BeamLint.Selector.Basic
import BeamLint.Text.Blank

/-!
# Reading class tokens

Blanks around a token and one leading dot are dropped. Then the token is refused when it has no
structure that could be reported on: it is empty, holds a foreign character, begins or ends with a
hyphen, has two hyphens in a row or a hyphen next to an underscore, or is nothing but the layout
prefix. The first of these, in this order, is the one that is reported.
-/

namespace BeamLint

/-- Why a class token is refused. -/
inductive SelectorFault where
  | empty
  | foreignCharacter (c : Char)
  | edgeHyphen
  | doubleHyphen
  | hyphenBesideUnderscore (joint : List Char)
  | bareLayoutPrefix
  deriving Repr, DecidableEq

/-- A refused class token. -/
structure SelectorError where
  raw : String
  fault : SelectorFault
  deriving Repr, DecidableEq

namespace SelectorError

/-- The part of the token at fault. -/
def culprit (e : SelectorError) : String :=
  match e.fault with
  | .empty | .bareLayoutPrefix => e.raw
  | .foreignCharacter c => String.ofList [c]
  | .edgeHyphen => "-"
  | .doubleHyphen => "--"
  | .hyphenBesideUnderscore joint => String.ofList joint

/-- What is wrong with it. -/
def reason (e : SelectorError) : String :=
  match e.fault with
  | .empty => "empty selector"
  | .foreignCharacter _ => "unexpected character"
  | .edgeHyphen => "leading or trailing hyphen"
  | .doubleHyphen => "consecutive hyphens"
  | .hyphenBesideUnderscore _ => "hyphen adjacent to an underscore"
  | .bareLayoutPrefix => "layout prefix without identifier"

/-- The whole message. -/
def message (e : SelectorError) : String :=
  s!"Malformed selector '{e.raw}': {e.reason} (at '{e.culprit}')"

end SelectorError

namespace Selector

/-- Whether `c` may stand in a class token. -/
def isTokenChar (c : Char) : Bool := c.isAlphanum || c == '_' || c == '-'

/-- The token without the blanks around it and without one leading dot. -/
def tokenBody (raw : List Char) : List Char :=
  match Text.trim raw with
  | '.' :: rest => rest
  | text => text

/-- The first hyphen and underscore, in either order, that stand side by side. -/
def mixedJoint? : List Char → Option (List Char)
  | '_' :: '-' :: _ => some ['_', '-']
  | '-' :: '_' :: _ => some ['-', '_']
  | _ :: rest => mixedJoint? rest
  | [] => none

/-- The first fault of a token body by itself, without regard to the layout prefix. -/
def fault? (body : List Char) : Option SelectorFault :=
  if body.isEmpty then some .empty
  else
    match body.find? fun c => !isTokenChar c with
    | some c => some (.foreignCharacter c)
    | none =>
      if body.head? = some '-' || body.getLast? = some '-' then some .edgeHyphen
      else if Text.occurs ['-', '-'] body then some .doubleHyphen
      else (mixedJoint? body).map .hyphenBesideUnderscore

/-- The component that a token body names: its segments between the hyphens. -/
def componentOf (body : List Char) : SelectorForm :=
  match Text.splitOn '-' body with
  | block :: path => .component (String.ofList block) (path.map String.ofList)
  | [] => .component "" []

/-- Reads a class token. -/
def parse (layoutPrefix raw : String) : Except SelectorError Selector :=
  let body := tokenBody raw.toList
  match fault? body with
  | some fault => .error ⟨raw, fault⟩
  | none =>
    match layoutPrefix.toList.isPrefixOf? body with
    | some [] => .error ⟨raw, .bareLayoutPrefix⟩
    | some identifier =>
      .ok ⟨raw, .layout (String.ofList identifier) (String.ofList body)⟩
    | none => .ok ⟨raw, componentOf body⟩

end Selector

end BeamLint
