import BeamLint.Text.Integer
import BeamLint.Text.Search
import BeamLint.Value.Color

/-!
# Tokens of literals

A literal is written with numbers, quoted texts, the words for truth values and for nothing,
parentheses, braces, commas, colons and signs. Blanks may stand between tokens, inside brackets also
line ends, and after a number sign the rest of the line does not count. Outside brackets no token
comes after a line end.

* `dropNumber?` and `dropQuoted?` read one token;
* `tokens?` reads a whole text, in which brackets may be nested two hundred deep.
-/

namespace BeamLint.Console.Literal

/-- A token of a literal. -/
inductive Token where
  /-- A number; `imaginary` tells whether it has the imaginary unit. -/
  | number (imaginary : Bool)
  /-- A quoted text, of characters or of bytes. -/
  | quoted (bytes : Bool)
  /-- A truth value, nothing, or an ellipsis. -/
  | constant
  /-- The name of the empty set. -/
  | setName
  | opening (c : Char)
  | closing (c : Char)
  | comma
  | colon
  | sign
  deriving Repr, DecidableEq

/-! ### Numbers -/

/-- What follows further digits, each perhaps after an underscore. -/
def dropMore (isDigit : Char → Bool) : List Char → List Char
  | '_' :: c :: rest => if isDigit c then dropMore isDigit rest else '_' :: c :: rest
  | c :: rest => if isDigit c then dropMore isDigit rest else c :: rest
  | [] => []

/-- What follows digits with single underscores between them, of which there has to be one. -/
def dropDigits? (isDigit : Char → Bool) (text : List Char) : Option (List Char) :=
  match text with
  | c :: rest => if isDigit c then some (dropMore isDigit rest) else none
  | [] => none

/-- What follows the point of a number and the digits after it. -/
def dropFraction (text : List Char) : List Char :=
  match text with
  | '.' :: rest => (dropDigits? Char.isDigit rest).getD rest
  | _ => text

/-- What follows the exponent of a number. -/
def dropExponent (text : List Char) : List Char :=
  match text with
  | e :: rest =>
    let digits := if rest.head? = some '+' || rest.head? = some '-' then rest.tail else rest
    if e == 'e' || e == 'E' then (dropDigits? Char.isDigit digits).getD text else text
  | [] => []

/-- Whether `c` may stand in a name. -/
def isNamePart (c : Char) : Bool := c.isAlphanum || c == '_' || 128 ≤ c.toNat

/-- A number and what follows it, unless that would go on with a name. -/
def endNumber? (imaginary : Bool) (rest : List Char) : Option (Token × List Char) :=
  if rest.head?.any isNamePart then none else some (.number imaginary, rest)

/-- Whether the digits of an integer are few enough, and none but zeros follow a zero in front. -/
def isPlainInteger (digits : List Char) : Bool :=
  let digits := digits.filter (· ≠ '_')
  digits.length ≤ Text.maxDigits && (digits.head? ≠ some '0' || digits.all (· = '0'))

/-- A decimal number and what follows it. -/
def dropDecimal? (text : List Char) : Option (Token × List Char) :=
  let afterWhole := (dropDigits? Char.isDigit text).getD text
  let afterFraction := dropFraction afterWhole
  let rest := dropExponent afterFraction
  if text.length ≤ afterFraction.length + 1 && afterWhole.length = text.length then none
  else if rest.head? = some 'j' || rest.head? = some 'J' then endNumber? true rest.tail
  else if rest.length < afterWhole.length then endNumber? false rest
  else if isPlainInteger (text.take (text.length - rest.length)) then endNumber? false rest
  else none

/-- The digits of the base that a letter after a zero stands for. -/
def baseDigits? (letter : Char) : Option (Char → Bool) :=
  if letter == 'x' || letter == 'X' then some isHexDigit
  else if letter == 'o' || letter == 'O' then some fun c => '0' ≤ c && c ≤ '7'
  else if letter == 'b' || letter == 'B' then some fun c => c == '0' || c == '1'
  else none

/-- A number and what follows it. -/
def dropNumber? (text : List Char) : Option (Token × List Char) :=
  match text with
  | '0' :: letter :: rest =>
    match baseDigits? letter with
    | some isDigit =>
      let digits := if rest.head? = some '_' then rest.tail else rest
      (dropDigits? isDigit digits).bind (endNumber? false)
    | none => dropDecimal? text
  | _ => dropDecimal? text

/-! ### Quoted texts -/

/-- Whether `c` ends a line. -/
def endsLine (c : Char) : Bool := c == '\n' || c == '\r'

/-- What stands between quotes, and what follows the closing one; a backslash keeps the character
after it from closing. Between single quotes no line may end. -/
def quotedBody? (close : List Char) : List Char → Option (List Char × List Char)
  | [] => none
  | '\\' :: c :: rest =>
    (quotedBody? close rest).map fun (body, after) => ('\\' :: c :: body, after)
  | c :: rest =>
    match close.isPrefixOf? (c :: rest) with
    | some after => some ([], after)
    | none =>
      if close.length = 1 && endsLine c then none
      else (quotedBody? close rest).map fun (body, after) => (c :: body, after)

/-- The number of hexadecimal digits that an escape with the given letter needs. -/
def escapeWidth (bytes : Bool) (letter : Char) : Nat :=
  if letter == 'x' then 2
  else if bytes then 0
  else if letter == 'u' then 4
  else if letter == 'U' then 8
  else 0

/-- Whether all escapes of a quoted text can be read. A character cannot be given by name. -/
def escapesFit (bytes : Bool) : List Char → Bool
  | '\\' :: c :: rest =>
    let width := escapeWidth bytes c
    let digits := (rest.take width).takeWhile isHexDigit
    digits.length == width && (bytes || c != 'N') &&
      (width < 8 || (['0', '0', '0'].isPrefixOf rest || ['0', '0', '1', '0'].isPrefixOf rest)) &&
      escapesFit bytes rest
  | _ :: rest => escapesFit bytes rest
  | [] => true

/-- A quoted text and what follows it, given the letters before the quote. -/
def dropQuoted? (letters text : List Char) : Option (Token × List Char) :=
  let letters := letters.map Char.toLower
  let bytes := letters.contains 'b'
  let raw := letters.contains 'r'
  match text with
  | quote :: rest =>
    let close :=
      if [quote, quote].isPrefixOf rest then [quote, quote, quote] else [quote]
    match quotedBody? close (text.drop close.length) with
    | some (body, after) =>
      if String.ofList letters ∈ ["", "r", "u", "b", "br", "rb"] &&
          (raw || escapesFit bytes body) && (!bytes || body.all fun c => c.toNat < 128) then
        some (.quoted bytes, after)
      else none
    | none => none
  | [] => none

/-! ### Texts -/

/-- A word and what follows it: a constant, the name of the empty set, or the letters before a
quoted text. -/
def dropWord? (text : List Char) : Option (Token × List Char) :=
  let word := text.takeWhile isNamePart
  let rest := text.drop word.length
  if rest.head? = some '\'' || rest.head? = some '"' then dropQuoted? word rest
  else if String.ofList word ∈ ["True", "False", "None"] then some (.constant, rest)
  else if String.ofList word = "set" then some (.setName, rest)
  else none

/-- The first token of a text that does not begin with a blank, and what follows it. -/
def dropToken? (text : List Char) : Option (Token × List Char) :=
  match text with
  | '.' :: '.' :: '.' :: rest => some (.constant, rest)
  | c :: rest =>
    if c == '(' || c == '{' then some (.opening c, rest)
    else if c == ')' || c == '}' then some (.closing c, rest)
    else if c == ',' then some (.comma, rest)
    else if c == ':' then some (.colon, rest)
    else if c == '+' || c == '-' then some (.sign, rest)
    else if c.isDigit || c == '.' then dropNumber? text
    else dropWord? text
  | [] => none

/-- The deepest nesting of brackets. -/
def maxDepth : Nat := 200

/-- The tokens of a text inside `depth` brackets. The first argument bounds the number of steps. -/
def tokensWithin : Nat → (depth : Nat) → List Char → Option (List Token)
  | _, depth, [] => if depth = 0 then some [] else none
  | 0, _, _ => none
  | n + 1, depth, c :: rest =>
    if c == ' ' || c == '\t' || c.toNat == 12 then tokensWithin n depth rest
    else if endsLine c then
      (tokensWithin n depth rest).filter fun tokens => depth ≠ 0 || tokens.isEmpty
    else if c == '#' then tokensWithin n depth (rest.dropWhile fun d => !endsLine d)
    else if c == '\\' then
      match rest with
      | '\r' :: '\n' :: rest => tokensWithin n depth rest
      | d :: rest => if endsLine d && !rest.isEmpty then tokensWithin n depth rest else none
      | [] => none
    else
      match dropToken? (c :: rest) with
      | some (.opening b, rest) =>
        if maxDepth ≤ depth then none
        else (tokensWithin n (depth + 1) rest).map (.opening b :: ·)
      | some (.closing b, rest) =>
        if depth = 0 then none else (tokensWithin n (depth - 1) rest).map (.closing b :: ·)
      | some (t, rest) => (tokensWithin n depth rest).map (t :: ·)
      | none => none

/-- The tokens of a text. -/
def tokens? (text : List Char) : Option (List Token) := tokensWithin (text.length + 1) 0 text

end BeamLint.Console.Literal
