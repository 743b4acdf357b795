import BeamLint.Console.Literal.Token

/-!
# Literals

A literal is a number, perhaps with a sign or with an imaginary part, a quoted text, a constant, a
tuple, a set or a dictionary of literals. What can change, a set or a dictionary, is neither a
member of a set nor a key, not even inside a tuple.
-/

namespace BeamLint.Console.Literal

/-- What is known about a literal. -/
inductive Kind where
  /-- A number without a sign. -/
  | number (imaginary : Bool)
  /-- A number with a sign. -/
  | signed (imaginary : Bool)
  /-- Any other literal; `fixed` tells whether it cannot change. -/
  | other (fixed : Bool)
  deriving Repr, DecidableEq

/-- Whether a literal cannot change. -/
def Kind.isFixed : Kind → Bool
  | .other fixed => fixed
  | _ => true

/-- Whether a literal is a number without an imaginary part. -/
def Kind.isReal : Kind → Bool
  | .number imaginary | .signed imaginary => !imaginary
  | .other _ => false

/-- What follows quoted texts that stand side by side, all of characters or all of bytes. -/
def dropQuotedRun (bytes : Bool) : List Token → Option (List Token)
  | .quoted b :: rest => if b = bytes then dropQuotedRun bytes rest else none
  | rest => some rest

mutual

/-- A literal without a sign, and what follows it. The first argument bounds the depth. -/
def atom? : Nat → List Token → Option (Kind × List Token)
  | 0, _ => none
  | n + 1, tokens =>
    match tokens with
    | .number imaginary :: rest => some (.number imaginary, rest)
    | .quoted bytes :: rest => (dropQuotedRun bytes rest).map (.other true, ·)
    | .constant :: rest => some (.other true, rest)
    | .setName :: .opening '(' :: .closing ')' :: rest => some (.other false, rest)
    | .opening '(' :: .closing ')' :: rest => some (.other true, rest)
    | .opening '{' :: .closing '}' :: rest => some (.other false, rest)
    | .opening '(' :: rest =>
      match literal? n rest with
      | some (k, .closing ')' :: rest) => some (k, rest)
      | some (k, .comma :: rest) => (items? n ')' k.isFixed rest).map fun (f, rest) => (.other f, rest)
      | _ => none
    | .opening '{' :: rest =>
      match literal? n rest with
      | some (k, .colon :: rest) => if k.isFixed then (value? n rest).map (.other false, ·) else none
      | some (k, .closing '}' :: rest) => if k.isFixed then some (.other false, rest) else none
      | some (k, .comma :: rest) =>
        match items? n '}' k.isFixed rest with
        | some (true, rest) => some (.other false, rest)
        | _ => none
      | _ => none
    | _ => none

/-- A literal and what follows it. -/
def literal? : Nat → List Token → Option (Kind × List Token)
  | 0, _ => none
  | n + 1, .sign :: rest =>
    match atom? n rest with
    | some (.number imaginary, rest) => sum? n (.signed imaginary) rest
    | _ => none
  | n + 1, tokens =>
    match atom? n tokens with
    | some (k, rest) => sum? n k rest
    | none => none

/-- The literal that was read with an imaginary part, if one follows. -/
def sum? : Nat → Kind → List Token → Option (Kind × List Token)
  | 0, _, _ => none
  | n + 1, k, .sign :: rest =>
    match k.isReal, atom? n rest with
    | true, some (.number true, rest) => some (.other true, rest)
    | _, _ => none
  | _ + 1, k, rest => some (k, rest)

/-- Literals with commas between them up to a closing bracket, and what follows it. The answer tells
whether none of them can change, given this of those before. -/
def items? : Nat → (closing : Char) → (fixed : Bool) → List Token → Option (Bool × List Token)
  | 0, _, _, _ => none
  | n + 1, closing, fixed, tokens =>
    if tokens.head? = some (.closing closing) then some (fixed, tokens.tail)
    else
      match literal? n tokens with
      | some (k, .comma :: rest) => items? n closing (fixed && k.isFixed) rest
      | some (k, .closing c :: rest) =>
        if c = closing then some (fixed && k.isFixed, rest) else none
      | _ => none

/-- The value of a key and the further entries of a dictionary; gives what follows its brace. -/
def value? : Nat → List Token → Option (List Token)
  | 0, _ => none
  | n + 1, tokens =>
    match literal? n tokens with
    | some (_, .closing '}' :: rest) => some rest
    | some (_, .comma :: .closing '}' :: rest) => some rest
    | some (_, .comma :: rest) =>
      match literal? n rest with
      | some (k, .colon :: rest) => if k.isFixed then value? n rest else none
      | _ => none
    | _ => none

end

/-- Whether the text is a literal, or several with commas between them. -/
def isLiteral (text : List Char) : Bool :=
  match tokens? text with
  | some (t :: tokens) =>
    let whole := .opening '(' :: t :: tokens ++ [.closing ')']
    (atom? (4 * whole.length) whole).any fun (_, rest) => rest.isEmpty
  | _ => false

end BeamLint.Console.Literal
