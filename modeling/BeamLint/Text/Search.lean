/-!
# Searching a text

A recogniser looks at a text from one of its positions, knowing the character before, and says how
many characters it takes there and what it read. `findAll` runs a recogniser over a whole text from
left to right; what it takes is not looked at again.
-/

namespace BeamLint.Text

/-- The place of the first occurrence of `pattern`. -/
def find? (pattern : List Char) : List Char → Option Nat
  | [] => if pattern.isEmpty then some 0 else none
  | c :: rest =>
    if pattern.isPrefixOf (c :: rest) then some 0 else (find? pattern rest).map (· + 1)

/-- Whether `pattern` occurs in the text. -/
def occurs (pattern text : List Char) : Bool := (find? pattern text).isSome

/-- What a recogniser found: where it starts, how many characters it takes, and what it read. -/
structure Found (α : Type) where
  start : Nat
  length : Nat
  value : α
  deriving Repr, DecidableEq

/-- The place just after what was found. -/
def Found.stop {α : Type} (f : Found α) : Nat := f.start + f.length

/-- Reads at a position, given the character before it, if any, and the text from it on: the number
of characters taken, which is never zero, and what was read. -/
abbrev Recognizer (α : Type) := Option Char → List Char → Option (Nat × α)

/-- All that `r` finds in the text at place `i`, of which the first `skip` characters have been
taken already. -/
def findAllFrom {α : Type} (r : Recognizer α) :
    (i skip : Nat) → Option Char → List Char → List (Found α)
  | _, _, _, [] => []
  | i, skip + 1, _, c :: rest => findAllFrom r (i + 1) skip (some c) rest
  | i, 0, before, c :: rest =>
    match r before (c :: rest) with
    | some (n, a) => ⟨i, n, a⟩ :: findAllFrom r (i + 1) (n - 1) (some c) rest
    | none => findAllFrom r (i + 1) 0 (some c) rest

/-- All that `r` finds in the text, from left to right. -/
def findAll {α : Type} (r : Recognizer α) (text : List Char) : List (Found α) :=
  findAllFrom r 0 0 none text

/-- A part of a text that was searched: characters in which nothing was found, or what was read. -/
inductive Chunk (α : Type) where
  | plain (text : List Char)
  | found (value : α)
  deriving Repr, DecidableEq

/-- Puts the character `c` in front of the chunks. -/
def Chunk.consPlain {α : Type} (c : Char) : List (Chunk α) → List (Chunk α)
  | .plain text :: chunks => .plain (c :: text) :: chunks
  | chunks => .plain [c] :: chunks

/-- The chunks of a text of which the first `skip` characters have been taken already. -/
def chunksFrom {α : Type} (r : Recognizer α) :
    (skip : Nat) → Option Char → List Char → List (Chunk α)
  | _, _, [] => []
  | skip + 1, _, c :: rest => chunksFrom r skip (some c) rest
  | 0, before, c :: rest =>
    match r before (c :: rest) with
    | some (n, a) => .found a :: chunksFrom r (n - 1) (some c) rest
    | none => Chunk.consPlain c (chunksFrom r 0 (some c) rest)

/-- The text cut into what `r` finds and what stands between. -/
def chunks {α : Type} (r : Recognizer α) (text : List Char) : List (Chunk α) :=
  chunksFrom r 0 none text

/-- The text with everything that `r` finds replaced by what it reads. -/
def replaceFound (r : Recognizer (List Char)) (text : List Char) : List Char :=
  (chunks r text).flatMap fun
    | .plain text => text
    | .found value => value

/-- The pieces of the text between the characters equal to `mark`; there is always one more piece
than there are marks. -/
def splitOn (mark : Char) : List Char → List (List Char)
  | [] => [[]]
  | c :: rest =>
    match splitOn mark rest with
    | [] => [[c]]
    | piece :: pieces => if c = mark then [] :: piece :: pieces else (c :: piece) :: pieces

/-- The pieces of `s` between the characters equal to `mark`. -/
def splitString (mark : Char) (s : String) : List String :=
  (splitOn mark s.toList).map String.ofList

/-- Every occurrence of `old` replaced by `new`. -/
def replaceChar (old new : Char) (text : List Char) : List Char :=
  text.map fun c => if c = old then new else c

end BeamLint.Text
