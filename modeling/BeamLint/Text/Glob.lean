import BeamLint.Text.Search

/-!
# Glob patterns

A pattern matches a whole text: `*` stands for any characters, also none and also slashes, `?` for
one character, and brackets for one character of a class. A class is negated by `!`, holds ranges
joined by a hyphen, and may begin with a closing bracket; a bracket that is never closed is an
ordinary character.

A range whose ends are in the wrong order is dropped together with its ends, and whether the class
is negated is decided after that.
-/

namespace BeamLint.Text

/-- A class of characters in brackets: closed ranges, all of them or all others. -/
structure GlobClass where
  negated : Bool
  ranges : List (Char × Char)
  deriving Repr, DecidableEq

/-- Whether the class holds `c`. -/
def GlobClass.holds (k : GlobClass) (c : Char) : Bool :=
  (k.ranges.any fun (low, high) => low ≤ c && c ≤ high) != k.negated

/-- A part of a pattern. -/
inductive GlobPart where
  | char (c : Char)
  | one
  | many
  | oneOf (k : GlobClass)
  deriving Repr, DecidableEq

/-- Cuts the body of a class at the hyphens that make ranges. The first `keep` characters cannot be
such a hyphen; after one, the next two characters cannot. -/
def rangeChunks (keep : Nat) : List Char → List (List Char)
  | [] => [[]]
  | c :: rest =>
    match keep with
    | 0 => if c = '-' then [] :: rangeChunks 2 rest else consHead c (rangeChunks 0 rest)
    | keep + 1 => consHead c (rangeChunks keep rest)
where
  /-- Puts `c` in front of the first chunk. -/
  consHead (c : Char) : List (List Char) → List (List Char)
    | [] => [[c]]
    | chunk :: chunks => (c :: chunk) :: chunks

/-- A hyphen at the very end makes no range and belongs to the chunk before it. -/
def joinTrailing : List (List Char) → List (List Char)
  | [chunk, []] => [chunk ++ ['-']]
  | chunk :: chunks => chunk :: joinTrailing chunks
  | [] => []

/-- Drops, from the right, every range whose ends are in the wrong order. -/
def dropEmptyRanges : List (List Char) → List (List Char)
  | [] => []
  | chunk :: chunks =>
    match chunk.getLast?, dropEmptyRanges chunks with
    | some low, (high :: chars) :: others =>
      if high < low then (chunk.dropLast ++ chars) :: others else chunk :: (high :: chars) :: others
    | _, others => chunk :: others

/-- The ranges of the chunks: every character by itself, and from the last character of a chunk to
the first of the next. After an empty chunk the hyphen is an ordinary character. -/
def chunkRanges : List (List Char) → List (Char × Char)
  | [] => []
  | [chunk] => chunk.map fun c => (c, c)
  | chunk :: next :: chunks =>
    let joint :=
      match chunk.getLast?, next.head? with
      | some low, some high => (low, high)
      | _, _ => ('-', '-')
    chunk.map (fun c => (c, c)) ++ joint :: chunkRanges (next :: chunks)

/-- The class with the given body. -/
def GlobClass.ofBody (body : List Char) : GlobClass :=
  let keep := if body.head? = some '!' then 2 else 1
  match dropEmptyRanges (joinTrailing (rangeChunks keep body)) with
  | ('!' :: chunk) :: chunks => ⟨true, chunkRanges (chunk :: chunks)⟩
  | chunks => ⟨false, chunkRanges chunks⟩

/-- The body of a class and what follows its closing bracket, when there is one. A closing bracket
at the very beginning, or just after `!`, belongs to the body. -/
def classBody? (text : List Char) : Option (List Char × List Char) :=
  let (bang, rest) := if text.head? = some '!' then (['!'], text.tail) else ([], text)
  let (first, rest) := if rest.head? = some ']' then ([']'], rest.tail) else ([], rest)
  let inner := rest.takeWhile (· ≠ ']')
  match rest.dropWhile (· ≠ ']') with
  | _ :: after => some (bang ++ first ++ inner, after)
  | [] => none

/-- The parts of a pattern. The first argument bounds their number. -/
def globPartsWithin : Nat → List Char → List GlobPart
  | 0, _ => []
  | _, [] => []
  | n + 1, '*' :: rest => .many :: globPartsWithin n rest
  | n + 1, '?' :: rest => .one :: globPartsWithin n rest
  | n + 1, '[' :: rest =>
    match classBody? rest with
    | some (body, after) => .oneOf (.ofBody body) :: globPartsWithin n after
    | none => .char '[' :: globPartsWithin n rest
  | n + 1, c :: rest => .char c :: globPartsWithin n rest

/-- The parts of a pattern. -/
def globParts (pattern : List Char) : List GlobPart := globPartsWithin pattern.length pattern

/-- What may remain of a text after a part, given what may remain before it, the longest first. -/
def GlobPart.rests : GlobPart → List (List Char) → List (List Char)
  | .many, texts => (texts.head?.map tails).getD []
  | .one, texts => texts.filterMap fun | _ :: rest => some rest | [] => none
  | .char d, texts => texts.filterMap fun | c :: rest => if c = d then some rest else none | [] => none
  | .oneOf k, texts =>
    texts.filterMap fun | c :: rest => if k.holds c then some rest else none | [] => none
where
  /-- All ends of a text, the whole text first. -/
  tails : List Char → List (List Char)
    | [] => [[]]
    | c :: rest => (c :: rest) :: tails rest

/-- Whether the pattern matches the whole text. -/
def globMatches (pattern text : List Char) : Bool :=
  ((globParts pattern).foldl (fun texts part => part.rests texts) [text]).any List.isEmpty

end BeamLint.Text
