import BeamLint.Console.Width.Table

/-!
# Widths on a console

A character takes one column, two or none. Characters that are shown as one belong to one cluster:
a mark belongs to the character before it, a joiner ties the next character to the one before, and
the selector of the emoji form makes some narrow characters wide.

* `clusters`: the clusters of a text, each with its width;
* `width`: the columns that a text takes.
-/

namespace BeamLint.Console

/-- The number of columns that `c` takes by itself. -/
def charWidth (c : Char) : Nat :=
  let n := c.toNat
  if n < 32 || (127 ≤ n && n < 160) then 0
  else if n < 127 then 1
  else if zeroWidthRanges.covers n then 0
  else if wideRanges.covers n then 2
  else 1

/-- Ties the next character to the one before. -/
def joiner : Char := Char.ofNat 0x200D

/-- Selects the emoji form of the character before. -/
def emojiSelector : Char := Char.ofNat 0xFE0F

/-- Characters that are shown as one, and the columns that they take. -/
structure Cluster where
  chars : List Char
  width : Nat
  deriving Repr, DecidableEq

/-- What is known between two characters of a text that is cut into clusters. -/
structure Clustering where
  /-- The clusters, the last one first. -/
  found : List Cluster := []
  /-- The last character with a width of its own, unless its emoji form was selected. -/
  measured : Option Char := none
  /-- Whether a joiner ties the next character to the last cluster. -/
  joining : Bool := false
  deriving Repr, DecidableEq

namespace Clustering

/-- Puts `c` into the last cluster and makes it wider by `more`. -/
def absorb (s : Clustering) (c : Char) (more : Nat) : List Cluster :=
  match s.found with
  | k :: found => ⟨k.chars ++ [c], k.width + more⟩ :: found
  | [] => [⟨[c], more⟩]

/-- Whether the selector of the emoji form makes the last cluster wider. -/
def widens (s : Clustering) : Bool := s.measured.any fun c => emojiFormRanges.covers c.toNat

/-- Reads the character `c`. -/
def step (s : Clustering) (c : Char) : Clustering :=
  if s.joining then { s with found := s.absorb c 0, joining := false }
  else if c = joiner then { s with found := s.absorb c 0, joining := !s.found.isEmpty }
  else if c = emojiSelector then
    if s.widens then { s with found := s.absorb c 1, measured := none }
    else { s with found := s.absorb c 0 }
  else if charWidth c = 0 then { s with found := s.absorb c 0 }
  else { s with found := ⟨[c], charWidth c⟩ :: s.found, measured := some c }

end Clustering

/-- The clusters of a text. -/
def clusters (text : List Char) : List Cluster :=
  (text.foldl Clustering.step ({} : Clustering)).found.reverse

/-- The number of columns that a text takes. -/
def width (text : List Char) : Nat :=
  (clusters text).foldl (fun n k => n + k.width) 0

end BeamLint.Console
