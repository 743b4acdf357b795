import BeamLint.Console.Width
import BeamLint.Text.Blank
import BeamLint.Text.Search

/-!
# Lines of a console

A console has eighty columns. A text that is too long is broken between words, and a word that is
too long is cut between clusters. A tab goes on to the next column that is a multiple of eight.
-/

namespace BeamLint.Console

/-- The number of columns. -/
def columns : Nat := 80

/-- The distance between the columns at which tabs stop. -/
def tabStop : Nat := 8

/-- The parts of a line between tabs, from column `column` on, with spaces for the tabs. -/
def joinTabs (column : Nat) : List (List Char) → List Char
  | [] => []
  | [part] => part
  | part :: parts =>
    let here := column + width part
    let next := (here / tabStop + 1) * tabStop
    part ++ List.replicate (next - here) ' ' ++ joinTabs next parts

/-- The line with spaces for its tabs. -/
def expandTabs (line : List Char) : List Char := joinTabs 0 (Text.splitOn '\t' line)

/-- Finds words: the blanks before one, its characters, and the blanks after it. -/
def wordRecognizer : Text.Recognizer (List Char) := fun _ text =>
  let lead := text.takeWhile Text.isBlank
  let rest := text.drop lead.length
  let word := rest.takeWhile fun c => !Text.isBlank c
  let trail := (rest.drop word.length).takeWhile Text.isBlank
  let whole := lead ++ word ++ trail
  if word.isEmpty then none else some (whole.length, whole)

/-- Lines that are full, the last one first, and the line that is being filled. -/
structure Filling where
  full : List (List Char) := []
  line : List Char := []
  deriving Repr, DecidableEq

namespace Filling

/-- Puts one cluster after what is there, on a new line if it does not fit. -/
def addCluster (room : Nat) (f : Filling) (k : Cluster) : Filling :=
  if width f.line + k.width ≤ room then { f with line := f.line ++ k.chars }
  else ⟨f.line :: f.full, k.chars⟩

/-- Puts one word after what is there. A word that fits on no line starts a line and goes on over
the next ones. -/
def addWord (room : Nat) (f : Filling) (word : List Char) : Filling :=
  let size := width (Text.trimRight word)
  if width f.line + size ≤ room then { f with line := f.line ++ word }
  else
    let full := if f.full.isEmpty && f.line.isEmpty then f.full else f.line :: f.full
    if room < size then (clusters word).foldl (addCluster room) ⟨full, []⟩ else ⟨full, word⟩

end Filling

/-- A line without the blanks at its end that come after the first `room` characters. -/
def cropEnd (room : Nat) (line : List Char) : List Char :=
  let bare := (Text.trimRight line).length
  line.take (max bare (min line.length room))

/-- The clusters that fit into `room` columns; a space stands for the half of one that does not. -/
def cropClusters (room : Nat) : List Cluster → List Char
  | [] => []
  | k :: rest =>
    if k.width ≤ room then k.chars ++ cropClusters (room - k.width) rest
    else List.replicate room ' '

/-- A line without what goes beyond `room` columns. -/
def crop (room : Nat) (line : List Char) : List Char :=
  cropClusters room (clusters (cropEnd room line))

/-- The text in lines of `room` columns. -/
def wrap (room : Nat) (text : List Char) : List (List Char) :=
  let words := (Text.findAll wordRecognizer text).map (·.value)
  if words.isEmpty then [crop room text]
  else
    let f := words.foldl (Filling.addWord room) ({} : Filling)
    (f.line :: f.full).reverse.map (crop room)

end BeamLint.Console
