import BeamLint.Config
import BeamLint.Json.Printer

/-!
# Requests for a check

The body of a request lists files and may override settings. What does not fit is told by its place
in the body; fields that nobody asks for are ignored, and null means that an option is not given.
-/

namespace BeamLint.Service

/-- A step from a JSON value into one of its parts. -/
inductive Step where
  | field (name : String)
  | item (index : Nat)
  deriving Repr, DecidableEq

/-- The place of a part that does not fit. -/
abbrev Fault := List Step

/-- A file of a request. -/
structure FileIn where
  path : String
  content : String
  deriving Repr, DecidableEq

/-- A request for a check. -/
structure CheckRequest where
  files : List FileIn
  options : Option Overrides
  deriving Repr, DecidableEq

/-- A value that was read, or the places of all parts that do not fit. -/
abbrev Reading (α : Type) := Except (List Fault) α

/-- Reads two parts; the faults of both count. -/
def both {α β : Type} (a : Reading α) (b : Reading β) : Reading (α × β) :=
  match a, b with
  | .ok x, .ok y => .ok (x, y)
  | .ok _, .error fs => .error fs
  | .error fs, .ok _ => .error fs
  | .error fs, .error gs => .error (fs ++ gs)

/-- Reads the items of an array, the first of which is at place `i`; the faults of all count. -/
def readItems {α : Type} (read : Fault → Json → Reading α) (place : Fault) (i : Nat) :
    List Json → Reading (List α)
  | [] => .ok []
  | item :: items =>
    (both (read (place ++ [.item i]) item) (readItems read place (i + 1) items)).map fun (x, xs) =>
      x :: xs

/-- Reads an array. -/
def readList {α : Type} (read : Fault → Json → Reading α) (place : Fault) : Json → Reading (List α)
  | .arr items => readItems read place 0 items
  | _ => .error [place]

/-- Reads a text. -/
def readText (place : Fault) : Json → Reading String
  | .str s => .ok s
  | _ => .error [place]

/-- Reads a text that is not empty. -/
def readNonempty (place : Fault) : Json → Reading String
  | .str s => if s.isEmpty then .error [place] else .ok s
  | _ => .error [place]

/-- The words for true and false. -/
def flagWord? (word : String) : Option Bool :=
  if word ∈ ["1", "on", "t", "true", "y", "yes"] then some true
  else if word ∈ ["0", "off", "f", "false", "n", "no"] then some false
  else none

/-- Reads a truth value: itself, one or zero as a number, or a word for it in whatever case. -/
def readFlag (place : Fault) : Json → Reading Bool
  | .bool b => .ok b
  | .num mantissa exponent =>
    if mantissa = 0 then .ok false
    else if mantissa = Int.ofNat (Nat.pow 10 exponent) then .ok true
    else .error [place]
  | .str s =>
    match flagWord? (s.map Char.toLower) with
    | some b => .ok b
    | none => .error [place]
  | _ => .error [place]

/-- Reads a field that has to be there. -/
def required {α : Type} (read : Fault → Json → Reading α) (place : Fault)
    (fields : List (String × Json)) (name : String) : Reading α :=
  let here := place ++ [.field name]
  match Json.field? fields name with
  | some j => read here j
  | none => .error [here]

/-- Reads a field that may be missing or null. -/
def optional {α : Type} (read : Fault → Json → Reading α) (place : Fault)
    (fields : List (String × Json)) (name : String) : Reading (Option α) :=
  match Json.field? fields name with
  | some .null => .ok none
  | some j => (read (place ++ [.field name]) j).map some
  | none => .ok none

/-- Reads a file. -/
def readFileIn (place : Fault) : Json → Reading FileIn
  | .obj fields =>
    (both (required readNonempty place fields "path") (required readText place fields "content")).map
      fun (path, content) => ⟨path, content⟩
  | _ => .error [place]

/-- Reads the options of a request. -/
def readOptions (place : Fault) : Json → Reading Overrides
  | .obj fields =>
    (both (optional readFlag place fields "strict")
      (both (optional (readList readText) place fields "state_words")
        (optional readText place fields "theme_pattern"))).map
      fun (strict, stateWords, themePattern) => { strict, stateWords, themePattern }
  | _ => .error [place]

/-- Reads the body of a request; no body and null do not fit. -/
def readRequest : Option Json → Reading CheckRequest
  | some (.obj fields) =>
    let place := [Step.field "body"]
    (both (required (readList readFileIn) place fields "files")
      (optional readOptions place fields "options")).map fun (files, options) => ⟨files, options⟩
  | _ => .error [[.field "body"]]

/-- How the place of a fault is written. -/
def Fault.render (f : Fault) : String :=
  let steps := f.map fun
    | .field name => String.ofList (Json.printString name)
    | .item i => s!"{i}"
  "[" ++ ", ".intercalate steps ++ "]"

end BeamLint.Service
