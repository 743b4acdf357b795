import BeamLint.Source.Kind

/-!
# Paths of files

A path has a root and parts. Without a root it starts from the working directory. Two slashes at its
beginning are a root of their own; one slash, or three and more, are the usual one. Empty parts and
dots do not count, and two dots are a part like any other.
-/

namespace BeamLint.Command

/-- What a path starts from. -/
inductive PathRoot where
  | workingDirectory
  | slash
  | twoSlashes
  deriving Repr, DecidableEq

namespace PathRoot

/-- The root of a path, told by the slashes at its beginning. -/
def ofString (path : String) : PathRoot :=
  match (path.toList.takeWhile (· = '/')).length with
  | 0 => .workingDirectory
  | 2 => .twoSlashes
  | _ => .slash

/-- How a root is written. -/
def render : PathRoot → String
  | .workingDirectory => ""
  | .slash => "/"
  | .twoSlashes => "//"

end PathRoot

/-- The parts of a path behind its root, without empty parts and dots. -/
def partsOf (path : String) : List String :=
  (pathParts path.toList).map String.ofList

/-- A path of a file or a directory. -/
structure Path where
  root : PathRoot
  parts : List String
  deriving Repr, DecidableEq

namespace Path

/-- Reads a path. -/
def ofString (path : String) : Path := ⟨.ofString path, partsOf path⟩

/-- The path of what has the given parts below a directory. -/
def below (p : Path) (parts : List String) : Path := { p with parts := p.parts ++ parts }

/-- How a path is written; the working directory is a dot. -/
def render (p : Path) : String :=
  if p.root = .workingDirectory ∧ p.parts = [] then "."
  else p.root.render ++ "/".intercalate p.parts

end Path

end BeamLint.Command
