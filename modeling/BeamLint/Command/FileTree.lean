import BeamLint.Command.Path
import BeamLint.Source.Content

/-!
# Files of a check

What is found at a path, and the sources that come from it: a file is taken whatever it is called,
and of a directory all files of known kind are taken, at any depth, ordered by the parts of their
paths. A source is reported under its path as it was given, with its root and its parts.
-/

namespace BeamLint.Command

/-- A file below a directory: the parts of its path from there, and what it holds. -/
structure TreeFile where
  parts : List String
  content : ByteArray

/-- What is found at a path. -/
inductive Node where
  | file (content : ByteArray)
  | directory (files : List TreeFile)

/-- Whether a file with the given parts is of known kind. -/
def hasKnownKind (parts : List String) : Bool :=
  SourceKind.ofFileName ((parts.getLast?.getD "").toList) ≠ .unknown

/-- The order of paths: part by part, and a path before what lies below it. -/
def partsBefore : List String → List String → Bool
  | [], _ => true
  | _ :: _, [] => false
  | a :: as, b :: bs => if a = b then partsBefore as bs else decide (a ≤ b)

/-- The sources at a path. -/
def Node.sources (path : String) : Node → List Source
  | .file content => [⟨(Path.ofString path).render, .bytes content⟩]
  | .directory files =>
    let known := files.filter fun f => hasKnownKind f.parts
    (known.mergeSort fun a b => partsBefore a.parts b.parts).map fun f =>
      ⟨((Path.ofString path).below f.parts).render, .bytes f.content⟩

/-- The sources at several paths, one path after the other. -/
def nodeSources (nodes : List (String × Node)) : List Source :=
  nodes.flatMap fun (path, node) => node.sources path

/-- Files and directories by the parts of their paths from the working directory, and the place of
the working directory itself: the parts of its path from the root. There is nothing else but the
directories above it. -/
structure FileTree where
  files : List TreeFile
  directories : List (List String)
  place : List String := ["work"]

namespace FileTree

/-- Whether there is a directory at a place. -/
def isDirectory (t : FileTree) (place : List String) : Bool :=
  place.isPrefixOf t.place || t.directories.any (fun d => place.isPrefixOf (t.place ++ d)) ||
    t.files.any fun f =>
      place.isPrefixOf (t.place ++ f.parts) && place.length < (t.place ++ f.parts).length

/-- The file at a place. -/
def file? (t : FileTree) (place : List String) : Option TreeFile :=
  t.files.find? fun f => t.place ++ f.parts = place

/-- The files below a place, by the parts of their paths from there. -/
def filesBelow (t : FileTree) (place : List String) : List TreeFile :=
  t.files.filterMap fun f =>
    (place.isPrefixOf? (t.place ++ f.parts)).map fun rest => ⟨rest, f.content⟩

/-- Where the paths with a root start. -/
def start (t : FileTree) : PathRoot → List String
  | .workingDirectory => t.place
  | .slash | .twoSlashes => []

/-- Follows the pieces of a path between slashes from the directory at `here`: an empty piece or a
dot stays there, two dots go up, but not above the root, and a name goes down to what has it. -/
def follow (t : FileTree) (here : List String) : List String → Option (List String)
  | [] => some here
  | piece :: pieces =>
    if !t.isDirectory here then none
    else if piece = "" || piece = "." then t.follow here pieces
    else if piece = ".." then t.follow here.dropLast pieces
    else
      let next := here ++ [piece]
      if t.isDirectory next || (t.file? next).isSome then t.follow next pieces else none

/-- What is found at a path. -/
def node? (t : FileTree) (path : String) : Option Node :=
  if path.isEmpty then none
  else
    match t.follow (t.start (.ofString path)) (Text.splitString '/' path) with
    | none => none
    | some place =>
      if t.isDirectory place then some (.directory (t.filesBelow place))
      else (t.file? place).map fun f => .file f.content

/-- What is found at several paths, if there is something at each. -/
def nodes? (t : FileTree) (paths : List String) : Option (List (String × Node)) :=
  paths.mapM fun path => (t.node? path).map (path, ·)

end FileTree

end BeamLint.Command
