import BeamLint.Command.Outcome

/-!
# The command line

Reads arguments, environment and files, runs the command and writes what it says.
-/

namespace BeamLint

/-- The environment of the process. -/
def readEnvironment : IO Environment := do
  let names := ["BEAM_STRICT", "BEAM_STATE_WORDS", "BEAM_THEME_PATTERN", "BEAM_LAYOUT_PREFIX",
    "BEAM_PRIMITIVE_PREFIX", "BEAM_MAX_WORKERS", "BEAM_LOG_LEVEL", "HOST", "PORT"]
  let values ← names.mapM fun name => return (name, ← IO.getEnv name)
  return .ofLookup fun name => (values.lookup name).join

/-- The files below a directory, with the parts of their paths after `parts`. -/
partial def readDirectory (path : String) (parts : List String) : IO (List Command.TreeFile) := do
  let entries ← ((← IO.currentDir) / path).readDir
  let files ← entries.toList.mapM fun entry => do
    let below := path ++ "/" ++ entry.fileName
    let parts := parts ++ [entry.fileName]
    if ← entry.path.isDir then readDirectory below parts
    else return [⟨parts, ← IO.FS.readBinFile below⟩]
  return files.flatten

/-- What is found at a path. -/
def readNode (path : String) : IO (Option Command.Node) := do
  try
    return some (.directory (← readDirectory path []))
  catch _ =>
    try
      return some (.file (← IO.FS.readBinFile path))
    catch _ =>
      return none

/-- What is found at the paths that a command line names, if there is something at each. -/
def readNodes (paths : List String) : IO (Option (List (String × Command.Node))) := do
  let nodes ← paths.mapM fun path => return (path, ← readNode path)
  return nodes.mapM fun (path, node) => node.map (path, ·)

/-- Runs a command line against the files of the process. -/
def runCommand (e : Environment) (args : List String) : IO (Except Command.Failure Command.Outcome) := do
  match Command.Invocation.ofArguments? args with
  | some (.check c) =>
    match ← readNodes c.paths with
    | some nodes => return c.run e nodes
    | none => return .ok .usageError
  | _ => return Command.run e { files := [], directories := [] } args

end BeamLint

/-- Runs the command line and ends with its code. -/
def main (args : List String) : IO UInt32 := do
  let e ← BeamLint.readEnvironment
  match ← BeamLint.runCommand e args with
  | .ok outcome =>
    IO.print outcome.output
    if let some endpoint := outcome.endpoint then
      IO.eprintln s!"{endpoint.target} on {endpoint.host}:{endpoint.port}"
    return outcome.exitCode.toUInt32
  | .error (.log _) =>
    IO.eprintln "unknown log level"
    return 1
  | .error .path =>
    IO.eprintln "path that cannot be used"
    return 1
  | .error (.console _) =>
    IO.eprintln "message with marks that cannot be shown"
    return 1
