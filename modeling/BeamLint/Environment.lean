import BeamLint.Config
import BeamLint.Text.Integer

/-!
# Settings from the environment

Each setting is read from a variable of its own. A variable that is not set, or set to nothing of
use, gives the default; only the number of workers is refused when it is no integer.
-/

namespace BeamLint

/-- The variables that matter, as far as they are set. -/
structure Environment where
  strict : Option String := none
  stateWords : Option String := none
  themePattern : Option String := none
  layoutPrefix : Option String := none
  primitivePrefix : Option String := none
  maxWorkers : Option String := none
  logLevel : Option String := none
  host : Option String := none
  port : Option String := none
  deriving Repr, DecidableEq

namespace Environment

/-- The environment in which `get` gives the values of variables. -/
def ofLookup (get : String → Option String) : Environment where
  strict := get "BEAM_STRICT"
  stateWords := get "BEAM_STATE_WORDS"
  themePattern := get "BEAM_THEME_PATTERN"
  layoutPrefix := get "BEAM_LAYOUT_PREFIX"
  primitivePrefix := get "BEAM_PRIMITIVE_PREFIX"
  maxWorkers := get "BEAM_MAX_WORKERS"
  logLevel := get "BEAM_LOG_LEVEL"
  host := get "HOST"
  port := get "PORT"

/-- The text `s`, or the default when `s` is empty. -/
def orDefault (s default : String) : String := if s.isEmpty then default else s

/-- Whether warnings count as errors. -/
def isStrict (e : Environment) : Bool :=
  Text.lowerString (Text.trimString (e.strict.getD "")) ∈ ["1", "true", "yes", "on"]

/-- The state words: those between commas, or the default ones when nothing is given. -/
def stateWordList (e : Environment) : List String :=
  let raw := Text.trimString (e.stateWords.getD "")
  if raw.isEmpty then defaultStateWords else readStateWords (Text.splitString ',' raw)

/-- The pattern of theme files. -/
def themePatternText (e : Environment) : String :=
  orDefault (Text.trimString (e.themePattern.getD defaultThemePattern)) defaultThemePattern

/-- How the class of a layout primitive begins. -/
def layoutPrefixText (e : Environment) : String :=
  Text.trimString (e.layoutPrefix.getD defaultLayoutPrefix)

/-- How the name of a primitive token begins. -/
def primitivePrefixText (e : Environment) : String :=
  Text.trimString (e.primitivePrefix.getD defaultPrimitivePrefix)

/-- The number of workers. -/
def workers (e : Environment) : Except ConfigError Int :=
  match e.maxWorkers with
  | none => .ok defaultWorkers
  | some raw =>
    match Text.integer? raw.toList with
    | some n => .ok n
    | none => .error (.workersNotInteger raw)

/-- The name of the log level, in upper case. -/
def logLevelName (e : Environment) : String :=
  orDefault (Text.upperString (Text.trimString (e.logLevel.getD "INFO"))) "INFO"

/-- The address of the service. -/
def hostName (e : Environment) : String := Text.trimString (e.host.getD "0.0.0.0")

/-- The port of the service. -/
def portNumber (e : Environment) : Int := (e.port.bind fun raw => Text.integer? raw.toList).getD 8000

/-- The settings of a check, when they can be used. -/
def config (e : Environment) : Except ConfigError Config := do
  let maxWorkers ← e.workers
  Config.validate
    { strict := e.isStrict
      stateWords := e.stateWordList
      themePattern := e.themePatternText
      layoutPrefix := e.layoutPrefixText
      primitivePrefix := e.primitivePrefixText
      maxWorkers }

end Environment

end BeamLint
