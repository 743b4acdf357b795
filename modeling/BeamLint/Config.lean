import BeamLint.Order
import BeamLint.Text.Blank
import BeamLint.Text.Case
import BeamLint.Text.Glob
import BeamLint.Text.Quoted

/-!
# Settings of a check

The settings, the conditions that make them usable, and how a caller overrides some of them. The
first condition that fails is the one that is reported.
-/

namespace BeamLint

/-- The words that name a state when nothing else is said, in increasing order. -/
def defaultStateWords : List String :=
  ["active", "checked", "current", "danger", "disabled", "error", "expanded", "focused", "hidden",
   "loading", "open", "selected", "success", "visible", "warning"]

/-- The pattern of theme files when nothing else is said. -/
def defaultThemePattern : String := "*theme.css"

/-- How the class of a layout primitive begins when nothing else is said. -/
def defaultLayoutPrefix : String := "l_"

/-- How the name of a primitive token begins when nothing else is said. -/
def defaultPrimitivePrefix : String := "--primitive-"

/-- The number of workers when nothing else is said. -/
def defaultWorkers : Int := 4

/-- The settings of a check. -/
structure Config where
  /-- Whether warnings count as errors in the exit code. -/
  strict : Bool := false
  /-- The words that name a state, in increasing order. -/
  stateWords : List String := defaultStateWords
  /-- The pattern that the paths of theme files match. -/
  themePattern : String := defaultThemePattern
  /-- How the class of a layout primitive begins. -/
  layoutPrefix : String := defaultLayoutPrefix
  /-- How the name of a primitive token begins. -/
  primitivePrefix : String := defaultPrimitivePrefix
  /-- How many files may be worked on at once. -/
  maxWorkers : Int := defaultWorkers
  deriving Repr, DecidableEq

/-- Why settings cannot be used. -/
inductive ConfigError where
  | emptyLayoutPrefix
  | primitivePrefixForm
  | emptyThemePattern
  | tooFewWorkers
  /-- The environment's number of workers is no integer. -/
  | workersNotInteger (raw : String)
  deriving Repr, DecidableEq

namespace ConfigError

/-- The setting at fault. -/
def setting : ConfigError → String
  | .emptyLayoutPrefix => "layout_prefix"
  | .primitivePrefixForm => "primitive_prefix"
  | .emptyThemePattern => "theme_artifact_matcher"
  | .tooFewWorkers => "max_workers"
  | .workersNotInteger _ => "BEAM_MAX_WORKERS"

/-- What is wrong with it. -/
def reason : ConfigError → String
  | .emptyLayoutPrefix => "must not be empty"
  | .primitivePrefixForm => "must start with '--'"
  | .emptyThemePattern => "must not be empty"
  | .tooFewWorkers => "must be at least 1"
  | .workersNotInteger raw => "not an integer: " ++ String.ofList (Text.quoted raw.toList)

/-- The whole message. -/
def message (e : ConfigError) : String :=
  s!"Configuration error in '{e.setting}': {e.reason}"

end ConfigError

/-- State words as a caller gives them: trimmed, in lower case, blank ones left out. -/
def readStateWords (words : List String) : List String :=
  increasingSet ((words.filter fun w => !Text.isAllBlank w.toList).map fun w =>
    Text.lowerString (Text.trimString w))

/-- What a caller may set for one check; nothing means that the setting stays. -/
structure Overrides where
  strict : Option Bool := none
  stateWords : Option (List String) := none
  themePattern : Option String := none
  maxWorkers : Option Int := none
  deriving Repr, DecidableEq

namespace Config

/-- The settings themselves when they can be used, else the first condition that fails. -/
def validate (c : Config) : Except ConfigError Config :=
  if c.layoutPrefix.isEmpty then .error .emptyLayoutPrefix
  else if !(['-', '-'].isPrefixOf c.primitivePrefix.toList) then .error .primitivePrefixForm
  else if c.themePattern.isEmpty then .error .emptyThemePattern
  else if c.maxWorkers < 1 then .error .tooFewWorkers
  else .ok c

/-- The settings with the overrides put in. An empty theme pattern overrides nothing. -/
def override (c : Config) (o : Overrides) : Config where
  strict := o.strict.getD c.strict
  stateWords := (o.stateWords.map readStateWords).getD c.stateWords
  themePattern := (o.themePattern.filter fun p => !p.isEmpty).getD c.themePattern
  layoutPrefix := c.layoutPrefix
  primitivePrefix := c.primitivePrefix
  maxWorkers := o.maxWorkers.getD c.maxWorkers

/-- The settings with the overrides put in, when they can be used. -/
def withOverrides (c : Config) (o : Overrides) : Except ConfigError Config :=
  (c.override o).validate

/-- Whether `path` is a theme file; a backslash counts as a slash. -/
def isTheme (c : Config) (path : String) : Bool :=
  Text.globMatches c.themePattern.toList (Text.replaceChar '\\' '/' path.toList)

end Config

end BeamLint
