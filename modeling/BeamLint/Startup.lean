import BeamLint.Environment
import BeamLint.Log.Setup

/-!
# Start-up

Before the service starts, the log is set up at the environment's level and the settings are looked
at; settings that cannot be used are told in the log.
-/

namespace BeamLint

/-- What the start-up found: whether the settings can be used, and the lines in the log. -/
structure Startup where
  usable : Bool
  lines : List String
  deriving Repr, DecidableEq

/-- How a truth value is written in the log. -/
def flagName (b : Bool) : String := if b then "True" else "False"

/-- An event of the start-up. -/
def Startup.event (level : LogLevel) (message : String) : LogEvent :=
  ⟨level, "beam_app.startup", message⟩

/-- Starts up in an environment; `envFile` tells whether there is a file with further variables. -/
def Environment.startup (e : Environment) (envFile : Bool) : Except LogError Startup :=
  match LogSetup.initial.configure e.logLevelName false with
  | (_, .error error) => .error error
  | (log, .ok ()) =>
    let missing :=
      if envFile then []
      else [Startup.event .info ".env file not found; using environment and defaults"]
    let (usable, outcome) :=
      match e.config with
      | .error error =>
        let message := error.message
        (false, Startup.event .warning s!"Invalid checker configuration: {message}")
      | .ok c =>
        let pattern := String.ofList (Text.quoted c.themePattern.toList)
        let words := c.stateWords.length
        let strict := flagName c.strict
        (true, Startup.event .info
          s!"Checker configured: theme pattern {pattern}, {words} state words, strict={strict}")
    .ok ⟨usable, (missing ++ [outcome]).flatMap log.write⟩

end BeamLint
