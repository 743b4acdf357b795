/-!
# Rules

The rules of the BEAM convention, in the order in which they are listed, with their severities.
-/

namespace BeamLint

/-- How grave a finding is. -/
inductive Severity where
  | error
  | warning
  deriving Repr, DecidableEq

/-- The name of a severity. -/
def Severity.name : Severity → String
  | .error => "error"
  | .warning => "warning"

/-- A rule of the convention. -/
inductive Rule where
  | blockCase
  | elementCase
  | flatNesting
  | stateInClass
  | selectorSyntax
  | layoutBlockMutex
  | variableCycle
  | variableUnresolved
  | hardcodedColor
  | missingSemanticFallback
  | primitiveLeak
  | inputError
  deriving Repr, DecidableEq

namespace Rule

/-- All rules, in the order in which they are listed. -/
def all : List Rule :=
  [.blockCase, .elementCase, .flatNesting, .stateInClass, .selectorSyntax, .layoutBlockMutex,
   .variableCycle, .variableUnresolved, .hardcodedColor, .missingSemanticFallback, .primitiveLeak,
   .inputError]

/-- The identifier under which a rule is reported. -/
def id : Rule → String
  | .blockCase => "rule:block-case"
  | .elementCase => "rule:element-case"
  | .flatNesting => "rule:flat-nesting"
  | .stateInClass => "rule:state-in-class"
  | .selectorSyntax => "rule:selector-syntax"
  | .layoutBlockMutex => "rule:layout-block-mutex"
  | .variableCycle => "rule:variable-cycle"
  | .variableUnresolved => "rule:variable-unresolved"
  | .hardcodedColor => "rule:hardcoded-color"
  | .missingSemanticFallback => "rule:missing-semantic-fallback"
  | .primitiveLeak => "rule:primitive-leak"
  | .inputError => "rule:input-error"

/-- The severity of a rule's findings. -/
def severity : Rule → Severity
  | .stateInClass | .primitiveLeak => .warning
  | _ => .error

/-- What a rule asks for, in a line. -/
def description : Rule → String
  | .blockCase => "Block segment must be lower snake case"
  | .elementCase => "Element segment must be lower case words joined by '_' or '-'"
  | .flatNesting => "Elements are named flat: one hyphen between block and element"
  | .stateInClass => "State or variant encoded in a class name instead of a data attribute"
  | .selectorSyntax => "Class token cannot be parsed as a BEAM selector"
  | .layoutBlockMutex => "Layout primitive and block/element classes on the same element"
  | .variableCycle => "Custom property fallback chain forms a cycle"
  | .variableUnresolved => "Custom property reference is never declared"
  | .hardcodedColor => "Component-local custom property falls back to a hex color"
  | .missingSemanticFallback =>
    "Component-local custom property never reaches a semantic or primitive token"
  | .primitiveLeak => "Component references a primitive token directly instead of a semantic one"
  | .inputError => "Source file is empty or cannot be decoded"

/-- Every rule is listed. -/
theorem mem_all (r : Rule) : r ∈ all := by cases r <;> decide

end Rule

end BeamLint
