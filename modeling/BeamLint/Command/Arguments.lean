import BeamLint.Text.Integer

/-!
# Arguments of a command

Options and other arguments may be mixed. A long option takes its value after an equals sign or from
the next argument, whatever that looks like; short options may be run together, and the rest of
such a run is the value of the first of them that takes one. After two hyphens everything is an
ordinary argument. Of an option that is given several times the last one counts.
-/

namespace BeamLint.Command

/-- What an option does to the settings `σ`. -/
inductive Action (σ : Type) where
  | flag (set : σ → σ)
  | value (set : String → σ → σ)

/-- An option: the ways to write it, and what it does. -/
structure OptionSpec (σ : Type) where
  long : List (List Char)
  short : List Char
  action : Action σ

/-- Takes the value of an option from the next argument. -/
def takeValue {σ : Type} (set : String → σ → σ) (args : List String) (s : σ) :
    Option (List String × σ) :=
  match args with
  | value :: args => some (args, set value s)
  | [] => none

/-- Reads a run of short options, given the arguments after it. -/
def shortRun {σ : Type} (specs : List (OptionSpec σ)) :
    (run : List Char) → (args : List String) → σ → Option (List String × σ)
  | [], args, s => some (args, s)
  | c :: run, args, s =>
    match (specs.find? fun o => c ∈ o.short).map OptionSpec.action with
    | some (.flag set) => shortRun specs run args (set s)
    | some (.value set) =>
      if run.isEmpty then takeValue set args s else some (args, set (String.ofList run) s)
    | none => none

/-- Reads one argument that begins with a hyphen, given the arguments after it. -/
def readOption {σ : Type} (specs : List (OptionSpec σ)) (arg : List Char) (args : List String)
    (s : σ) : Option (List String × σ) :=
  let name := arg.takeWhile (· ≠ '=')
  let value := (arg.drop name.length).tail
  let given := name.length < arg.length
  match (specs.find? fun o => name ∈ o.long).map OptionSpec.action with
  | some (.flag set) => if given then none else some (args, set s)
  | some (.value set) =>
    if given then some (args, set (String.ofList value) s) else takeValue set args s
  | none => if ['-', '-'].isPrefixOf arg then none else shortRun specs arg.tail args s

/-- Reads arguments: the ordinary ones in their order, and the settings. The first argument bounds
the number of steps; each takes at least one argument. -/
def readWithin {σ : Type} (specs : List (OptionSpec σ)) :
    Nat → List String → σ → Option (List String × σ)
  | _, [], s => some ([], s)
  | 0, _, _ => none
  | n + 1, arg :: args, s =>
    if arg = "--" then some (args, s)
    else
      match arg.toList with
      | '-' :: _ :: _ =>
        match readOption specs arg.toList args s with
        | some (args, s) => readWithin specs n args s
        | none => none
      | _ => (readWithin specs n args s).map fun (others, s) => (arg :: others, s)

/-- Reads arguments: the ordinary ones in their order, and the settings. -/
def readArguments {σ : Type} (specs : List (OptionSpec σ)) (args : List String) (s : σ) :
    Option (List String × σ) :=
  readWithin specs args.length args s

/-- An integer that may be missing; a text that is no integer is refused. -/
def readInteger? : Option String → Option (Option Int)
  | none => some none
  | some text => (Text.integer? text.toList).map some

end BeamLint.Command
