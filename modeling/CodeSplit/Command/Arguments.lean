/-
Module: CodeSplit.Command.Arguments
Purpose: what the arguments of the command ask for.
Main exports:
  Command.Options, Command.Request, Command.Request.ofArguments
-/
import CodeSplit.ProjectFile

namespace CodeSplit.Command

/-!
Arguments are read from the left, and the first one that settles the matter does
so: one that asks for help or for the version, or one that is not understood.
An option with a value takes it from the same argument or from the next one,
which may then not look like an option; it may be given once, and its value may
not be empty.  There are no arguments other than options.
-/

/-- What a run depends on. -/
structure Options where
  projectFile : Path := defaultProjectFile
  /-- Where to write the manifest. -/
  manifest? : Option Path := none
  /-- How much more than warnings the log tells. -/
  verbosity : Nat := 0
deriving Repr, DecidableEq

/-- What arguments ask for. -/
inductive Request where
  | run (options : Options)
  | showHelp
  | showVersion
  /-- The arguments are not understood. -/
  | misuse
deriving Repr, DecidableEq

/-- The options that were read so far. -/
structure Given where
  projectFile? : Option Path := none
  manifest? : Option Path := none
  verbosity : Nat := 0
deriving Repr, DecidableEq

/-- The options of a run, with defaults for what was not given. -/
def Given.options (given : Given) : Options where
  projectFile := given.projectFile?.getD defaultProjectFile
  manifest? := given.manifest?
  verbosity := given.verbosity

/-- The options that take a value. -/
inductive Valued where
  | projectFile
  | manifest
deriving Repr, DecidableEq

/-- Take the value of an option, which may not have one yet. -/
def Given.take? (given : Given) (option : Valued) (value : List Char) :
    Option Given :=
  let path : Path := ⟨String.ofList value⟩
  if value.isEmpty then none
  else
    match option, given.projectFile?, given.manifest? with
    | .projectFile, none, _ => some { given with projectFile? := some path }
    | .manifest, _, none => some { given with manifest? := some path }
    | _, _, _ => none

/-- Where the reading of arguments stands. -/
inductive Step where
  /-- All options so far have what they need. -/
  | next (given : Given)
  /-- An option needs a value. -/
  | needsValue (given : Given) (option : Valued)
  /-- The matter is settled. -/
  | settled (request : Request)
deriving Repr, DecidableEq

/-- Go on with the value of an option. -/
def Step.ofValue (given : Given) (option : Valued) (value : List Char) : Step :=
  match given.take? option value with
  | some given => .next given
  | none => .settled .misuse

/-- Read the letters of an argument behind its dash. -/
def readLetters (given : Given) : List Char → Step
  | [] => .next given
  | ['c'] => .needsValue given .projectFile
  | 'c' :: '=' :: value => .ofValue given .projectFile value
  | 'c' :: value => .ofValue given .projectFile value
  | 'v' :: rest =>
      readLetters { given with verbosity := given.verbosity + 1 } rest
  | 'h' :: _ => .settled .showHelp
  | 'V' :: _ => .settled .showVersion
  | _ :: _ => .settled .misuse

/-- Read an option that is written out, with its value if one is attached. -/
def readName (given : Given) (name : String) :
    Option (List Char) → Step
  | none =>
      match name with
      | "config" => .needsValue given .projectFile
      | "stats" => .needsValue given .manifest
      | "verbose" => .next { given with verbosity := given.verbosity + 1 }
      | "help" => .settled .showHelp
      | "version" => .settled .showVersion
      | _ => .settled .misuse
  | some value =>
      match name with
      | "config" => .ofValue given .projectFile value
      | "stats" => .ofValue given .manifest value
      | _ => .settled .misuse

/-- Read one argument. -/
def readArgument (given : Given) : List Char → Step
  | '-' :: '-' :: option =>
      let name := option.takeWhile (· ≠ '=')
      let value? := (option.drop name.length).tail?
      readName given (String.ofList name) value?
  | '-' :: letter :: letters => readLetters given (letter :: letters)
  | _ => .settled .misuse

/-- Whether an argument looks like an option and so cannot be a value. -/
def looksLikeOption (argument : List Char) : Bool :=
  argument.head? = some '-' && argument ≠ ['-']

/-- Read the arguments from the left.  Nothing may follow `--`. -/
def readArguments (given : Given) : List (List Char) → Request
  | [] => .run given.options
  | ['-', '-'] :: rest =>
      if rest.isEmpty then .run given.options else .misuse
  | argument :: rest =>
      match readArgument given argument, rest with
      | .settled request, _ => request
      | .next given, rest => readArguments given rest
      | .needsValue _ _, [] => .misuse
      | .needsValue given option, value :: rest =>
          if looksLikeOption value then .misuse
          else
            match given.take? option value with
            | some given => readArguments given rest
            | none => .misuse

/-- What arguments ask for. -/
def Request.ofArguments (arguments : List String) : Request :=
  readArguments {} (arguments.map String.toList)

/-- Without arguments, the project file in the working directory is planned. -/
example : Request.ofArguments [] = .run {} := rfl

end CodeSplit.Command
