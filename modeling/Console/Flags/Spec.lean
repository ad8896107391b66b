import Console.Text.Decimal
import Console.Text.Lines

/-!
# Options of a command

What options and arguments a command takes, and the texts that are made from that alone: the
usage line and the help.
-/

namespace Console.Flags

/-- What the value of an option or argument is. -/
inductive ValueKind where
  | text
  /-- A path, which is not empty. -/
  | path
  | count
  | integer
  deriving DecidableEq, Repr

/-- Whether an option takes a value. -/
inductive Takes where
  | nothing
  | value (name : String) (kind : ValueKind)
  /-- A value that may be left out; then it is `implied`. -/
  | optional (name : String) (kind : ValueKind) (implied : String)
  deriving DecidableEq, Repr

/-- What an option does when it is met. -/
inductive Effect where
  /-- It is set, at most once. -/
  | set
  /-- It is counted. -/
  | tally
  | showHelp
  | showVersion
  deriving DecidableEq, Repr

/-- Whether an effect is the command's own; help and version are there for every command. -/
def Effect.isOwn : Effect → Bool
  | set | tally => true
  | showHelp | showVersion => false

/-- An option.  Its long name, without hyphens, tells it apart from the others. -/
structure OptionSpec where
  long : String
  short : Option Char := none
  takes : Takes := .nothing
  effect : Effect := .set
  /-- Whether its value may start with a hyphen. -/
  hyphenValues : Bool := false
  /-- The options and arguments it cannot be used with. -/
  conflicts : List String := []
  help : String
  deriving Repr

/-- An argument without a flag. -/
structure ArgumentSpec where
  name : String
  kind : ValueKind := .text
  required : Bool := false
  many : Bool := false
  help : String
  deriving Repr

/-- A command line. -/
structure Spec where
  name : String
  about : String
  options : List OptionSpec
  argument : Option ArgumentSpec := none
  /-- Options of which just one has to be given. -/
  oneOf : List String := []
  deriving Repr

/-- The option that shows the help. -/
def helpOption : OptionSpec :=
  { long := "help", short := some 'h', effect := .showHelp, help := "Print help" }

/-- The option that shows the version. -/
def versionOption : OptionSpec :=
  { long := "version", short := some 'V', effect := .showVersion, help := "Print version" }

namespace OptionSpec

/-- An option as it is written in usages and errors. -/
def display (option : OptionSpec) : String :=
  "--" ++ option.long ++
    match option.takes with
    | .nothing => if option.effect = .tally then "..." else ""
    | .value name _ => " <" ++ name ++ ">"
    | .optional name _ _ => " [<" ++ name ++ ">]"

/-- Whether an option takes a value. -/
def takesValue (option : OptionSpec) : Bool := option.takes != .nothing

/-- Whether an option takes a value that may not be left out. -/
def needsValue (option : OptionSpec) : Bool :=
  match option.takes with
  | .value .. => true
  | _ => false

/-- An option at the left of its help, with room for a short name. -/
def column (option : OptionSpec) : String :=
  (match option.short with
    | some c => "-" ++ String.singleton c ++ ", "
    | none => "    ") ++ option.display

end OptionSpec

namespace ArgumentSpec

/-- An argument as it is written where it may be left out unless it is required. -/
def display (argument : ArgumentSpec) : String :=
  (if argument.required then "<" ++ argument.name ++ ">" else "[" ++ argument.name ++ "]") ++
    if argument.many then "..." else ""

/-- An argument as it is written where it is given. -/
def displayGiven (argument : ArgumentSpec) : String :=
  "<" ++ argument.name ++ ">" ++ if argument.many then "..." else ""

end ArgumentSpec

namespace Spec

/-- The option with a long name. -/
def long? (spec : Spec) (name : String) : Option OptionSpec :=
  spec.options.find? (·.long == name)

/-- The option with a short name. -/
def short? (spec : Spec) (c : Char) : Option OptionSpec :=
  spec.options.find? (·.short == some c)

/-- The options of which one has to be given, as they are written in usages. -/
def groupDisplay (spec : Spec) : String :=
  "<" ++ joinWith "|" ((spec.oneOf.filterMap spec.long?).map OptionSpec.display) ++ ">"

/-- An option or argument as it is written in errors. -/
def displayOf (spec : Spec) (id : String) : String :=
  match spec.long? id, spec.argument with
  | some option, _ => option.display
  | none, some argument => argument.display
  | none, none => id

/-- The usage of a command, for those who know none of it yet. -/
def usage (spec : Spec) : String :=
  spec.name ++ " [OPTIONS]" ++
    (if spec.oneOf.isEmpty then "" else " " ++ spec.groupDisplay) ++
    match spec.argument with
    | some argument => " " ++ argument.display
    | none => ""

/-- The usage of a command for those who use the given options and arguments: these, each once, and
what is needed besides. -/
def usageOf (spec : Spec) (used : List String) : String :=
  let options := used.eraseDups.filterMap fun id =>
    if spec.oneOf.contains id then none else (spec.long? id).map OptionSpec.display
  let group := if spec.oneOf.isEmpty then [] else [spec.groupDisplay]
  let argument :=
    match spec.argument with
    | some argument =>
        [if used.contains argument.name then argument.displayGiven else argument.display]
    | none => []
  joinWith " " (spec.name :: options ++ group ++ argument)

/-- Everything that a command takes, as a choice: its argument by its bare name, and its options
but those that every command has. -/
def choiceDisplay (spec : Spec) : String :=
  let options := spec.options.filter fun option => option.effect.isOwn
  "<" ++ joinWith "|" ((spec.argument.map (·.name)).toList ++ options.map OptionSpec.display) ++ ">"

/-- The usage of a command for those who add an option to others: the option, if it is one that
every command has, and the choice of all else. -/
def usageAmong (spec : Spec) (option : OptionSpec) : String :=
  let options := if option.effect.isOwn then [] else [option.display]
  let group := if spec.oneOf.isEmpty then [] else [spec.groupDisplay]
  joinWith " " (spec.name :: options ++ group ++ [spec.choiceDisplay])

/-- A text filled up with spaces to a width. -/
def padded (width : Nat) (text : String) : String :=
  text ++ .ofList (List.replicate (width - text.length) ' ')

/-- Rows of two columns, the first as wide as its widest entry. -/
def rows (entries : List (String × String)) : String :=
  let width := (entries.map (·.1.length)).foldl max 0
  String.join (entries.map fun (left, right) => "  " ++ padded width left ++ "  " ++ right ++ "\n")

/-- The help of a command. -/
def help (spec : Spec) : String :=
  spec.about ++ "\n\nUsage: " ++ spec.usage ++ "\n\n" ++
    (match spec.argument with
      | some argument => "Arguments:\n" ++ rows [(argument.display, argument.help)] ++ "\n"
      | none => "") ++
    "Options:\n" ++ rows (spec.options.map fun option => (option.column, option.help))

end Spec

end Console.Flags
