import Console.Command.Buffering
import Console.Numbering

/-!
# Commands that explain

The list of commands, how a command is invoked, and the sources of names.
-/

namespace Console.Commands

/-- A text filled up with spaces to a width. -/
def padded (width : Nat) (text : String) : String :=
  text ++ .ofList (List.replicate (width - text.length) ' ')

/-- All commands with their help.  The column is as wide as the longest name in bytes. -/
def commandList (catalogue : Catalogue) : String :=
  let width := (catalogue.map fun signature => signature.name.utf8ByteSize).foldl max 0
  "Commands:" ++ String.join (catalogue.map fun signature =>
    "\n  " ++ padded width signature.name ++ "  " ++ signature.help)

/-- Shows all commands, or the help of one. -/
def help : Handler := fun around arguments => do
  match (arguments.filterMap id).head? with
  | some name => do
      let signature ← Action.ofExcept (around.catalogue.lookup name)
      Action.say (signature.name ++ "\n" ++ signature.help)
  | none => Action.say (commandList around.catalogue)
  pure .next

/-- How a command is matched and invoked. -/
def description (catalogue : Catalogue) (signature : Signature) : String :=
  let arity :=
    match signature.arity with
    | .fixed count => natText count
    | .variadic => "any"
  let aliases := catalogue.aliasesOf signature.name
  "Command: " ++ signature.name ++ "\nMatcher: " ++ signature.matcher.display ++
    "\nArguments: " ++ arity ++
    "\nSplit into words: " ++ (if signature.interpolate then "yes" else "no") ++
    (match signature.aliasOf with
      | some meant => "\nAlias of: " ++ meant
      | none => "") ++
    if aliases.isEmpty then "" else "\nAliases: " ++ joinWith ", " aliases

/-- Shows how a command is matched and invoked. -/
def showCommand : Handler := fun around arguments => do
  match (arguments.filterMap id).head? with
  | none => throw .missingCommandName
  | some name => do
      let signature ← Action.ofExcept (around.catalogue.lookup name)
      Action.say (description around.catalogue signature)
      pure .next

/-- The options of `show-method`. -/
def showMethodSpec : Flags.Spec where
  name := "show-method"
  about := "Show the source for each METH, as known to the evaluator"
  options :=
    [{ long := "line-numbers", short := some 'l'
       help := "Show line numbers, starting at the input buffer's first line number" },
     { long := "base-one", short := some 'b'
       help := "Show line numbers starting at 1, as `play --lines` counts them" },
     Flags.helpOption]
  argument := some
    { name := "METH", required := true, many := true, help := "Method names" }

/-- The number that the first line of a source is shown with, if lines are numbered. -/
def firstNumber? (settings : Settings) (given : Flags.Given) : Option Nat :=
  if given.has "base-one" then some 1
  else if given.has "line-numbers" then some settings.base.first
  else none

/-- A source as it is shown, its lines numbered from `first` on. -/
def shownSource (colours : Bool) (first : Option Nat) (code : String) : String :=
  match first with
  | some first =>
      numberedLines colours
        ((linesOf code).zipIdx first |>.map fun (line, number) => (number, line))
  | none => code

/-- Shows the source of one name. -/
def showSource (around : Surroundings) (first : Option Nat) (name : String) : Action Unit :=
  match around.calculator.source? name with
  | none =>
      Action.say ("Invalid method name: " ++ name ++ ". Type `show-method --help` for help")
  | some source => do
      let code := withoutFinalNewlines source
      Action.say
        ("From: " ++ name ++ "\nNumber of lines: " ++ natText (linesOf code).length ++ "\n")
      Action.say (shownSource around.settings.colours first code)

/-- Shows the sources of names one after the other. -/
def showSources (around : Surroundings) (first : Option Nat) : List String → Action Unit
  | [] => pure ()
  | name :: names => do
      showSource around first name
      showSources around first names

/-- Shows the sources of names. -/
def showMethod : Handler := fun around arguments => do
  match ← Action.readFlags showMethodSpec arguments with
  | none => pure .next
  | some given => do
      showSources around (firstNumber? around.settings given) (given.texts "METH")
      pure .next

/-- Registers the commands that explain. -/
def registerHelp (registry : Registry) : Registry :=
  let registry := registry.register <| .named "show-method"
    "Show the source for METH. Type `show-method --help` for more info. Aliases: $, show-source"
    .variadic showMethod
  let registry := registerAlias registry (.ok (.ofName "show-source")) "show-method"
  let registry := registerAlias registry (.ok (.ofName "$")) "show-method"
  let registry := registry.register <| .named "help"
    "Show a list of commands, or help for one command." (.fixed 1) help
  registry.register <| .named "show-command"
    "Show how a command is matched and invoked." (.fixed 1) showCommand

end Console.Commands
