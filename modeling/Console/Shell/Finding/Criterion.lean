import Console.Shell.Traits
import Console.Shell.Utility.Pattern
import Console.Shell.Written

/-!
# What is looked for in directories

A criterion holds or not of what is found in directories, and may do something with it.  It is read
from arguments: `Finding.Plan.read` gives the places where the search starts, and what is looked for
there.
-/

namespace Console.Shell.Finding

/-! ## Criteria -/

/-- A number as it is wanted. -/
inductive Amount where
  | less (limit : Nat)
  | exactly (number : Nat)
  | more (limit : Nat)
  deriving DecidableEq, Repr

/-- Whether a number is one that is wanted. -/
def Amount.has (number : Nat) : Amount → Bool
  | less limit => number < limit
  | exactly wanted => number = wanted
  | more limit => limit < number

/-- How permissions are compared with those that are wanted. -/
inductive Sharing where
  | exactly
  /-- All that are wanted are given. -/
  | all
  /-- One that is wanted is given, if there is one. -/
  | any
  deriving DecidableEq, Repr

/-- The unit in which the age of a file is counted. -/
inductive AgeUnit where
  | day
  | minute
  deriving DecidableEq, Repr

/-- A property of what is found. -/
inductive Test where
  | constant (holds : Bool)
  /-- The last name, or the whole path, matches a pattern. -/
  | name (isWhole ignoresCase : Bool) (pattern : Glob)
  | path (regex : LineRegex)
  | kind (letters : List Char)
  | empty
  | newer (file : Octets)
  | newerThan (time : Int)
  | size (unit : Nat) (amount : Amount)
  | age (unit : AgeUnit) (amount : Amount)
  | permissions (mode : Nat) (sharing : Sharing)
  | links (amount : Amount)
  | canRun
  | same (file : Octets)

/-- Something that is done with what is found. -/
inductive Action where
  /-- Its path is shown with an ending, in a file if one is given. -/
  | print (file : Option Octets) (ending : Octets)
  /-- What a format makes of it is shown. -/
  | write (file : Option Octets) (format : Octets)
  | delete
  /-- What is in it is not looked at. -/
  | prune
  /-- The search is over. -/
  | quit
  /-- A program is run with its path, perhaps only if somebody agrees. -/
  | run (isAsked : Bool) (program : List Octets)
  /-- A program is run with all paths at the end. -/
  | collect (program : List Octets)
  deriving DecidableEq, Repr

/-- What is looked for. -/
inductive Criterion where
  | test (test : Test)
  | action (action : Action)
  | not (criterion : Criterion)
  | both (left right : Criterion)
  | either (left right : Criterion)
  /-- Both are worked out, and the second one counts. -/
  | sequence (left right : Criterion)

/-- Whether the action is more than a way through the directories. -/
def Action.isVisible : Action → Bool
  | prune | quit => false
  | _ => true

/-- All actions of a criterion. -/
def Criterion.actions : Criterion → List Action
  | test _ => []
  | .action found => [found]
  | not criterion => criterion.actions
  | both left right | either left right | sequence left right => left.actions ++ right.actions

/-- The files that what is found is compared with. -/
def Criterion.references : Criterion → List Octets
  | .test (.newer file) | .test (.same file) => [file]
  | .test _ | action _ => []
  | not criterion => criterion.references
  | both left right | either left right | sequence left right =>
      left.references ++ right.references

/-- How directories are gone through. -/
structure Settings where
  leastDepth : Nat := 0
  mostDepth : Option Nat := none
  /-- What is in a directory comes before the directory. -/
  isDeepFirst : Bool := false
  /-- The name of the way in which patterns for whole paths are written. -/
  patterns : String := "emacs"

/-- A search: where it starts, and what is looked for. -/
structure Plan where
  starts : List Octets
  settings : Settings
  criterion : Criterion

/-! ## Faults -/

/-- What is wrong with arguments. -/
inductive Fault where
  | unknown (name : Octets)
  | noArgument (name : Octets)
  | latePath (text : Octets)
  | unknownKind (letter : Char)
  | noKind
  | joinedKinds
  | badDepth (name text : Octets)
  | badSize (text : Octets)
  | badNumber (name text : Octets)
  | badMode (text : Octets)
  | badDate (text : Octets)
  | unknownPerson (isGroup : Bool) (text : Octets)
  | badPattern (text : Octets) (fault : LinePattern.Fault)
  | unknownPatterns (text : Octets)
  | openFormat
  | openGroup
  | strayClosing
  | emptyGroup
  | nothingAfter (sign : Octets)
  | nothingBetween (sign : Octets)
  | nothingBefore (sign : Octets)
  deriving DecidableEq, Repr

/-- The ways in which patterns for whole paths can be written. -/
def patternKinds : List String :=
  ["findutils-default", "ed", "emacs", "gnu-awk", "grep", "posix-awk", "awk", "posix-basic",
   "posix-egrep", "egrep", "posix-extended", "posix-minimal-basic", "sed"]

/-- The wording of the fault. -/
def Fault.message : Fault → String
  | unknown name => "unknown predicate \x60" ++ Octets.toText name ++ "'"
  | noArgument name => "missing argument to \x60" ++ Octets.toText name ++ "'"
  | latePath text => "paths must precede expression: \x60" ++ Octets.toText text ++ "'"
  | unknownKind letter => "Unknown argument to -type: " ++ letter.toString
  | noKind => "Arguments to -type should contain at least one letter"
  | joinedKinds => "Must separate multiple arguments to -type using: ','"
  | badDepth name text =>
      "Expected a positive decimal integer argument to " ++ Octets.toText name ++ ", but got '" ++
        Octets.toText text ++ "'"
  | badSize text => "invalid -size type \x60" ++ Octets.toText text ++ "'"
  | badNumber name text =>
      "invalid argument \x60" ++ Octets.toText text ++ "' to \x60" ++ Octets.toText name ++ "'"
  | badMode text => "invalid mode '" ++ Octets.toText text ++ "'"
  | badDate text =>
      "I cannot figure out how to interpret '" ++ Octets.toText text ++ "' as a date or time"
  | unknownPerson isGroup text =>
      "'" ++ Octets.toText text ++ "' is not the name of " ++
        (if isGroup then "an existing group" else "a known user")
  | badPattern text fault =>
      "failed to compile regular expression '" ++ Octets.toText text ++ "': " ++ fault.message
  | unknownPatterns text =>
      "Unknown regular expression type '" ++ Octets.toText text ++ "'; valid types are " ++
        ", ".intercalate (patternKinds.map fun name => "'" ++ name ++ "'") ++ "."
  | openFormat => "error: % at end of format string"
  | openGroup =>
      "invalid expression; I was expecting to find a ')' somewhere but did not see one."
  | strayClosing => "you have too many ')'"
  | emptyGroup => "invalid expression; empty parentheses are not allowed."
  | nothingAfter sign => "expected an expression after '" ++ Octets.toText sign ++ "'"
  | nothingBetween sign =>
      "expected an expression between '" ++ Octets.toText sign ++ "' and ')'"
  | nothingBefore sign =>
      "invalid expression; you have used a binary operator '" ++ Octets.toText sign ++
        "' with nothing before it."

/-- What is read from arguments, unless they are faulty. -/
abbrev Reading := Except Fault

/-! ## Arguments of criteria -/

/-- The pattern for names that a text spells. -/
def globOf (ignoresCase : Bool) (text : Octets) : Glob :=
  .ofGlyphs ((if ignoresCase then text.map Char.toLower else text).map ({ char := · }))

/-- A pattern with operators as line editors write them, from one where signs of repetition have no
backslash. -/
def withSigns : Octets → Octets
  | '\\' :: c :: rest =>
      if c = '+' || c = '?' then c :: withSigns rest
      else if c = '\x7b' || c = '\x7d' then c :: withSigns rest
      else '\\' :: c :: withSigns rest
  | c :: rest =>
      if c = '+' || c = '?' then '\\' :: c :: withSigns rest else c :: withSigns rest
  | [] => []

/-- The expression of a pattern for whole paths. -/
def regexOf (kind : String) (ignoresCase : Bool) (text : Octets) : Reading LineRegex :=
  let isOld := kind = "emacs" || kind = "findutils-default"
  let isExtended :=
    ["posix-extended", "posix-egrep", "egrep", "posix-awk", "gnu-awk", "awk"].contains kind
  match LinePattern.read { isExtended, ignoresCase } (if isOld then withSigns text else text) with
  | .ok (regex, _) => .ok regex
  | .error fault => .error (.badPattern text fault)

/-- The number in a text, with a sign for those that are greater or less; and what follows it. -/
def amount? (text : Octets) : Option ((Nat → Nat) → Amount × Octets) :=
  let sign := text.head?.filter fun c => c = '+' || c = '-'
  match digitsOf 10 (if sign.isSome then text.drop 1 else text) with
  | (_, 0, _) => none
  | (number, _, rest) =>
      some fun change =>
        (match sign with
          | some '+' => .more (change number)
          | some _ => .less (change number)
          | none => .exactly (change number), rest)

/-- The number that a text is. -/
def amountOf (name text : Octets) : Reading Amount :=
  match (amount? text).map (· id) with
  | some (amount, []) => .ok amount
  | _ => .error (.badNumber name text)

/-- The size that a text means. -/
def sizeOf (text : Octets) : Reading Test :=
  let units : List (Octets × Nat) :=
    [([], 512), (['b'], 512), (['c'], 1), (['w'], 2), (['k'], 1024), (['M'], 1048576),
     (['G'], 1073741824)]
  match (amount? text).map (· id) with
  | none => .error (.badSize text)
  | some (amount, rest) =>
      match units.lookup rest with
      | some unit => .ok (.size unit amount)
      | none => .error (.badSize (rest.drop (rest.length - 1)))

/-- The kinds of nodes that letters between commas mean. -/
def kindsOf (text : Octets) : Reading Test :=
  match Octets.splitAt (· == ',') text with
  | [[]] => .error .noKind
  | parts => do
      let letters ← parts.mapM fun part =>
        match part with
        | [] => .error .noKind
        | letter :: rest =>
            if !"fdlpsbcD".toList.contains letter then .error (.unknownKind letter)
            else if !rest.isEmpty then .error .joinedKinds
            else .ok letter
      pure (.kind letters)

/-- The permissions that a text means. -/
def permissionsOf (text : Octets) : Reading Test :=
  let (sharing, rest) : Sharing × Octets :=
    match text with
    | '-' :: rest => (.all, rest)
    | '/' :: rest => (.any, rest)
    | rest => (.exactly, rest)
  match if rest.head? = some '+' && rest.any Char.isDigit then none
    else Permissions.changed? 0 false rest 0 with
  | some mode => .ok (.permissions mode sharing)
  | none => .error (.badMode text)

/-- Whether everything belongs to a person or a group. -/
def ownedBy (isGroup : Bool) (text : Octets) : Reading Test :=
  if text = "root".toList then .ok (.constant true)
  else if !text.isEmpty && text.all Char.isDigit then .ok (.constant ((digitsOf 10 text).1 = 0))
  else .error (.unknownPerson isGroup text)

/-- A format, if no directive lacks its letter. -/
def formatOf : Octets → Reading Octets
  | [] => .ok []
  | ['%'] => .error .openFormat
  | '%' :: '%' :: rest => (formatOf rest).map ('%' :: '%' :: ·)
  | c :: rest => (formatOf rest).map (c :: ·)

/-- The words of a command up to its end, whether it is run once for all paths, and what follows. -/
def commandOf : List Octets → Option (List Octets × Bool × List Octets)
  | [] => none
  | word :: rest =>
      if word = [';'] then some ([], false, rest)
      else
        match rest with
        | next :: after =>
            if word = ['\x7b', '\x7d'] && next = ['+'] then some ([word], true, after)
            else (commandOf rest).map fun (words, isBatch, rest) => (word :: words, isBatch, rest)
        | [] => none

/-! ## Words -/

/-- A word of an expression. -/
inductive Word where
  | opening
  | closing
  | negation (sign : Octets)
  | conjunction (sign : Octets)
  | alternative (sign : Octets)
  | comma
  | criterion (criterion : Criterion)

/-- The criterion with a name that takes no argument. -/
def plainCriterion? (name : String) : Option Criterion :=
  let test (test : Test) : Option Criterion := some (.test test)
  match name with
  | "-print" => some (.action (.print none ['\n']))
  | "-print0" => some (.action (.print none ['\x00']))
  | "-delete" => some (.action .delete)
  | "-prune" => some (.action .prune)
  | "-quit" => some (.action .quit)
  | "-empty" => test .empty
  | "-executable" => test .canRun
  | "-false" | "-nouser" | "-nogroup" => test (.constant false)
  | "-true" | "-readable" | "-writable" | "-depth" | "-d" | "-follow" | "-xdev" | "-mount"
  | "-noleaf" | "-daystart" | "-warn" | "-nowarn" | "-ignore_readdir_race"
  | "-noignore_readdir_race" =>
      test (.constant true)
  | _ => none

/-- The criterion with a name that takes an argument; none if there is no such criterion. -/
def criterion? (settings : Settings) (now : Int) (name : String) (text : Octets) :
    Option (Reading Criterion) :=
  let test (test : Test) : Option (Reading Criterion) := some (.ok (.test test))
  let read (test : Reading Test) : Option (Reading Criterion) := some (test.map .test)
  let age (unit : AgeUnit) := read ((amountOf name.toList text).map (.age unit))
  match name with
  | "-name" => test (.name false false (globOf false text))
  | "-iname" => test (.name false true (globOf true text))
  | "-path" | "-wholename" => test (.name true false (globOf false text))
  | "-ipath" | "-iwholename" => test (.name true true (globOf true text))
  | "-lname" | "-ilname" => test (.constant false)
  | "-regex" => read ((regexOf settings.patterns false text).map .path)
  | "-iregex" => read ((regexOf settings.patterns true text).map .path)
  | "-type" | "-xtype" => read (kindsOf text)
  | "-newer" | "-anewer" | "-cnewer" => test (.newer text)
  | "-newermt" =>
      read (match Times.ofDate? now text with
        | some time => .ok (.newerThan time)
        | none => .error (.badDate text))
  | "-samefile" => test (.same text)
  | "-size" => read (sizeOf text)
  | "-mtime" | "-atime" | "-ctime" => age .day
  | "-mmin" | "-amin" | "-cmin" => age .minute
  | "-perm" => read (permissionsOf text)
  | "-links" => read ((amountOf name.toList text).map .links)
  | "-user" => read (ownedBy false text)
  | "-group" => read (ownedBy true text)
  | "-uid" | "-gid" =>
      read ((amountOf name.toList text).map fun amount => .constant (amount.has 0))
  | "-printf" => some ((formatOf text).map fun format => .action (.write none format))
  | "-fprint" => some (.ok (.action (.print (some text) ['\n'])))
  | "-fprint0" => some (.ok (.action (.print (some text) ['\x00'])))
  | "-regextype" =>
      if patternKinds.contains (.ofList text) then test (.constant true)
      else some (.error (.unknownPatterns text))
  | "-maxdepth" | "-mindepth" =>
      if !text.isEmpty && text.all Char.isDigit then test (.constant true)
      else some (.error (.badDepth name.toList text))
  | _ => none

/-- The settings after an option with its argument. -/
def Settings.after (settings : Settings) (name : String) (text : Octets) : Settings :=
  match name with
  | "-maxdepth" => { settings with mostDepth := some (digitsOf 10 text).1 }
  | "-mindepth" => { settings with leastDepth := (digitsOf 10 text).1 }
  | "-depth" | "-d" | "-delete" => { settings with isDeepFirst := true }
  | "-regextype" => { settings with patterns := .ofList text }
  | _ => settings

/-- The words of arguments, and the settings among them; the number bounds how many arguments there
are. -/
def words (now : Int) : Nat → Settings → List Octets → Reading (List Word × Settings)
  | 0, settings, _ | _, settings, [] => .ok ([], settings)
  | fuel + 1, settings, argument :: rest =>
      let name := String.ofList argument
      let add (word : Word) (settings : Settings) (rest : List Octets) :
          Reading (List Word × Settings) :=
        (words now fuel settings rest).map fun (others, settings) => (word :: others, settings)
      match name with
      | "(" => add .opening settings rest
      | ")" => add .closing settings rest
      | "!" | "-not" => add (.negation argument) settings rest
      | "-a" | "-and" => add (.conjunction argument) settings rest
      | "-o" | "-or" => add (.alternative argument) settings rest
      | "," => add .comma settings rest
      | "-exec" | "-execdir" | "-ok" | "-okdir" =>
          match commandOf rest with
          | none | some ([], _, _) => .error (.noArgument argument)
          | some (program, true, rest) =>
              add (.criterion (.action (.collect (program.dropLast)))) settings rest
          | some (program, false, rest) =>
              let isAsked := name = "-ok" || name = "-okdir"
              add (.criterion (.action (.run isAsked program))) settings rest
      | "-fprintf" =>
          match rest with
          | file :: format :: rest => do
              let format ← formatOf format
              add (.criterion (.action (.write (some file) format))) settings rest
          | _ => .error (.noArgument argument)
      | name =>
          match plainCriterion? name, rest with
          | some criterion, rest => add (.criterion criterion) (settings.after name []) rest
          | none, rest =>
              if argument.head? != some '-' then .error (.latePath argument)
              else if (criterion? settings now name ['1']).isNone then .error (.unknown argument)
              else
                match rest with
                | [] => .error (.noArgument argument)
                | text :: rest => do
                    match criterion? settings now name text with
                    | some criterion =>
                        add (.criterion (← criterion)) (settings.after name text) rest
                    | none => .error (.unknown argument)

/-! ## Expressions -/

mutual

/-- Reads criteria between commas.  The first number bounds how deep they are in one another, and
`sign` is the operator before them. -/
def sequenceFrom : Nat → (sign : Octets) → List Word → Reading (Criterion × List Word)
  | 0, sign, _ => .error (.nothingAfter sign)
  | fuel + 1, sign, words => do
      let (left, rest) ← eitherFrom fuel sign words
      match rest with
      | .comma :: rest => do
          let (right, rest) ← sequenceFrom fuel [','] rest
          pure (.sequence left right, rest)
      | rest => pure (left, rest)

/-- Reads criteria of which one has to hold. -/
def eitherFrom : Nat → (sign : Octets) → List Word → Reading (Criterion × List Word)
  | 0, sign, _ => .error (.nothingAfter sign)
  | fuel + 1, sign, words => do
      let (left, rest) ← bothFrom fuel sign words
      match rest with
      | .alternative sign :: rest => do
          let (right, rest) ← eitherFrom fuel sign rest
          pure (.either left right, rest)
      | rest => pure (left, rest)

/-- Reads criteria that all have to hold. -/
def bothFrom : Nat → (sign : Octets) → List Word → Reading (Criterion × List Word)
  | 0, sign, _ => .error (.nothingAfter sign)
  | fuel + 1, sign, words => do
      let (left, rest) ← singleFrom fuel sign words
      match rest with
      | .conjunction sign :: rest => do
          let (right, rest) ← bothFrom fuel sign rest
          pure (.both left right, rest)
      | .opening :: _ | .negation _ :: _ | .criterion _ :: _ => do
          let (right, rest) ← bothFrom fuel sign rest
          pure (.both left right, rest)
      | rest => pure (left, rest)

/-- Reads one criterion. -/
def singleFrom : Nat → (sign : Octets) → List Word → Reading (Criterion × List Word)
  | 0, sign, _ => .error (.nothingAfter sign)
  | fuel + 1, sign, words =>
      match words with
      | [] => .error (.nothingAfter sign)
      | .criterion criterion :: rest => .ok (criterion, rest)
      | .negation sign :: rest => do
          let (criterion, rest) ← singleFrom fuel sign rest
          pure (.not criterion, rest)
      | .opening :: .closing :: _ => .error .emptyGroup
      | .opening :: rest => do
          let (criterion, rest) ← sequenceFrom fuel ['('] rest
          match rest with
          | .closing :: rest => pure (criterion, rest)
          | _ => .error .openGroup
      | .closing :: _ => .error (if sign.isEmpty then .strayClosing else .nothingBetween sign)
      | .conjunction sign :: _ | .alternative sign :: _ => .error (.nothingBefore sign)
      | .comma :: _ => .error (.nothingBefore [','])

end

/-- The criterion that words say; without any word, it holds of everything. -/
def Criterion.ofWords (words : List Word) : Reading Criterion :=
  match words with
  | [] => .ok (.test (.constant true))
  | words => do
      match ← sequenceFrom (5 * words.length + 5) [] words with
      | (criterion, []) => pure criterion
      | (_, _) => .error .strayClosing

/-- Whether an argument is the first one of an expression. -/
def beginsExpression (argument : Octets) : Bool :=
  match argument with
  | '-' :: _ :: _ => true
  | ['('] | ['!'] => true
  | _ => false

/-- The arguments without options about links and the like in front. -/
def pastLinkOptions : List Octets → List Octets
  | argument :: rest =>
      match argument with
      | ['-', '-'] => rest
      | ['-', 'H'] | ['-', 'L'] | ['-', 'P'] => pastLinkOptions rest
      | '-' :: 'O' :: level =>
          if !level.isEmpty && level.all Char.isDigit then pastLinkOptions rest
          else argument :: rest
      | argument => argument :: rest
  | [] => []

/-- The plan that arguments say.  The search starts here unless it is said otherwise, and what is
found is shown unless something else is done with it. -/
def Plan.read (now : Int) (arguments : List Octets) : Reading Plan := do
  let arguments := pastLinkOptions arguments
  let starts := arguments.takeWhile (!beginsExpression ·)
  let rest := arguments.drop starts.length
  let (words, settings) ← words now (rest.length + 1) {} rest
  let criterion ← Criterion.ofWords words
  let isShown := criterion.actions.any Action.isVisible
  let criterion :=
    if isShown then criterion else .both criterion (.action (.print none ['\n']))
  pure { starts := if starts.isEmpty then [['.']] else starts, settings, criterion }

end Console.Shell.Finding
