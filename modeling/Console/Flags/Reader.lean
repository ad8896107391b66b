import Console.Flags.Similar
import Console.Flags.Spec
import Console.Text.Visible

/-!
# Reading options

The words of a command line are read from left to right.  An option that takes its value from the
next word is pending until it is clear which words belong to it, and only then is its value looked
at.  The first failure ends the reading; what cannot be used together, and what is missing, is
found at the end.
-/

namespace Console.Flags

/-- What is wrong with a command line, in the wording of its options. -/
inductive Fault where
  | unexpectedArgument (argument : String)
  | invalidValue (value argument : String) (reason : IntegerError)
  | missingValue (argument : String)
  | unneededValue (value argument : String)
  | repeated (argument : String)
  | conflict (argument : String) (others : List String)
  | missingArguments (arguments : List String)
  deriving DecidableEq, Repr

/-- A piece of advice. -/
inductive Tip where
  | similar (argument : String)
  | passAsValue (argument : String)
  deriving DecidableEq, Repr

/-- A failure with the advice and the usage it is shown with. -/
structure Failure where
  fault : Fault
  tip : Option Tip := none
  usage : Option String := none
  deriving DecidableEq, Repr

namespace Fault

/-- The wording of the fault.  What was written on the command line is shown without what controls
a terminal. -/
def message : Fault → String
  | unexpectedArgument argument =>
      "unexpected argument '" ++ visibleText argument ++ "' found"
  | invalidValue value argument reason =>
      "invalid value '" ++ visibleText value ++ "' for '" ++ argument ++ "': " ++ reason.message
  | missingValue argument =>
      "a value is required for '" ++ argument ++ "' but none was supplied"
  | unneededValue value argument =>
      "unexpected value '" ++ visibleText value ++ "' for '" ++ argument ++
        "' found; no more were expected"
  | repeated argument => "the argument '" ++ argument ++ "' cannot be used multiple times"
  | conflict argument [other] =>
      "the argument '" ++ argument ++ "' cannot be used with '" ++ other ++ "'"
  | conflict argument others =>
      "the argument '" ++ argument ++ "' cannot be used with:" ++
        String.join (others.map ("\n  " ++ ·))
  | missingArguments arguments =>
      "the following required arguments were not provided:" ++
        String.join (arguments.map ("\n  " ++ ·))

end Fault

namespace Tip

/-- The wording of the advice. -/
def message : Tip → String
  | similar argument => "a similar argument exists: '" ++ argument ++ "'"
  | passAsValue argument =>
      let argument := visibleText argument
      "to pass '" ++ argument ++ "' as a value, use '-- " ++ argument ++ "'"

end Tip

namespace Failure

/-- The failure with advice and usage, each in a paragraph of its own. -/
def message (failure : Failure) : String :=
  "error: " ++ failure.fault.message ++ "\n\n" ++
    (match failure.tip with
      | some tip => "  tip: " ++ tip.message ++ "\n\n"
      | none => "") ++
    (match failure.usage with
      | some usage => "Usage: " ++ usage ++ "\n\n"
      | none => "") ++
    "For more information, try '--help'."

end Failure

/-- The value of an option or argument. -/
inductive FlagValue where
  | text (value : String)
  | count (value : Nat)
  | integer (value : Int64)
  deriving DecidableEq, Repr

/-- The options and arguments that were given, in the order in which they were, with their
values. -/
structure Given where
  entries : List (String × List FlagValue) := []
  /-- Whether any was given so far, even if it was taken back. -/
  begun : Bool := false
  deriving Repr

namespace Given

/-- Whether an option or argument was given. -/
def has (given : Given) (id : String) : Bool := given.entries.any (·.1 == id)

/-- The values of an option or argument. -/
def values (given : Given) (id : String) : List FlagValue := (given.entries.lookup id).getD []

/-- The text that was given for an option or argument. -/
def text? (given : Given) (id : String) : Option String :=
  match given.values id with
  | .text value :: _ => some value
  | _ => none

/-- All texts that were given for an option or argument. -/
def texts (given : Given) (id : String) : List String :=
  (given.values id).filterMap fun value =>
    match value with
    | .text value => some value
    | _ => none

/-- The count that was given for an option. -/
def count? (given : Given) (id : String) : Option Nat :=
  match given.values id with
  | .count value :: _ => some value
  | _ => none

/-- The integer that was given for an option. -/
def integer? (given : Given) (id : String) : Option Int64 :=
  match given.values id with
  | .integer value :: _ => some value
  | _ => none

/-- The number of times a counted option was given. -/
def tally (given : Given) (id : String) : Nat := (given.values id).length

/-- Adds values to those given before. -/
def add (given : Given) (id : String) (values : List FlagValue) : Given :=
  let entries :=
    if given.has id then
      given.entries.map fun (other, held) => if other == id then (other, held ++ values)
        else (other, held)
    else given.entries ++ [(id, values)]
  { entries, begun := true }

/-- Takes back an option or argument. -/
def erase (given : Given) (id : String) : Given :=
  { given with entries := given.entries.filter (·.1 != id) }

/-- Counts an option once more; it is the latest then. -/
def count (given : Given) (id : String) : Given :=
  (given.erase id).add id (given.values id ++ [.text ""])

end Given

/-- Why the reading ends before the last word. -/
inductive Halt where
  | failure (failure : Failure)
  | help
  | version
  deriving Repr

/-- What the next word may be. -/
inductive Awaiting where
  | anything
  /-- The value of an option. -/
  | value (option : OptionSpec)
  deriving Repr

/-- The state of the reader.  A pending option or argument has its words, the latest last. -/
structure State where
  given : Given := {}
  pending : Option (String × List String) := none
  awaiting : Awaiting := .anything
  /-- Whether all further words are arguments. -/
  trailing : Bool := false
  /-- Whether an argument that is given once has been given. -/
  argumentGiven : Bool := false
  deriving Repr

/-- Reads a value. -/
def readValue (kind : ValueKind) (argument value : String) : Except Failure FlagValue :=
  match kind with
  | .text => .ok (.text value)
  | .path =>
      if value.isEmpty then .error ⟨.missingValue argument, none, none⟩ else .ok (.text value)
  | .count =>
      match readCount value with
      | .ok n => .ok (.count n)
      | .error reason => .error ⟨.invalidValue value argument reason, none, none⟩
  | .integer =>
      match readInteger value with
      | .ok n => .ok (.integer n)
      | .error reason => .error ⟨.invalidValue value argument reason, none, none⟩

namespace Spec

/-- An option with its words is complete. -/
def takeOption (spec : Spec) (given : Given) (option : OptionSpec) (words : List String) :
    Except Halt Given :=
  match option.effect with
  | .showHelp => .error .help
  | .showVersion => .error .version
  | .tally => .ok (given.count option.long)
  | .set =>
      let repeated : Except Halt Given :=
        .error (.failure ⟨.repeated option.display, none, some spec.usage⟩)
      let take (kind : ValueKind) (value : String) : Except Halt Given :=
        if given.has option.long then repeated
        else match readValue kind option.display value with
          | .ok value => .ok (given.add option.long [value])
          | .error failure => .error (.failure failure)
      match option.takes, words with
      | .nothing, _ =>
          if given.has option.long then repeated else .ok (given.add option.long [.text ""])
      | .value .., [] => .error (.failure ⟨.missingValue option.display, none, none⟩)
      | .value _ kind, value :: _ => take kind value
      | .optional _ kind implied, [] => take kind implied
      | .optional _ kind _, value :: _ => take kind value

/-- An argument with its words is complete. -/
def takeArgument (given : Given) (argument : ArgumentSpec) (words : List String) :
    Except Halt Given :=
  match words.mapM (readValue argument.kind argument.display) with
  | .ok values => .ok (given.add argument.name values)
  | .error failure => .error (.failure failure)

/-- What was pending is complete. -/
def resolve (spec : Spec) (state : State) : Except Halt State :=
  match state.pending with
  | none => .ok state
  | some (id, words) =>
      match spec.long? id, spec.argument with
      | some option, _ => do
          .ok { state with given := ← spec.takeOption state.given option words, pending := none }
      | none, some argument => do
          .ok { state with given := ← takeArgument state.given argument words, pending := none }
      | none, none => .ok { state with pending := none }

/-- What counts as given after an option or argument has failed to be complete: one whose value is
missing does not, nor does one that was given before, but one whose value cannot be read does. -/
def attempted (spec : Spec) (given : Given) (id : String) (words : List String) : Given :=
  let needsValue := (spec.long? id).any OptionSpec.needsValue
  if needsValue && words.isEmpty then given
  else if given.has id then given.erase id
  else given.add id []

/-- The state with what was pending complete, as far as that succeeds. -/
def resolved (spec : Spec) (state : State) : State :=
  match spec.resolve state, state.pending with
  | .ok state, _ => state
  | .error _, none => state
  | .error _, some (id, words) =>
      { state with given := spec.attempted state.given id words, pending := none }

/-- The options and arguments given so far. -/
def used (given : Given) : List String := given.entries.map (·.1)

/-- The usage for those who use the given options, or the full one if there are none. -/
def usageFor (spec : Spec) (used : List String) : String :=
  if used.isEmpty then spec.usage else spec.usageOf used

/-- A word that starts with a hyphen is no option. -/
def unknownShort (spec : Spec) (c : Char) : Halt :=
  let written := "-" ++ String.singleton c
  let tip := spec.argument.map fun _ => Tip.passAsValue written
  .failure ⟨.unexpectedArgument written, tip, some spec.usage⟩

/-- A word that starts with two hyphens is no option. -/
def unknownLong (spec : Spec) (state : State) (name : String) : Halt :=
  let given := (spec.resolved state).given
  let written := "--" ++ name
  match mostSimilar? name (spec.options.map (·.long)) with
  | some other =>
      let used := used given
      let used := if used.contains other then used else used ++ [other]
      .failure ⟨.unexpectedArgument written, some (.similar ("--" ++ other)),
        some (spec.usageFor used)⟩
  | none =>
      let tip := spec.argument.map fun _ => Tip.passAsValue written
      .failure ⟨.unexpectedArgument written, tip, some (spec.usageFor (used given))⟩

/-- An option is met, perhaps with a value attached to it. -/
def meet (spec : Spec) (state : State) (option : OptionSpec) (attached : Option String) :
    Except Halt State := do
  let state ← spec.resolve state
  match option.takesValue, attached with
  | true, none =>
      .ok { state with pending := some (option.long, []), awaiting := .value option }
  | _, attached =>
      let given ← spec.takeOption state.given option attached.toList
      .ok { state with given, awaiting := .anything }

/-- Reads the short options in one word. -/
def readShorts (spec : Spec) : State → List Char → Except Halt State
  | state, [] => .ok state
  | state, c :: rest =>
      match spec.short? c with
      | none => .error (spec.unknownShort c)
      | some option =>
          if option.takesValue then
            match rest with
            | [] => spec.meet state option none
            | '=' :: value => spec.meet state option (some (.ofList value))
            | value => spec.meet state option (some (.ofList value))
          else do readShorts spec (← spec.meet state option none) rest

/-- Reads a long option, which a value may be attached to. -/
def readLong (spec : Spec) (state : State) (word : List Char) : Except Halt State :=
  let name := String.ofList (word.takeWhile (· != '='))
  let attached :=
    match word.dropWhile (· != '=') with
    | [] => none
    | _ :: value => some (String.ofList value)
  match spec.long? name with
  | none => .error (spec.unknownLong state name)
  | some option =>
      match option.takesValue, attached with
      | false, some value =>
          let usage :=
            if state.given.begun then spec.usageAmong option else spec.usageOf [option.long]
          .error (.failure ⟨.unneededValue value option.display, none, some usage⟩)
      | _, attached => spec.meet state option attached

/-- Reads a word that is no option. -/
def readPlain (spec : Spec) (state : State) (word : String) : Except Halt State :=
  match spec.argument with
  | some argument =>
      if argument.many then
        match state.pending with
        | some (id, words) =>
            if id == argument.name then
              .ok { state with pending := some (id, words ++ [word]), awaiting := .anything }
            else do
              let state ← spec.resolve state
              .ok { state with pending := some (argument.name, [word]), awaiting := .anything }
        | none =>
            .ok { state with pending := some (argument.name, [word]), awaiting := .anything }
      else if state.argumentGiven then
        .error (.failure ⟨.unexpectedArgument word, none, some spec.usage⟩)
      else do
        let state ← spec.resolve state
        .ok { state with
          pending := some (argument.name, [word]), awaiting := .anything, argumentGiven := true }
  | none => .error (.failure ⟨.unexpectedArgument word, none, some spec.usage⟩)

/-- Reads the value that an option waits for. -/
def readAwaited (state : State) (word : String) : State :=
  { state with
    pending := state.pending.map fun (id, words) => (id, words ++ [word])
    awaiting := .anything }

/-- Reads a word. -/
def readWord (spec : Spec) (state : State) (word : String) : Except Halt State :=
  if state.trailing then spec.readPlain state word
  else
    let mayStartWithHyphen :=
      match state.awaiting with
      | .value option => option.hyphenValues
      | .anything => false
    let plain : Except Halt State :=
      match state.awaiting with
      | .value _ => .ok (readAwaited state word)
      | .anything => spec.readPlain state word
    if mayStartWithHyphen then plain
    else match word.toList with
      | ['-', '-'] => .ok { state with trailing := true }
      | '-' :: '-' :: name => spec.readLong state name
      | '-' :: c :: rest => spec.readShorts state (c :: rest)
      | _ => plain

/-- What an option or argument cannot be used with. -/
def conflictsOf (spec : Spec) (id : String) : List String :=
  ((spec.long? id).map (·.conflicts)).getD [] ++
    if spec.oneOf.contains id then spec.oneOf.filter (· != id) else []

/-- The first of the given options and arguments that cannot be used with another one. -/
def conflict? (spec : Spec) (given : Given) : Option Failure :=
  let ids := given.entries.map (·.1)
  ids.findSome? fun id =>
    let others := ids.filter fun other =>
      other != id && ((spec.conflictsOf id).contains other || (spec.conflictsOf other).contains id)
    if others.isEmpty then none
    else some ⟨.conflict (spec.displayOf id) (others.map spec.displayOf), none,
      some (spec.usageOf (ids.filter fun used => !others.contains used))⟩

/-- What is needed and not given. -/
def missing? (spec : Spec) (given : Given) : Option Failure :=
  let group :=
    if spec.oneOf.isEmpty || spec.oneOf.any given.has then [] else [spec.groupDisplay]
  let argument :=
    match spec.argument with
    | some argument =>
        if argument.required && !given.has argument.name then [argument.display] else []
    | none => []
  if (group ++ argument).isEmpty then none
  else some ⟨.missingArguments (group ++ argument), none,
    some (spec.usageOf (given.entries.map (·.1)))⟩

/-- Reads the words of a command line. -/
def read (spec : Spec) (words : List String) : Except Halt Given := do
  let state ← words.foldlM (fun state word => spec.readWord state word) {}
  let state ← spec.resolve state
  match spec.conflict? state.given with
  | some failure => .error (.failure failure)
  | none =>
      match spec.missing? state.given with
      | some failure => .error (.failure failure)
      | none => .ok state.given

end Spec

end Console.Flags
