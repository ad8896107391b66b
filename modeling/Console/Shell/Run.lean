import Console.Shell.Reader.Command
import Console.Shell.Batches
import Console.Shell.Builtin
import Console.Shell.Finding.Run
import Console.Shell.Report.Run

/-!
# Running scripts

Commands are run on the state of a shell.  A part of a script that runs by itself, such as one side
of a pipeline, gets a copy of the state and leaves only what processes share.  `Shell.start?` starts
a program with arguments, and `Shell.host` is the host whose programs are these.  It is one host
among others: the console is given one when it is started, and what is proved about the console is
proved for every host.

Commands may be in one another only to a certain depth, and loops may have only a certain number of
turns; nothing else bounds a script.
-/

namespace Console.Shell

namespace Work

/-- Runs a command; the first argument says whether somebody looks at its status. -/
abbrev Runner := (isTested : Bool) → Command → Work Unit

/-! ## Scripts and parts of them -/

/-- Runs commands one after another. -/
def runAll (run : Runner) (isTested : Bool) (commands : List Command) : Work Unit :=
  commands.forM (run isTested)

/-- Shows the lines of a file that have been read, if that is wanted. -/
def showLines (isFile : Bool) (text : Octets) : Work Unit := do
  if isFile && (← get).options.verbose then
    let _ ← writeTo 2 text

/-- Runs the lines of a script, and tells whether there was a command in them; the number bounds
the number of lines, and `isFile` says that they come from a file. -/
def runLines (run : Runner) (isTested isFile : Bool) : Nat → Source → Work Bool
  | 0, _ => pure false
  | bound + 1, source => do
      match source.next? with
      | .error mistake =>
          showLines isFile source.rest
          modify ({ · with line := mistake.line })
          refuse ("Syntax error: " ++ mistake.fault.message).toList
      | .ok (none, _) =>
          showLines isFile source.rest
          modify ({ · with isAtEnd := true })
          pure false
      | .ok (some commands, after) =>
          showLines isFile (source.rest.take (source.rest.length - after.rest.length))
          modify ({ · with documents := after.documents, isAtEnd := after.isOver })
          unless (← get).options.noexec do runAll run isTested commands
          let state ← get
          let isAny ← runLines run isTested isFile bound
            { after with documents := state.documents, aliases := state.aliases }
          pure (isAny || !commands.isEmpty)

/-- Runs a text as a script. -/
def runScript (run : Runner) (isTested isFile : Bool) (text : Octets) : Work Unit := do
  let state ← get
  let source : Source := { rest := text, documents := state.documents, aliases := state.aliases }
  unless ← runLines run isTested isFile (text.length + 1) source do setStatus 0

/-- Runs a text that is no file as a script. -/
def runText (run : Runner) (isTested : Bool) (text : Octets) : Work Unit :=
  runScript run isTested false text

/-- What comes of something that is run to its end. -/
def endingOf (result : EStateM.Result Stop State Unit) : Ending × State :=
  match result with
  | .error (.exit ending) state => (ending, state)
  | .error .refused state => (.status 2, state)
  | .ok _ state | .error _ state => (.status (state.status % 256), state)

/-- Runs something as a whole process: when it ends, it does what is to be done at the end. -/
def settled (run : Runner) (work : Work Unit) (state : State) : Ending × State :=
  match endingOf (work state) with
  | (.status code, state) =>
      match state.traps.lookup 0 with
      | none => (.status code, state)
      | some action =>
          let start := { state with status := code, traps := state.traps.filter (·.1 != 0) }
          match runText run false action start with
          | .ok _ state | .error .finish state => (.status code, state)
          | result => endingOf result
  | (ending, state) => (ending, state)

/-! ## Commands in the background -/

/-- How a command in the background ends, and the state then. -/
def endingOfPending (run : Runner) (pending : Pending) (system : System) : Ending × State :=
  let started := pending.standing.system.now
  let start : State :=
    { pending.standing with
      system :=
        { system with
          now := started, deadline := pending.signal.map fun (n, time) => (time, n) }
      isInner := true, jobs := [], pending := [] }
  match pending.signal with
  | some (signal, time) =>
      if time ≤ started then (.signal signal, start)
      else settled run (run false pending.command) start
  | none => settled run (run false pending.command) start

/-- The first of commands in the background to end, with how it does, up to a time if there is a
limit. -/
def firstToEnd? (run : Runner) (limit : Option Int) (system : System) :
    List Pending → Option (Pending × Ending × State)
  | [] => none
  | pending :: rest =>
      let (ending, inner) := endingOfPending run pending system
      let later := firstToEnd? run limit system rest
      if !limit.all (inner.system.now ≤ ·) then later
      else
        match later with
        | some (other, end', state) =>
            if state.system.now < inner.system.now then some (other, end', state)
            else some (pending, ending, inner)
        | none => some (pending, ending, inner)

/-- Runs commands in the background, those that end first first, as long as it is not enough: those
that end up to a time if there is a limit.  The number bounds how many. -/
def settleUntil (run : Runner) (limit : Option Int) (isEnough : State → Bool) :
    Nat → State → State
  | 0, state => state
  | bound + 1, state =>
      if isEnough state then state
      else
        match firstToEnd? run limit state.system state.pending with
        | none => state
        | some (pending, ending, inner) =>
            settleUntil run limit isEnough bound
              { state with
                system :=
                  { inner.system with
                    now := max state.system.now inner.system.now
                    deadline := state.system.deadline }
                pending := state.pending.filter (·.process != pending.process)
                jobs := state.jobs.modify pending.process ({ · with ending := some ending }) }

/-- Runs what is in the background and has ended by now. -/
def settleDue (run : Runner) : Work Unit := modify fun state =>
  settleUntil run (some state.system.now) (fun _ => false) state.pending.length state

/-- Runs what is in the background: one process to its end, or all; a signal for the shell comes
before. -/
def settle (run : Runner) (process : Option Nat) : Work Unit := modify fun state =>
  let hasSignal (state : State) : Bool :=
    !state.isInner && (state.system.signals.lookup state.process).isSome
  let isOver (state : State) : Bool :=
    match process.bind state.jobs.ofProcess? with
    | some job => job.ending.isSome
    | none => false
  settleUntil run none (fun state => hasSignal state || isOver state) state.pending.length state

/-- What a shell that has ended leaves behind goes on without it. -/
def abandoned (run : Runner) (state : State) : State :=
  let after := settleUntil run none (fun _ => false) state.pending.length state
  { after with system := { after.system with now := state.system.now } }

/-- What comes of a process that the shell has waited for: its status; a signal that has ended it is
told of. -/
def awaited (ending : Ending) : Work Nat := do
  let _ ← writeTo 2 (Builtin.deathText ending)
  pure ending.code

/-- Starts a process of the shell. -/
def makeRoom (run : Runner) : Work Unit := do
  settleDue run
  modify fun state => { state with jobs := state.jobs.makeRoom }

/-- Runs something as a part of the script by itself, and gives its status. -/
def aside (run : Runner) (work : Work Unit) : Work Nat := do
  makeRoom run
  let outer ← get
  let traps := outer.traps.filter (·.2.isEmpty)
  let (ending, inner) :=
    settled run work { outer with isInner := true, traps, jobs := [], pending := [] }
  set { outer with system := (abandoned run inner).system }
  awaited ending

/-- Runs something as a part of the script by itself and waits for it, and gives its status. -/
def apart (run : Runner) (work : Work Unit) : Work Nat := do
  let status ← aside run work
  Builtin.receiveEnd (runText run false)
  pure status

/-- The output of commands, without the newlines at its end. -/
def outputOf (run : Runner) (commands : List Command) : Work Octets := do
  let pipe ← addStream { medium := .pipe [] }
  let status ← apart run do
    redirect 1 (some pipe)
    runAll run false commands
  modify ({ · with substituted := status })
  let text := (← get).system.remaining pipe
  pure (Octets.withoutFinalNewlines (text.filter (· != '\x00')))

/-- Does something after which the descriptors are as before. -/
def keepingDescriptors {α : Type} (work : Work α) : Work α := fun before =>
  match work before with
  | .ok value after => .ok value { after with descriptors := before.descriptors }
  | .error stop after => .error stop { after with descriptors := before.descriptors }

/-! ## Redirections -/

/-- A redirection whose words have been expanded; a text in the script is only expanded when it is
its turn. -/
inductive Route where
  | file (descriptor : Nat) (access : Access) (name : Octets)
  | copy (descriptor : Nat) (source : Option Nat)
  | document (descriptor index : Nat)

/-- Expands the words of a redirection. -/
def routeOf (output : List Command → Work Octets) : Redirection → Work Route
  | .file descriptor access target => do pure (.file descriptor access (← textOfWord output target))
  | .copy descriptor source => do
      match ← textOfWord output source with
      | ['-'] => pure (.copy descriptor none)
      | [digit] =>
          if isDigit digit then pure (.copy descriptor (some (Text.digitValue digit)))
          else refuse "Syntax error: Bad fd number".toList
      | _ => refuse "Syntax error: Bad fd number".toList
  | .document descriptor index => pure (.document descriptor index)

/-- Why a file cannot be opened, in the words of the shell. -/
def openText (isNew : Bool) (cause : IoCause) : String :=
  match cause with
  | .notFound | .notADirectory => if isNew then "Directory nonexistent" else "No such file"
  | cause => causeText cause

/-- What something comes to; none if it cannot be done. -/
def attempt {α : Type} (work : Work α) : Work (Option α) := fun before =>
  match work before with
  | .ok value after => .ok (some value) after
  | .error .refused after => .ok none after
  | .error stop after => .error stop after

/-- Follows a redirection; whether it could be done. -/
def follow (output : List Command → Work Octets) (route : Route) : Work Bool := do
  let state ← get
  match route with
  | .copy descriptor none =>
      redirect descriptor none
      pure true
  | .copy descriptor (some source) =>
      match state.descriptors.lookup source with
      | some stream =>
          redirect descriptor (some stream)
          pure true
      | none =>
          complain (countOctets source ++ ": Bad file descriptor".toList)
          pure false
  | .document descriptor index =>
      match ← attempt (textOfDocument output ((state.documents[index]?).getD [])) with
      | none => pure false
      | some text =>
          let pipe ← addStream { medium := .pipe (Octets.toBytes text) }
          redirect descriptor (some pipe)
          pure true
  | .file descriptor access name =>
      let location ← location name
      let isFile := match ← nodeOf? name with | some (.file _) => true | _ => false
      let opened : Except String (Nat × System) :=
        match access with
        | .read => (state.system.openToRead location).mapError fun cause =>
            "cannot open " ++ Octets.toText name ++ ": " ++ openText false cause
        | .write force =>
            if state.options.noclobber && !force && isFile then
              .error ("cannot create " ++ Octets.toText name ++ ": File exists")
            else
              (state.system.openToWrite state.mask location true false false).mapError fun cause =>
                "cannot create " ++ Octets.toText name ++ ": " ++ openText true cause
        | .append =>
            (state.system.openToWrite state.mask location false true false).mapError fun cause =>
              "cannot create " ++ Octets.toText name ++ ": " ++ openText true cause
        | .readAndWrite =>
            (state.system.openToWrite state.mask location false false true).mapError fun cause =>
              "cannot create " ++ Octets.toText name ++ ": " ++ openText true cause
      match opened with
      | .ok (stream, system) =>
          set { state with system }
          redirect descriptor (some stream)
          pure true
      | .error text =>
          complain (Octets.ofText text)
          pure false

/-- Follows redirections up to the first one that cannot be done; whether there is none. -/
def followAll (output : List Command → Work Octets) : List Route → Work Bool
  | [] => pure true
  | route :: rest => do if ← follow output route then followAll output rest else pure false

/-- Whether a part of a word can be expanded without doing anything. -/
def isSteady : Part → Bool
  | .plain _ | .quoted _ | .parameter _ _ .value => true
  | _ => false

/-- Makes the file of a redirection, unless that fails. -/
def openEarly (redirection : Redirection) : Work Unit := do
  if let .file descriptor access target := redirection then
    if target.all isSteady && access != .read then
      let work : Work Bool := do
        let output : List Command → Work Octets := fun _ => pure []
        keepingDescriptors do
          follow output (← routeOf output (.file descriptor access target))
      fun before =>
        match work before with
        | .ok true after => .ok () after
        | _ => .ok () before

/-- Makes the files of the commands that read what a program is about to write. -/
def openLater : Work Unit := do
  let later := (← get).later
  modify ({ · with later := [] })
  later.forM openEarly

/-- Does something with redirections, or something else if they cannot be done. -/
def redirected (output : List Command → Work Octets) (redirections : List Redirection)
    (work onFailure : Work Unit) : Work Unit := do
  let routes ← redirections.mapM (routeOf output)
  keepingDescriptors do
    if ← followAll output routes then work else onFailure

/-! ## Simple commands -/

/-- Ends the shell if the command has failed, nobody looks at it, and the shell is strict. -/
def checked (isTested : Bool) : Work Unit := do
  let state ← get
  if state.options.strict && !isTested && state.status ≠ 0 then
    throw (.exit (.status state.status))

/-- Gives parameters the values that a command has in front. -/
def assignAll (output : List Command → Work Octets) (assignments : List (Octets × Word)) :
    Work (List (Octets × Octets)) :=
  assignments.mapM fun (name, word) => do
    let value ← textOfValue output word
    assign name value
    pure (name, value)

/-- Puts parameters back, the latest first. -/
def restored (saved : List (Octets × Option Variable)) (state : State) : State :=
  { state with
    found := if saved.any (·.1 == pathName) then [] else state.found
    bindings := saved.foldl
      (fun bindings (name, entry) =>
        let others := bindings.filter (·.1 != name)
        match entry with
        | some entry => (name, entry) :: others
        | none => others) state.bindings }

/-- Gives parameters the values that a command has in front, for programs too, and then does
something with them and with what they were before, the latest first. -/
def assignedThen (output : List Command → Work Octets)
    (work : List (Octets × Octets) → Work Unit) :
    List (Octets × Word) → List (Octets × Octets) → List (Octets × Option Variable) → Work Unit
  | [], given, saved => fun before =>
      match work given.reverse before with
      | .ok value after => .ok value (restored saved after)
      | .error stop after => .error stop (restored saved after)
  | (name, word) :: rest, given, saved => do
      let value ← textOfValue output word
      let before := (← get).bindings.lookup name
      let assigned : Work Unit := do
        assign name value
        let entry := (← get).bindings.lookup name
        putVariable name (entry.map fun entry => { entry with isExported := true })
      let refused : Work Unit := fun state =>
        match assigned state with
        | .ok value after => .ok value after
        | .error stop after => .error stop (restored saved after)
      refused
      assignedThen output work rest ((name, value) :: given) ((name, before) :: saved)

/-- Does something with parameters that have values for it alone. -/
def assignedFor (output : List Command → Work Octets) (assignments : List (Octets × Word))
    (work : List (Octets × Octets) → Work Unit) : Work Unit :=
  assignedThen output work assignments [] []

/-- What stands in front of commands that are shown: a word that is expanded anew each time, or the
text of it if that cannot be done. -/
def traceFront (output : List Command → Work Octets) : Work Octets := do
  let before ← get
  let text := (lookUp before "PS4".toList).getD []
  let source : Source :=
    { rest := text
      documents := before.documents
      aliases := before.aliases
      held := if before.isAtEnd then some .finish else none }
  match source.word with
  | .error mistake =>
      let isTaken := match mistake.fault with | .unexpected _ _ => true | _ => false
      modify ({ · with line := mistake.line, isAtEnd := before.isAtEnd && !isTaken })
      complain ("Syntax error: " ++ mistake.fault.message).toList
      modify ({ · with line := before.line })
      pure text
  | .ok (word, after) =>
      let expanded : Work Octets := do
        modify fun state =>
          { state with
            isAtEnd := after.held.isSome
            documents := after.documents
            options := { state.options with traced := false } }
        textOfDocument output word
      let restored (state : State) : State :=
        { state with
          documents := before.documents
          options := before.options
          status := before.status
          substituted := before.substituted }
      fun state =>
        match expanded state with
        | .ok text after => .ok text (restored after)
        | .error .refused after => .ok text (restored after)
        | .error stop after => .error stop (restored after)

/-- Shows a command before it is run, if that is wanted, where complaints went before it. -/
def trace (output : List Command → Work Octets) (errors : Option Nat)
    (given : List (Octets × Octets)) (words : List Octets) : Work Unit := do
  if (← get).options.traced then
    let words := given.map (fun (name, value) => name ++ '=' :: value) ++ words
    let front ← traceFront output
    let text := front ++ [' '].intercalate words ++ ['\n']
    let state ← get
    if let some system := errors.bind (state.system.write? · text) then set { state with system }

/-- Runs a command of the shell under its name.  One that is refused has a status, unless it is
special. -/
def runBuiltin (builtin : Builtin) (isSpecial : Bool) (name : Octets) (arguments : List Octets) :
    Work Unit := do
  fun before =>
    let renamed (state : State) : State := { state with commandName := before.commandName }
    match builtin.run arguments { before with commandName := some name } with
    | .ok status after => .ok () { renamed after with status }
    | .error .refused after =>
        if isSpecial then .error .refused (renamed after)
        else .ok () { renamed after with status := 2 }
    | .error stop after => .error stop (renamed after)

/-- Runs a function. -/
def runFunction (run : Runner) (isTested : Bool) (body : Command) (arguments : List Octets) :
    Work Unit := fun before =>
  let start :=
    { before with
      arguments, loops := 0, locals := some [], localOptions := none, optionPlace := {} }
  let restore (after : State) : State :=
    let locals := after.locals.getD []
    let index := ((locals.lookup optionIndexName).bind id).bind (·.value)
    let optionPlace : OptionPlace :=
      match index.bind count? with
      | some index => { index := max index 1 }
      | none => before.optionPlace
    { restored locals after with
      arguments := before.arguments
      loops := before.loops
      locals := before.locals
      localOptions := before.localOptions
      options := after.localOptions.getD after.options
      optionPlace }
  match run isTested body start with
  | .ok _ after | .error .finish after => .ok () (restore after)
  | .error stop after => .error stop (restore after)

/-! ## Programs that run programs -/

/-- The options of a shell that is started: whether the script is an argument or is read from the
input, and the others. -/
structure Start where
  isInline : Bool := false
  isRead : Bool := false
  options : Options := {}

/-- Takes up the letters of an option; it has to know all of them.  The letter for options with
names takes these from the arguments after it. -/
def Start.take (start : Start) (isOn : Bool) : Octets → List Octets → Except Octets Start
  | [], _ => .ok start
  | 'c' :: letters, names => take { start with isInline := true } isOn letters names
  | 's' :: letters, names => take { start with isRead := isOn } isOn letters names
  | 'l' :: letters, names => take start isOn letters names
  | 'o' :: letters, [] => take start isOn letters []
  | 'o' :: letters, name :: names =>
      match (Options.letterOf? (.ofList name)).bind (start.options.set? isOn) with
      | some options => take { start with options } isOn letters names
      | none => .error ("Illegal option -o ".toList ++ name)
  | letter :: letters, names =>
      match start.options.set? isOn letter with
      | some options => take { start with options } isOn letters names
      | none => .error ("Illegal option ".toList ++ [if isOn then '-' else '+', letter])

/-- The options in front of arguments, and the arguments after them. -/
def Start.read (start : Start) : List Octets → Except Octets (Start × List Octets)
  | [] => .ok (start, [])
  | argument :: rest =>
      match argument with
      | ['-'] | ['-', '-'] => .ok (start, rest)
      | c :: letters =>
          if c != '-' && c != '+' then .ok (start, argument :: rest)
          else
            match start.take (c == '-') letters rest with
            | .ok start => start.read (rest.drop (letters.count 'o'))
            | .error text => .error text
      | [] => .ok (start, argument :: rest)
  termination_by arguments => arguments.length
  decreasing_by simp only [List.length_drop, List.length_cons]; omega

/-- The parameters that a shell has from the start, some of them only if it has not been given them:
what it puts in front of what it asks for and shows, its separators, and where it is. -/
def withOwnParameters (around : Nat) (state : State) : State :=
  let given (name : String) : Option Variable := state.bindings.lookup name.toList
  let isExported (name : String) : Bool := (given name).any (·.isExported)
  let fixed (name : String) (value : Octets) : Octets × Variable :=
    (name.toList, { value, isExported := isExported name })
  let preset (name value : String) : Octets × Variable :=
    (name.toList, (given name).getD { value := value.toList })
  let own : List (Octets × Variable) :=
    [fixed "IFS" defaultSeparators, fixed "OPTIND" ['1'], fixed "PPID" (countOctets around),
     preset "PS1" "# ", preset "PS2" "> ", preset "PS4" "+ ",
     ("PWD".toList,
      { value := some (Octets.ofText (Directory.text state.place)), isExported := true })]
  let others := state.bindings.filter fun (name, _) => (own.lookup name).isNone
  { state with bindings := others ++ own }

/-- Runs a shell with arguments, in the state that it starts with. -/
def runShell (run : Runner) (own : Octets) (arguments : List Octets) (state : State) :
    Ending × State :=
  let state := withOwnParameters (state.around.head?.getD (state.process - 1)) state
  let go (start : Start) (name : Octets) (arguments : List Octets) (work : Work Unit) :
      Ending × State :=
    settled run work { state with name, arguments, options := start.options }
  let refused (text : Octets) : Ending × State :=
    match writeTo 2 (own ++ ": 0: ".toList ++ text ++ ['\n']) state with
    | .ok _ state | .error _ state => (.status 2, state)
  match ({} : Start).read arguments with
  | .error text => refused text
  | .ok (start, arguments) =>
      let input : Work Unit := do
        modify fun state =>
          { state with options := (state.options.set? true 's').getD state.options }
        runScript run false true (← readAll 0)
      match start.isInline, arguments with
      | true, [] => refused "-c requires an argument".toList
      | true, script :: rest => go start (rest.head?.getD own) (rest.drop 1) do
          runText run false script
          if start.isRead then input
      | false, [] => go start own arguments input
      | false, file :: rest =>
          if start.isRead then go start own arguments input else
          match location file state with
          | .error _ state => (.status 2, state)
          | .ok location state =>
              match state.system.storage.content location with
              | .ok bytes => go start file rest (runScript run false true (Octets.ofBytes bytes))
              | .error .isADirectory => (.status 0, state)
              | .error cause =>
                  refused ("cannot open ".toList ++ file ++ ": ".toList ++
                    (openText false cause).toList)

/-- Runs a shell as a process of its own. -/
def runOtherShell (run : Runner) (own : Octets) (arguments : List Octets) : Work Ending := do
  let outer ← get
  let number := outer.system.nextProcess
  let exported := outer.bindings.filter (·.2.isExported)
  let others := if (exported.lookup "PATH".toList).isSome then [] else [Utility.standardEntry]
  let inner : State :=
    { system := { outer.system with nextProcess := number + 1 }
      locate := outer.locate
      place := outer.place
      name := own
      descriptors := outer.descriptors
      bindings :=
        exported.map (fun (name, entry) => (name, { entry with isReadOnly := false })) ++ others
      process := number
      around := outer.process :: outer.around }
  let (ending, inner) := runShell run own arguments inner
  set { outer with system := (abandoned run inner).system }
  pure ending

/-- The program that the first line of a file names to run it, and the argument in that line; the
shell, if there is no such line. -/
def interpreterOf (content : Octets) : Octets × List Octets :=
  match content with
  | '#' :: '!' :: rest =>
      let line := (rest.takeWhile (· != '\n')).dropWhile (· == ' ')
      let name := line.takeWhile (· != ' ')
      let argument := (line.drop name.length).dropWhile (· == ' ')
      (name, if argument.isEmpty then [] else [argument])
  | _ => ("/bin/sh".toList, [])

/-- What a program says of one that it cannot start, before the reason; the shell says something of
its own. -/
def startText (starter : String) (name : Octets) : String :=
  let text := Octets.toText name
  match starter with
  | "xargs" => "xargs: " ++ text
  | "env" | "nice" | "find" => starter ++ ": '" ++ text ++ "'"
  | "setsid" => "setsid: failed to execute " ++ text
  | starter => starter ++ ": failed to run command '" ++ text ++ "'"

/-- A process that has no program: complains, and gives its status. -/
def missingProgram (starter : String) (name : Octets) (absence : Utility.Absence) :
    Work Ending := do
  if starter.isEmpty then
    let reason := if absence = .denied || name.isEmpty then ": Permission denied" else ": not found"
    complain (name ++ reason.toList)
  else
    let reason :=
      if absence = .denied then ": Permission denied\n" else ": No such file or directory\n"
    let _ ← writeTo 2 (Octets.ofText (startText starter name ++ reason))
  let isDenied : Bool := absence = .denied && (name.contains '/' || !starter.isEmpty)
  pure (.status (if isDenied then 126 else 127))

/-- The arguments of a program that runs another one, without its own. -/
def passedOn (starter : String) (arguments : List Octets) : List Octets :=
  match starter, arguments with
  | "timeout", _ :: rest => rest
  | "nice", option :: _ :: rest => if option = ['-', 'n'] then rest else arguments
  | _, arguments => arguments

/-- The definitions in front of the arguments of `env`, and the other arguments; `-i` says that
nothing else is defined. -/
def definitions : List Octets → Bool × List (Octets × Octets) × List Octets
  | [] => (false, [], [])
  | word :: rest =>
      if word = ['-'] || word = ['-', 'i'] then
        let (_, given, rest) := definitions rest
        (true, given, rest)
      else
        match assignment? word with
        | some definition =>
            let (isEmpty, given, rest) := definitions rest
            (isEmpty, definition :: given, rest)
        | none => (false, [], word :: rest)

/-- What a program says if its output cannot be written, and its status then. -/
def lossOf (program : String) : String × Nat :=
  match program with
  | "cat" => ("standard output", 1)
  | "sort" => ("write failed: 'standard output'", 2)
  | "sed" => ("couldn't close stdout", 4)
  | "diff" => ("standard output", 2)
  | "tee" => ("'standard output'", 1)
  | "expr" => ("write error", 3)
  | "grep" | "ls" | "cmp" => ("write error", 2)
  | _ => ("write error", 1)

/-- Definitions with others put in their places, or after them. -/
def redefined (before : List (Octets × Octets)) : List (Octets × Octets) → List (Octets × Octets)
  | [] => before
  | (name, value) :: rest =>
      redefined
        (if (before.lookup name).isSome then
          before.map fun entry => if entry.1 == name then (name, value) else entry
        else before ++ [(name, value)]) rest

/-- Runs a program that does all its work by itself, and complains if some of its output has been
lost. -/
def runUtility (name : String) (utility : Utility) (arguments : List Octets) : Work Ending := do
  modify ({ · with hasLostOutput := false })
  let status ← utility arguments
  if (← get).hasLostOutput then
    let (complaint, failure) := lossOf name
    let _ ← Utility.complain name (complaint ++ ": Bad file descriptor") 1
    pure (.status (max status failure))
  else pure (.status status)

/-- Runs a command in a shell for a program, which tells signals from statuses. -/
def commandStatus (run : Runner) (command : Octets) : Work Nat := do
  match ← runOtherShell run "sh".toList ["-c".toList, command] with
  | .status code => pure code
  | .signal number => pure (256 + number)

/-- Runs a program with arguments for another one, or for the shell; the number bounds the programs
that start one another. -/
def runProgram (run : Runner) : Nat → (starter : String) → Octets → List Octets → Work Ending
  | 0, starter, name, _ => missingProgram starter name .missing
  | bound + 1, starter, name, arguments => do
      match ← Utility.search name with
      | .error absence => missingProgram starter name absence
      | .ok (.script path) =>
          match ← Utility.contentOf path with
          | .ok content =>
              let (program, before) := interpreterOf content
              match ← Utility.search program with
              | .error absence => missingProgram starter name absence
              | .ok _ => runProgram run bound starter program (before ++ path :: arguments)
          | .error _ => missingProgram starter name .denied
      | .ok (.program _ "sh") | .ok (.program _ "dash") | .ok (.program _ "bash") =>
          runOtherShell run name arguments
      | .ok (.program _ "test") => builtinEnding (Builtin.test arguments)
      | .ok (.program _ "[") => builtinEnding (Builtin.bracket arguments)
      | .ok (.program _ "which") =>
          let found ← arguments.mapM fun name => do pure (← Utility.search name).toOption
          let _ ← writeTo 1 (Utility.ofLines ((found.filterMap id).map (·.path)))
          pure (.status (if found.all Option.isSome && !found.isEmpty then 0 else 1))
      | .ok (.program _ "awk") | .ok (.program _ "mawk") => do
          runUtility "awk" (Report.awk (commandStatus run) (Utility.environment (← get))) arguments
      | .ok (.program _ "find") => do
          let start (name : Octets) (arguments : List Octets) : Work Nat := do
            pure (← runProgram run bound "find" name arguments).code
          runUtility "find" (Finding.find start) arguments
      | .ok (.program _ "xargs") =>
          runUtility "xargs" (Batches.xargs (runProgram run bound "xargs")) arguments
      | .ok (.program _ "env") =>
          let (isEmpty, given, arguments) := definitions arguments
          fun before =>
            let known := if isEmpty then [] else Utility.environment before
            let shown := redefined known given
            let entries : List (Octets × Variable) := shown.reverse.map fun (name, value) =>
              (name, { value := some value, isExported := true })
            let path := if (shown.lookup pathName).isSome then [] else [Utility.standardEntry]
            let start : State := { before with bindings := entries ++ path }
            let work : Work Ending :=
              match arguments with
              | [] => .status <$> Utility.printDefinitions shown []
              | name :: rest => runProgram run bound "env" name rest
            match work start with
            | .ok ending after => .ok ending { after with bindings := before.bindings }
            | .error stop after => .error stop { after with bindings := before.bindings }
      | .ok (.program _ text) =>
          match Utility.ofName? text with
          | some utility => runUtility text utility arguments
          | none =>
              match passedOn text arguments with
              | [] => pure (.status 125)
              | name :: rest => runProgram run bound text name rest
where
  /-- A command of the shell as a program. -/
  builtinEnding (work : Work Nat) : Work Ending := fun before =>
    match work before with
    | .ok status after => .ok (.status status) after
    | .error .refused after => .ok (.status 2) after
    | .error stop after => .error stop after

/-! ## Commands of the shell that run others -/

/-- The file that a name means for `.`: the first one of that name where programs are, if the name
has no slash. -/
def sourceOf? (name : Octets) : Work (Option Octets) := do
  if name.contains '/' then pure (some name)
  else
    let places := (lookUp (← get) pathName).getD []
    (Utility.candidates places name).findM? fun path => do
      pure (match ← nodeOf? path with | some (.file _) => true | _ => false)

/-- Runs a file as a part of the script. -/
def source (run : Runner) (arguments : List Octets) : Work Nat := do
  match arguments with
  | [] => pure 0
  | name :: _ =>
      match ← sourceOf? name with
      | none => refuse (name ++ ": not found".toList)
      | some file =>
          match ← Utility.contentOf file with
          | .error cause => refuse ("cannot open ".toList ++ file ++ ": ".toList ++
              (openText false cause).toList)
          | .ok text =>
              modify ({ · with commandName := some file })
              let work : Work Unit := fun before =>
                match runScript run false true text before with
                | .error .finish after => .ok () after
                | result => result
              work
              pure (← get).status

/-- Becomes another program. -/
def become (run : Runner) (arguments : List Octets) : Work Nat := do
  match arguments with
  | [] => pure 0
  | name :: rest =>
      modify ({ · with commandName := some "exec".toList })
      if name.isEmpty then
        complain ": Permission denied".toList
        throw (.exit (.status 126))
      settleDue run
      openLater
      let ending ← runProgram run 100 "" name rest
      modify ({ · with traps := [] })
      throw (.exit ending)

/-- What a name means: in short, and after the name; none if it means nothing. -/
def meaningOf (places name : Octets) : Work (Option (Octets × Octets)) := do
  let state ← get
  let text := String.ofList name
  let same (long : String) : Option (Octets × Octets) := some (name, long.toList)
  if Symbol.keywords.contains text then pure (same " is a shell keyword")
  else
    match state.aliases.lookup name with
    | some meant =>
        pure (some ("alias ".toList ++ name ++ '=' :: Builtin.quotedValue meant,
          " is an alias for ".toList ++ meant))
    | none =>
        if (state.functions.lookup name).isSome then pure (same " is a shell function")
        else if Reading.specialNames.contains text then pure (same " is a special shell builtin")
        else if Builtin.isOwn name then
          pure (same " is a shell builtin")
        else if name.contains '/' then
          pure ((← Utility.nodeOf? name).map fun _ => (name, " is ".toList ++ name))
        else
          match state.found.lookup name with
          | some (path, _) => pure (some (path, " is a tracked alias for ".toList ++ path))
          | none =>
              match ← Utility.searchIn places name with
              | .error _ => pure none
              | .ok executable =>
                  if lookUp state pathName == some places then keepFound name executable.path
                  pure (some (executable.path, " is ".toList ++ executable.path))

/-- Says what names mean. -/
def describe (places : Octets) (isLong : Bool) (names : List Octets) : Work Nat := do
  let mut status := 0
  let mut lines : List Octets := []
  for name in names do
    match ← meaningOf places name with
    | some (short, long) => lines := lines ++ [if isLong then name ++ long else short]
    | none =>
        status := 127
        if isLong then lines := lines ++ [name ++ ": not found".toList]
  pure (max status (← Builtin.say (Utility.ofLines lines)))

/-- Says what the first name after options means, or does nothing. -/
def inform (arguments : List Octets) : Work Nat := do
  let (given, names) ← Builtin.options [('p', false), ('v', false), ('V', false)] arguments
  let places ←
    if given.any (·.1 == 'p') then pure Utility.standardPath
    else do pure ((lookUp (← get) pathName).getD [])
  if given.any fun (letter, _) => letter == 'v' || letter == 'V' then
    describe places (given.any (·.1 == 'V')) (names.take 1)
  else pure 0

/-- The command of the shell with a name. -/
def builtin? (run : Runner) (isTested : Bool) (name : String) : Option Builtin :=
  match name with
  | "." => some { isSpecial := true, run := source run }
  | "exec" => some { isSpecial := true, run := become run }
  | "type" => some { run := fun names => do
      describe ((lookUp (← get) pathName).getD []) true names }
  | name => Builtin.ofName? (runText run isTested) (settle run) name

/-- Remembers where a program is found by its name. -/
def track (name : Octets) : Work Unit := do
  unless name.contains '/' do
    match ← Utility.search name with
    | .ok executable => keepFound name executable.path
    | .error _ => modify fun state => { state with found := state.found.filter (·.1 != name) }

/-- What comes of a program.  A signal at its deadline may be one that the shell does something
about. -/
def ending (run : Runner) (work : Work Ending) : Work Ending := fun before =>
  match work before with
  | .error (.exit (.signal signal)) after =>
      if (before.traps.lookup signal).isSome && after.system.deadline.any (·.2 = signal) then
        let system := { after.system with deadline := none }
        (do
          Builtin.receive (runText run false) signal
          pure (.signal signal) : Work Ending) { before with system }
      else .error (.exit (.signal signal)) after
  | result => result

/-- Runs a program. -/
def runOutside (run : Runner) (name : Octets) (arguments : List Octets) : Work Unit := do
  makeRoom run
  openLater
  let inner ← get
  let ending ← ending run (runProgram run 100 "" name arguments)
  -- a program changes nothing of the shell itself
  modify fun after => { inner with system := after.system }
  settleDue run
  setStatus (← awaited ending)
  Builtin.receiveEnd (runText run false)

/-- Runs a command of the shell, a program, or complains that there is none. -/
def runNamed (run : Runner) (isTested : Bool) (isSpecial : Bool) (name : Octets)
    (arguments : List Octets) : Work Unit := do
  match builtin? run isTested (.ofList name) with
  | some builtin => runBuiltin builtin (isSpecial && builtin.isSpecial) name arguments
  | none =>
      track name
      runOutside run name arguments

/-- Runs `command` with its arguments: a name means no function, and no command is special.  The
first flag says that programs are looked for in the standard places. -/
def runPlain (run : Runner) (isTested isStandard : Bool) (arguments : List Octets) :
    List Octets → Work Unit
  | [] => setStatus 0
  | ['-', '-'] :: rest => runDirectly isStandard rest
  | ('-' :: c :: letters) :: rest =>
      if (c :: letters).all (· == 'p') then runPlain run isTested true arguments rest
      else runBuiltin { run := inform } false "command".toList arguments
  | name :: rest =>
      if name = "command".toList then runPlain run isTested isStandard rest rest
      else runDirectly isStandard (name :: rest)
where
  /-- Runs a command under its name. -/
  runDirectly (isStandard : Bool) : List Octets → Work Unit
    | [] => setStatus 0
    | name :: arguments => do
        let isOwn := (builtin? run isTested (.ofList name)).isSome
        if isStandard && !isOwn && !name.contains '/' then
          match ← Utility.searchIn Utility.standardPath name with
          | .ok executable => runOutside run executable.path arguments
          | .error _ => runOutside run name arguments
        else runNamed run isTested false name arguments

/-- The fields of words up to the first word that has any, and the words after it. -/
def firstFields (output : List Command → Work Octets) :
    List Word → Work (List Octets × List Word)
  | [] => pure ([], [])
  | word :: rest => do
      match ← fieldsOf output word with
      | [] => firstFields output rest
      | fields => pure (fields, rest)

/-- The fields of words; those that are assignments are one each where that is wanted. -/
def restFields (output : List Command → Work Octets) (takesAssignments : Bool)
    (words : List Word) : Work (List Octets) := do
  let fields ← words.mapM fun word =>
    match if takesAssignments then word.assignment? else none with
    | some (name, value) => do pure [name ++ '=' :: (← textOfValue output value)]
    | none => fieldsOf output word
  pure fields.flatten

/-- Runs a simple command. -/
def runSimple (run : Runner) (isTested : Bool) (line : Nat) (assignments : List (Octets × Word))
    (words : List Word) (redirections : List Redirection) : Work Unit := do
  modify ({ · with line, substituted := 0 })
  let output := outputOf run
  let errors ← streamOf? 2
  let (first, rest) ← firstFields output words
  match first with
  | [] =>
      redirected output redirections
        (do
          let given ← assignAll output assignments
          unless given.isEmpty do trace output errors given []
          setStatus (← get).substituted)
        (setStatus 2)
  | name :: more =>
      let function := (← get).functions.lookup name
      let builtin := builtin? run isTested (.ofList name)
      let meant :=
        match if name = "command".toList then rest.head? else none with
        | some [.plain next] => builtin? run isTested (.ofList next)
        | _ => if function.isNone then builtin else none
      let others ← restFields output (meant.any (·.takesAssignments)) rest
      let arguments := more ++ others
      let isSpecial := function.isNone && builtin.any (·.isSpecial)
      let onFailure : Work Unit := do
        setStatus 2
        if isSpecial then throw .refused
      let traced (work : Work Unit) (given : List (Octets × Octets)) : Work Unit := do
        trace output errors given (name :: arguments)
        work
      if isSpecial && name = "exec".toList && arguments.isEmpty then
        let routes ← redirections.mapM (routeOf output)
        if ← followAll output routes then
          let _ ← assignAll output assignments
          setStatus 0
        else onFailure
      else if isSpecial then
        redirected output redirections
          (do
            let given ← assignAll output assignments
            traced (runNamed run isTested true name arguments) given) onFailure
      else
        redirected output redirections
          (assignedFor output assignments
            (traced
              (match function with
              | some body => runFunction run isTested body arguments
              | none =>
                  if name = "command".toList then
                    runPlain run isTested false arguments arguments
                  else runNamed run isTested false name arguments))) onFailure
  checked isTested

/-! ## Loops -/

/-- How a part of a loop has ended. -/
inductive Turn where
  | complete
  | left
  | renewed
  deriving DecidableEq, Repr

/-- Does a part of a loop. -/
def turn (work : Work Unit) : Work Turn := fun before =>
  match work before with
  | .ok _ after => .ok .complete after
  | .error (.leave loops) after =>
      if loops ≤ 1 then .ok .left after else .error (.leave (loops - 1)) after
  | .error (.renew loops) after =>
      if loops ≤ 1 then .ok .renewed after else .error (.renew (loops - 1)) after
  | .error stop after => .error stop after

/-- Does something that is in one loop more. -/
def inLoop (work : Work Unit) : Work Unit := fun before =>
  match work { before with loops := before.loops + 1 } with
  | .ok _ after => .ok () { after with loops := before.loops }
  | .error stop after => .error stop { after with loops := before.loops }

/-- How many turns a loop may have. -/
def turnLimit : Nat := 1000000

/-- Runs a loop with a condition; `last` is the status of the latest turn, and the number bounds the
turns. -/
def runLoop (run : Runner) (isTested onSuccess : Bool) (condition body : Command) :
    Nat → (last : Nat) → Work Unit
  | 0, last => setStatus last
  | bound + 1, last => do
      match ← turn (run true condition) with
      | .left => setStatus last
      | .renewed => runLoop run isTested onSuccess condition body bound last
      | .complete =>
          if ((← get).status = 0) != onSuccess then setStatus last
          else
            let ending ← turn (run isTested body)
            let last := (← get).status
            if ending = .left then setStatus last
            else runLoop run isTested onSuccess condition body bound last

/-- Runs a loop over texts. -/
def runEach (run : Runner) (isTested : Bool) (name : Octets) (body : Command) :
    List Octets → Work Unit
  | [] => pure ()
  | text :: rest => do
      assign name text
      if (← turn (run isTested body)) ≠ .left then runEach run isTested name body rest

/-! ## Commands -/

/-- Remembers where the program of a command is found, if it has a name that stands for itself. -/
def trackCommand : Command → Work Unit
  | .simple _ _ ([.plain name] :: _) _ => do
      let state ← get
      unless Builtin.isOwn name || (state.functions.lookup name).isSome do track name
  | _ => pure ()

/-- The redirections that a command begins with. -/
def redirectionsOf : Command → List Redirection
  | .simple _ _ _ redirections | .redirected _ _ redirections | .subshell _ _ redirections
  | .sequence (.simple _ _ _ redirections :: _) => redirections
  | _ => []

/-- Runs the commands of a pipeline, each of which reads from the given stream or, first, from where
the shell reads. -/
def runPipeline (run : Runner) (isTested : Bool) : Option Nat → List Command → Work Unit
  | _, [] => pure ()
  | input, [last] => do
      trackCommand last
      let status ← apart run do
        if input.isSome then redirect 0 input
        run isTested last
      setStatus status
  | input, first :: rest => do
      trackCommand first
      let pipe ← addStream { medium := .pipe [] }
      let _ ← aside run do
        if input.isSome then redirect 0 input
        redirect 1 (some pipe)
        modify fun state =>
          { state with later := rest.flatMap redirectionsOf ++ state.later }
        run isTested first
      runPipeline run isTested (some pipe) rest

/-- Puts a command into the background, where it has nothing to read. -/
def putBehind (command : Command) : Work Unit := do
  let input ← addStream { medium := .nothing, isWritable := false }
  modify fun state =>
    let size := match command with | .pipeline commands => commands.length | _ => 1
    let process := state.system.nextProcess + size - 1
    let state : State :=
      { state with
        system := { state.system with nextProcess := process + 1 }
        jobs := state.jobs.add process size
        background := some process }
    let others := state.descriptors.filter (·.1 != 0)
    let standing : Standing :=
      { state.toStanding with
        descriptors := (0, input) :: others
        traps := state.traps.filter (·.2.isEmpty) }
    { state with pending := state.pending ++ [{ process, command, standing }] }
  setStatus 0

/-- The command of the first case with a pattern that matches a text. -/
def findCase (output : List Command → Work Octets) (text : Octets) :
    List (List Word × Command) → Work (Option Command)
  | [] => pure none
  | (patterns, body) :: rest => do
      if ← patterns.anyM fun pattern => do
          pure ((Glob.ofGlyphs (← glyphs output pattern)).covers text)
      then pure (some body)
      else findCase output text rest

/-- Runs a command.  The number bounds how deep commands are in one another; a script that goes
deeper has used up its memory. -/
def run : Nat → Runner
  | 0, _, _ => throw (.exit (.signal 11))
  | depth + 1, isTested, command => do
      if (← get).options.noexec then return
      let inner := run depth
      match command with
      | .simple line assignments words redirections =>
          runSimple inner isTested line assignments words redirections
      | .sequence commands => runAll inner isTested commands
      | .pipeline commands => do
          runPipeline inner isTested none commands
          checked isTested
      | .negated command => do
          inner true command
          setStatus (if (← get).status = 0 then 1 else 0)
      | .connected onSuccess first second => do
          inner true first
          if ((← get).status = 0) = onSuccess then inner isTested second
      | .background command => putBehind command
      | .redirected line command redirections => do
          modify ({ · with line })
          redirected (outputOf inner) redirections (inner isTested command) do
            setStatus 2
            checked isTested
      | .subshell line command redirections => do
          modify ({ · with line })
          let status ← apart inner
            (redirected (outputOf inner) redirections (inner isTested command) (throw .refused))
          setStatus status
          checked isTested
      | .branch condition accepted rejected => do
          inner true condition
          if (← get).status = 0 then inner isTested accepted
          else
            match rejected with
            | .sequence [] => setStatus 0
            | rejected => inner isTested rejected
      | .loop onSuccess condition body =>
          inLoop (runLoop inner isTested onSuccess condition body turnLimit 0)
      | .each line name words body => do
          modify ({ · with line })
          let fields ← words.mapM (fieldsOf (outputOf inner))
          setStatus 0
          inLoop (runEach inner isTested name body fields.flatten)
      | .choice line subject cases => do
          modify ({ · with line })
          let text ← textOfWord (outputOf inner) subject
          match ← findCase (outputOf inner) text cases with
          | none | some (.sequence []) => setStatus 0
          | some body => inner isTested body
      | .define name body => do
          modify fun state =>
            { state with functions := (name, body) :: state.functions.filter (·.1 != name) }
          setStatus 0

end Work

/-- How deep commands may be in one another. -/
def depthLimit : Nat := 4000

/-- Starts a program under its name with arguments, in an environment; none if there is no such
program. -/
def start? (locate : String → Location) (environment : List (String × String)) (own : String)
    (arguments : List String) (storage : Storage) : Option ProgramRun :=
  let given : List (Octets × Variable) := environment.map fun (name, value) =>
    (Octets.ofText name, { value := some (Octets.ofText value), isExported := true })
  let name := Octets.ofText own
  let state : State :=
    { system := .start storage
      locate
      name
      bindings :=
        given ++ if (given.lookup "PATH".toList).isSome then []
          else [("PATH".toList, { value := some Utility.standardPath, isExported := true })]
      process := 999 }
  match Utility.search name state with
  | .error _ _ | .ok (.error _) _ => none
  | .ok (.ok _) state =>
      let run := Work.run depthLimit
      let (ending, state) : Ending × State :=
        match Work.runProgram run 100 "" name (arguments.map Octets.ofText) state with
        | .ok ending state => (ending, state)
        | .error (.exit ending) state => (ending, state)
        | .error _ state => (.status 2, state)
      some
        { ending
          storage := state.system.storage
          shown := state.system.output
          complaints := state.system.errors }

/-- Why there is no program with a name: a file or a directory that has this name is none. -/
def programAbsence (storage : Storage) (name : String) : IoCause :=
  if name.toList.contains '/' then
    match storage.find name with
    | .error cause => cause
    | .ok (_, some _) => .permissionDenied
    | .ok (_, none) => .notFound
  else .notFound

/-- A host with a shell and its utilities. -/
def host : Host where
  start locate environment name arguments storage :=
    match start? locate environment name arguments storage with
    | some run => .ok run
    | none => .error (programAbsence storage name)

end Console.Shell
