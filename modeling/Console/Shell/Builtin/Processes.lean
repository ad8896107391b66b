import Console.Shell.Builtin.Parameters

/-!
# Commands on processes

Signals are sent and received, and the shell waits for commands in the background.
-/

namespace Console.Shell.Builtin

/-! ## Jobs -/

/-- The job that a name means. -/
def job (name : Octets) : Work Job := do
  match (← get).jobs.named name with
  | .ok job => pure job
  | .error text => Work.refuse text.toList

/-- Refuses to go on with a job: there is none, or it does not stop. -/
def resume (arguments : List Octets) : Work Nat := do
  let (_, arguments) ← options [] arguments
  let _ ← job (arguments.head?.getD ['%'])
  let name := arguments.head?.getD "(null)".toList
  Work.refuse ("job ".toList ++ name ++ " not created under job control".toList)

/-- Shows jobs, or the numbers of their processes; those that are over are forgotten. -/
def showJobs (arguments : List Octets) : Work Nat := do
  let (given, names) ← options [('l', false), ('p', false)] arguments
  let isShown (letter : Char) : Bool := given.any (·.1 == letter)
  let all := (← get).jobs.zipIdx
  let chosen ←
    if names.isEmpty then pure all
    else names.mapM fun name => do
      let found ← job name
      pure (found, all.findIdx fun (job, _) => job.number = found.number)
  let status ← say (chosen.flatMap fun (job, place) =>
    if isShown 'p' then countOctets job.process ++ ['\n'] else job.line (isShown 'l') place)
  let isOver (job : Job) : Bool :=
    job.ending.isSome && chosen.any fun (shown, _) => shown.number = job.number
  modify fun state => { state with jobs := state.jobs.filter (!isOver ·) }
  pure status

/-- What is said about a process that a signal has ended: nothing, if it is one of the two that end
a process in the course of things. -/
def deathText : Ending → Octets
  | .signal number =>
      if number = 2 || number = 13 then [] else (signalMeaning number).toList ++ ['\n']
  | .status _ => []

/-- Marks jobs as waited for. -/
def markAwaited (isMeant : Job → Bool) : Work Unit := modify fun state =>
  { state with
    jobs := state.jobs.map fun job => if isMeant job then { job with isAwaited := true } else job }

/-- The signal for the shell that has come first; parts of it do not get any. -/
def firstSignal : Work (Option Nat) := do
  let state ← get
  if state.isInner then pure none else pure (state.system.signals.lookup state.process)

/-- Waits for a process, and gives its status.  How it has ended is only said if it ends
meanwhile. -/
def waitFor (settle : Option Nat → Work Unit) (process : Nat) : Work Nat := do
  match (← get).jobs.ofProcess? process with
  | none => pure 127
  | some job =>
      if job.ending.isNone then settle process
      match ((← get).jobs.ofProcess? process).bind (·.ending) with
      | none => pure (128 + (← firstSignal).getD 0)
      | some ending =>
          if job.ending.isNone then
            let _ ← Work.writeTo 2 (deathText ending)
          markAwaited (·.process = process)
          pure ending.code

/-- Waits for processes in the background, for all of them unless some are named; `settle` runs one
of them to its end, or all, unless a signal comes before. -/
def wait (settle : Option Nat → Work Unit) (arguments : List Octets) : Work Nat := do
  let (_, arguments) ← options [] arguments
  if arguments.isEmpty then
    settle none
    markAwaited (·.ending.isSome)
    match ← firstSignal with
    | some signal => pure (128 + signal)
    | none => pure 0
  else
    let mut status := 0
    for argument in arguments do
      let process ←
        if argument.head? = some '%' then do pure (← job argument).process
        else number argument
      status ← waitFor settle process
    pure status

/-! ## Signals -/

/-- The number of the signal that a text means. -/
def signalOf? (text : Octets) : Option Nat :=
  if !text.isEmpty && text.all isDigit then (count? text).filter (· ≤ lastSignal)
  else signalOfLabel? (String.ofList text).toUpper

/-- Whether nothing can be done about a signal. -/
def isUntrappable (signal : Nat) : Bool := signal = 9 || signal = 19

/-- The signal that a process gets when one that it has started ends. -/
def endOfProcess : Nat := 17

/-- The shell receives a signal. -/
def receive (runText : Octets → Work Unit) (signal : Nat) : Work Unit := do
  let state ← get
  match (state.traps.lookup signal).filter fun _ => !isUntrappable signal with
  | some action =>
      runText action
      Work.setStatus state.status
  | none => unless isHarmless signal do throw (.exit (.signal signal))

/-- Receives the signals that have been sent while something else was run. -/
def receiveAll (runText : Octets → Work Unit) : Work Unit := do
  let state ← get
  unless state.isInner do
    let (own, others) := state.system.signals.partition (·.1 == state.process)
    set { state with system := { state.system with signals := others } }
    for (_, signal) in own do receive runText signal

/-- A process of the shell has ended: the shell gets the signal that says so, and those that have
been sent meanwhile. -/
def receiveEnd (runText : Octets → Work Unit) : Work Unit := do
  if ((← get).traps.lookup endOfProcess).isSome then receive runText endOfProcess
  receiveAll runText

/-- Sends a signal to a process: one in the background, the shell itself, or a shell around it.
What runs by itself sends it to the shell around it, which receives it later. -/
def send (runText : Octets → Work Unit) (signal : Nat) (process : Octets) : Work Nat := do
  let state ← get
  let missing : Work Nat := do
    Work.complain "No such process\n".toList
    pure 1
  if process.head? = some '%' then
    let _ ← job process
    missing
  else
    let target ← number (process.dropWhile (· == '-'))
    let isAround := state.around.contains target || (state.isInner && target = state.process)
    if state.pending.any (·.process == target) then
      unless signal = 0 || isHarmless signal do
        modify fun state =>
          { state with
            pending := state.pending.map fun pending =>
              if pending.process = target && pending.signal.isNone then
                { pending with signal := some (signal, state.system.now) }
              else pending }
      pure 0
    else if isAround then
      if signal != 0 then
        let signals := state.system.signals ++ [(target, signal)]
        set { state with system := { state.system with signals } }
      pure 0
    else if target = state.process then
      if signal != 0 then receive runText signal
      pure 0
    else missing

/-- How `kill` is used. -/
def killUsage : Octets :=
  "Usage: kill [-s sigspec | -signum | -sigspec] [pid | job]... or\nkill -l [exitstatus]".toList

/-- Sends a signal to processes. -/
def sendAll (runText : Octets → Work Unit) (signal : Nat) (processes : List Octets) :
    Work Nat := do
  if processes.isEmpty then Work.refuse killUsage
  else
    let statuses ← processes.mapM (send runText signal)
    pure (statuses.foldl max 0)

/-- Does what `kill` is asked for. -/
def kill (runText : Octets → Work Unit) (arguments : List Octets) : Work Nat := do
  match arguments with
  | [] => Work.refuse killUsage
  | ('-' :: signal) :: processes =>
      match signalOf? signal with
      | some signal => sendAll runText signal processes
      | none =>
          let (given, processes) ← options [('l', false), ('s', true)] arguments
          if given.any (·.1 == 'l') then
            match processes with
            | [] =>
                let labels := (List.range lastSignal).map fun index => signalLabel (index + 1)
                say (Utility.ofLines (['0'] :: labels.map (·.toList)))
            | process :: _ =>
                let code ← number process
                let signal := if 128 < code then code - 128 else code
                if signal = 0 || lastSignal < signal then
                  Work.refuse ("invalid signal number or exit status: ".toList ++ process)
                else say ((signalLabel signal).toList ++ ['\n'])
          else
            match given.lookup 's' with
            | none => sendAll runText 15 processes
            | some name =>
                match signalOf? name with
                | some signal => sendAll runText signal processes
                | none => Work.refuse ("invalid signal number or name: ".toList ++ name)
  | processes => sendAll runText 15 processes

/-- The number of the signal, or of the end of the shell, that a text means. -/
def conditionOf? (text : Octets) : Option Nat :=
  if (String.ofList text).toUpper == "EXIT" then some 0 else signalOf? text

/-- Says what is to be done at signals. -/
def trap (arguments : List Octets) : Work Nat := do
  let (_, arguments) ← options [] arguments
  match arguments with
  | [] =>
      let traps := (← get).traps.mergeSort fun left right => left.1 ≤ right.1
      say (traps.flatMap fun (signal, action) =>
        let name := if signal = 0 then "EXIT" else signalLabel signal
        "trap -- ".toList ++ quotedValue action ++ ' ' :: name.toList ++ ['\n'])
  | first :: rest =>
      let isReset := rest.isEmpty || (!first.isEmpty && first.all isDigit)
      let action := if isReset || first = ['-'] then none else some first
      for name in if isReset then first :: rest else rest do
        match conditionOf? name with
        | none =>
            let _ ← Work.writeTo 2 ("trap: ".toList ++ name ++ ": bad trap\n".toList)
            return 1
        | some signal =>
            modify fun state =>
              let others := state.traps.filter (·.1 != signal)
              { state with
                traps :=
                  match action with
                  | some action => (signal, action) :: others
                  | none => others }
      pure 0

end Console.Shell.Builtin
