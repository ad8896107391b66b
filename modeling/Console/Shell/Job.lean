import Console.Process
import Console.Shell.Number
import Console.Shell.System

/-!
# Signals and jobs

What a shell calls the signals that end a process, and the commands in the background as it knows
them.  Each of these has a number, the least one that no other needs: one that is over gives its
number back as soon as somebody has waited for it.  The newest comes first.
-/

namespace Console.Shell

/-- What a shell calls a signal.  One has no name any more, and those without a fixed meaning are
counted from the nearer end. -/
def signalLabel (number : Nat) : String :=
  if number = 16 then natText number
  else if number = 34 then "RTMIN"
  else if 34 < number && number < 50 then "RTMIN+" ++ natText (number - 34)
  else if 50 ≤ number && number < 64 then "RTMAX-" ++ natText (64 - number)
  else if number = 64 then "RTMAX"
  else (signalNames[number - 1]?).getD (natText number)

/-- The number of the greatest signal. -/
def lastSignal : Nat := 64

/-- The number of the signal that a shell calls by a name. -/
def signalOfLabel? (name : String) : Option Nat :=
  ((List.range lastSignal).map (· + 1)).find? fun number => signalLabel number == name

/-- What a signal means, in words. -/
def signalMeaning (number : Nat) : String :=
  let meanings : List (Nat × String) :=
    [(1, "Hangup"), (2, "Interrupt"), (3, "Quit"), (4, "Illegal instruction"),
     (5, "Trace/breakpoint trap"), (6, "Aborted"), (7, "Bus error"),
     (8, "Floating point exception"), (9, "Killed"), (10, "User defined signal 1"),
     (11, "Segmentation fault"), (12, "User defined signal 2"), (13, "Broken pipe"),
     (14, "Alarm clock"), (15, "Terminated"), (16, "Stack fault"),
     (24, "CPU time limit exceeded"), (25, "File size limit exceeded"),
     (26, "Virtual timer expired"), (27, "Profiling timer expired"), (29, "I/O possible"),
     (30, "Power failure"), (31, "Bad system call")]
  (meanings.lookup number).getD
    (if 34 ≤ number then "Real-time signal " ++ natText (number - 34)
    else "Unknown signal " ++ natText number)

/-- Whether a process goes on after a signal that it does nothing about. -/
def isHarmless (signal : Nat) : Bool :=
  signal = 0 || signalNames[signal - 1]?.any fun name =>
    name == "CHLD" || name == "CONT" || name == "URG" || name == "WINCH"

/-- A command in the background. -/
structure Job where
  number : Nat
  /-- The number of its last process, and how many it has. -/
  process : Nat
  size : Nat
  /-- How it has ended, if it is over. -/
  ending : Option Ending := none
  isAwaited : Bool := false
  deriving DecidableEq, Repr

namespace Job

/-- What is said about a job: that it runs, or how it has ended. -/
def condition (job : Job) : String :=
  match job.ending with
  | none => "Running"
  | some (.status 0) => "Done"
  | some (.status code) => "Done(" ++ natText code ++ ")"
  | some (.signal number) => signalMeaning number

/-- The columns in front of the commands of a job, which are not shown. -/
def width : Nat := 33

/-- The line that shows a job, with a sign for the newest one and for the one before it. -/
def line (showsProcess : Bool) (place : Nat) (job : Job) : Octets :=
  let sign := if place = 0 then '+' else if place = 1 then '-' else ' '
  let front := ['['] ++ countOctets job.number ++ [']', ' ', sign, ' '] ++
    (if showsProcess then countOctets job.process ++ [' '] else []) ++ job.condition.toList
  front ++ List.replicate (width - front.length) ' ' ++
    (List.replicate (job.size - 1) " | ".toList).flatten ++ ['\n']

end Job

/-- The jobs of a shell, the newest first. -/
abbrev Jobs := List Job

namespace Jobs

/-- The number that the next process of the shell takes among the jobs. -/
def nextNumber (jobs : Jobs) : Nat :=
  let isTaken (number : Nat) : Bool := jobs.any fun job =>
    job.number = number && !(job.ending.isSome && job.isAwaited)
  (((List.range (jobs.length + 1)).map (· + 1)).find? fun number => !isTaken number).getD 1

/-- The jobs that are left when another process takes a number. -/
def makeRoom (jobs : Jobs) : Jobs := jobs.filter (·.number != nextNumber jobs)

/-- Adds a job. -/
def add (jobs : Jobs) (process size : Nat) : Jobs :=
  { number := nextNumber jobs, process, size } :: makeRoom jobs

/-- Changes the job of a process. -/
def modify (jobs : Jobs) (process : Nat) (change : Job → Job) : Jobs :=
  jobs.map fun job => if job.process = process then change job else job

/-- The job with the number of its last process. -/
def ofProcess? (jobs : Jobs) (process : Nat) : Option Job := jobs.find? (·.process = process)

/-- The job that a name means, or why there is none. -/
def named (jobs : Jobs) (name : Octets) : Except String Job :=
  let missing := "No such job: " ++ Octets.toText name
  match name with
  | ['%'] | ['%', '+'] | ['%', '%'] => (jobs.head?).elim (.error "No current job") .ok
  | ['%', '-'] => (jobs[1]?).elim (.error "No previous job") .ok
  | '%' :: text =>
      match count? text with
      | some number => (jobs.find? (·.number = number)).elim (.error missing) .ok
      | none => .error missing
  | _ => .error missing

end Jobs

end Console.Shell
