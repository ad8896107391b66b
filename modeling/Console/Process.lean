import Console.Config.Basic
import Console.Storage
import Console.Text.Decimal

/-!
# Programs that are started

The console starts other programs only to edit with them.  Where it runs says what becomes of one:
whether there is such a program, what it does to the files and how it ends.
-/

namespace Console

/-- How a process ends. -/
inductive Ending where
  | status (code : Nat)
  | signal (number : Nat)
  deriving DecidableEq, Repr

/-- The status that an end leaves to those who wait for it. -/
def Ending.code : Ending → Nat
  | status code => code
  | signal number => 128 + number

/-- What a program leaves behind: its end, the files, and what it has shown and complained about. -/
structure ProgramRun where
  ending : Ending
  storage : Storage
  shown : Utf8.Bytes := []
  complaints : Utf8.Bytes := []

/-- Where the console runs. -/
structure Host where
  /-- Starts the program with a name on some arguments, in an environment and with some files; or
  says why there is none.  The first argument says where the file names that it may be given
  lead. -/
  start : (String → Location) → Environment → String → List String → Storage →
    Except IoCause ProgramRun

/-! ## Signals -/

/-- The signals with a name, in the order of their numbers, from number 1 on. -/
def signalNames : List String :=
  ["HUP", "INT", "QUIT", "ILL", "TRAP", "ABRT", "BUS", "FPE", "KILL", "USR1", "SEGV", "USR2",
   "PIPE", "ALRM", "TERM", "STKFLT", "CHLD", "CONT", "STOP", "TSTP", "TTIN", "TTOU", "URG", "XCPU",
   "XFSZ", "VTALRM", "PROF", "WINCH", "IO", "PWR", "SYS"]

/-- The number of a signal, and its name if it has one. -/
def signalText (number : Nat) : String :=
  match number with
  | 0 => natText number
  | index + 1 =>
      match signalNames[index]? with
      | some name => natText number ++ " (SIG" ++ name ++ ")"
      | none => natText number

end Console
