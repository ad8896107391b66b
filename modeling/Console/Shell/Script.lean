import Console.Shell.Glob

/-!
# Shell scripts

What a script says.  A command is a list of words with assignments and redirections, or it is made
of other commands.  A word is a sequence of parts, and each part knows whether it was written
between quotes, because only what stands outside quotes is cut into fields and taken for a
pattern.
-/

namespace Console.Shell

/-- What a dollar sign can ask for. -/
inductive Parameter where
  /-- The argument with a number; number 0 is the name of the script. -/
  | argument (index : Nat)
  /-- All arguments from number 1 on, each by itself. -/
  | arguments
  /-- All arguments from number 1 on, joined to one text. -/
  | joined
  /-- The number of arguments. -/
  | count
  /-- The number of the shell as a process. -/
  | process
  /-- The status of the latest command. -/
  | status
  /-- The number of the latest process in the background. -/
  | background
  /-- The letters of the options that are on. -/
  | options
  | named (name : Octets)
  deriving DecidableEq, Repr

/-- When a word stands in for a parameter, and what else comes of it. -/
inductive Substitute where
  /-- It stands in for a parameter that is missing. -/
  | default
  /-- It stands in for a parameter that is missing, which then gets its value. -/
  | assigned
  /-- It is the complaint about a parameter that is missing. -/
  | complaint
  /-- It stands in for a parameter that is there. -/
  | replacement
  deriving DecidableEq, Repr

/-- What a file is opened for. -/
inductive Access where
  | read
  /-- To write it anew; `force` does so even where files are protected. -/
  | write (force : Bool)
  | append
  | readAndWrite
  deriving DecidableEq, Repr

mutual

/-- A part of a word. -/
inductive Part where
  | plain (text : Octets)
  /-- A text between quotes; the empty one marks where quotes are. -/
  | quoted (text : Octets)
  | parameter (isQuoted : Bool) (parameter : Parameter) (use : Use)
  /-- The output of commands. -/
  | output (isQuoted : Bool) (commands : List Command)
  /-- The value of an arithmetic expression. -/
  | sum (isQuoted : Bool) (expression : List Part)

/-- What is made of the value of a parameter. -/
inductive Use where
  | value
  /-- The number of its characters. -/
  | size
  /-- A word in its place; `nullToo` takes an empty value for a missing one. -/
  | substitute (how : Substitute) (nullToo : Bool) (word : List Part)
  /-- The value without the part at one side that a pattern matches. -/
  | trimmed (side : Side) (longest : Bool) (pattern : List Part)
  /-- A form that means nothing. -/
  | invalid

/-- Where a command reads from or writes to, other than by default. -/
inductive Redirection where
  | file (descriptor : Nat) (access : Access) (target : List Part)
  /-- The same as another descriptor. -/
  | copy (descriptor : Nat) (source : List Part)
  /-- A text in the script itself, by its number. -/
  | document (descriptor : Nat) (index : Nat)

/-- A command. -/
inductive Command where
  | simple (line : Nat) (assignments : List (Octets × List Part)) (words : List (List Part))
      (redirections : List Redirection)
  /-- Commands each of which reads what the one before has written. -/
  | pipeline (commands : List Command)
  | negated (command : Command)
  /-- The second command only if the first one has succeeded, or only if it has failed. -/
  | connected (onSuccess : Bool) (first second : Command)
  | sequence (commands : List Command)
  | background (command : Command)
  | redirected (line : Nat) (command : Command) (redirections : List Redirection)
  | subshell (line : Nat) (command : Command) (redirections : List Redirection)
  | branch (condition accepted rejected : Command)
  /-- Again and again while a condition succeeds, or while it fails. -/
  | loop (onSuccess : Bool) (condition body : Command)
  | each (line : Nat) (name : Octets) (words : List (List Part)) (body : Command)
  | choice (line : Nat) (subject : List Part) (cases : List (List (List Part) × Command))
  | define (name : Octets) (body : Command)

end

/-- A word before it is expanded. -/
abbrev Word := List Part

instance : Inhabited Part := ⟨.plain []⟩

instance : Inhabited Command := ⟨.sequence []⟩

/-! ## Names -/

/-- Whether a character may begin a name. -/
def isNameStart (c : Char) : Bool :=
  ('a' ≤ c && c ≤ 'z') || ('A' ≤ c && c ≤ 'Z') || c = '_'

/-- Whether a character is a decimal digit. -/
def isDigit (c : Char) : Bool := '0' ≤ c && c ≤ '9'

/-- Whether a character may be in a name. -/
def isNameChar (c : Char) : Bool := isNameStart c || isDigit c

/-- Whether a text is a name. -/
def isName (text : Octets) : Bool := text.head?.any isNameStart && text.all isNameChar

/-- The name and the value of an assignment. -/
def assignment? (text : Octets) : Option (Octets × Octets) :=
  match text.dropWhile (· != '=') with
  | [] => none
  | _ :: value =>
      let name := text.takeWhile (· != '=')
      if isName name then some (name, value) else none

namespace Word

/-- The text of a word without quotes and expansions. -/
def plainText? : Word → Option Octets
  | [] => some []
  | [.plain text] => some text
  | _ => none

/-- The name and the value of a word that is an assignment. -/
def assignment? : Word → Option (Octets × Word)
  | .plain text :: rest =>
      (Shell.assignment? text).map fun (name, value) =>
        (name, if value.isEmpty then rest else .plain value :: rest)
  | _ => none

/-- Adds a part to a word, newest first; neighbouring texts become one. -/
def push (word : Word) (part : Part) : Word :=
  match part, word with
  | .plain text, .plain before :: rest => .plain (before ++ text) :: rest
  | .quoted text, .quoted before :: rest => .quoted (before ++ text) :: rest
  | part, word => part :: word

end Word

end Console.Shell
