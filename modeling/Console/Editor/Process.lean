import Console.Editor
import Console.Words

/-!
# Editors that are programs

A command line names a program and its first arguments.  To edit a file the program is started
with two more arguments, the line as `+LINE` and the file, and its end says whether the edit has
succeeded.
-/

namespace Console.Editor

/-- The program that a command line names, and its first arguments. -/
def programAndArguments (command : String) : Except EditorError (String × List String) :=
  match wordsOf command with
  | .error quote => .error (.unmatchedQuote quote)
  | .ok [] => .error .notConfigured
  | .ok (program :: arguments) => .ok (program, arguments)

/-- The location that a file name leads to while a location is edited. -/
def locate (edited : Location) (name : String) : Location :=
  if name = edited.text then edited else .path name

/-- What the end of a program says about the edit. -/
def resultOf (name : String) : Ending → Except EditorError Unit
  | .status 0 => .ok ()
  | .status code => .error (.exitStatus name code)
  | .signal number => .error (.killed name number)

/-- Starts a program to edit a location. -/
def launch (host : Host) (environment : Environment) (name : String) (arguments : List String)
    (location : Location) (line : Nat) (storage : Storage) : Edited :=
  let arguments := arguments ++ ["+" ++ natText (max line 1), location.text]
  if (name :: arguments).any fun word => word.toList.contains '\x00' then
    { result := .error (.notStarted name (.other "nul byte found in provided data")), storage }
  else
    match host.start (locate location) environment name arguments storage with
    | .error cause => { result := .error (.notStarted name cause), storage }
    | .ok run =>
        { result := resultOf name run.ending
          storage := run.storage
          shown := run.shown
          complaints := run.complaints }

/-- The editor that runs a command line. -/
def process (host : Host) (command : String) (environment : Environment := []) : Editor :=
  match programAndArguments command with
  | .error error => { edit := fun _ _ _ storage => { result := .error error, storage } }
  | .ok (name, arguments) =>
      { command := some command
        edit := fun _ location line storage =>
          launch host environment name arguments location line storage }

end Console.Editor
