import Console.Shell.State

/-!
# Programs beside the shell

What programs share: they complain under their own name, take options in front of their
arguments, and read the files that they are given, or their input if there are none.
-/

namespace Console.Shell

/-- A program: it takes arguments and comes to a status. -/
abbrev Utility := List Octets → Work Nat

namespace Utility

/-- Writes to the output. -/
def say (text : Octets) : Work Unit := do
  unless ← Work.writeTo 1 text do modify ({ · with hasLostOutput := true })

/-- Writes a complaint of a program, and gives the status for it. -/
def complain (name text : String) (status : Nat) : Work Nat := do
  let _ ← Work.writeTo 2 (Octets.ofText (name ++ ": " ++ text ++ "\n"))
  pure status

/-- Writes a complaint about how a program is used, and gives the status for it. -/
def complainOfUse (name text : String) (status : Nat) : Work Nat := do
  let _ ← complain name text status
  let _ ← Work.writeTo 2 (Octets.ofText ("Try '" ++ name ++ " --help' for more information.\n"))
  pure status

/-- What is wrong with the options of a program. -/
inductive OptionFault where
  | unknown (letter : Char)
  | unknownName (argument : Octets)
  | noValue (letter : Char)
  deriving DecidableEq, Repr

/-- The wording of the fault. -/
def OptionFault.message : OptionFault → String
  | unknown letter => "invalid option -- '" ++ letter.toString ++ "'"
  | unknownName argument => "unrecognized option '" ++ Octets.toText argument ++ "'"
  | noValue letter => "option requires an argument -- '" ++ letter.toString ++ "'"

/-- The options in front of and among arguments, each with its value, and the other arguments.  A
letter comes with whether it takes a value. -/
def options (letters : List (Char × Bool)) :
    List Octets → Except OptionFault (List (Char × Octets) × List Octets)
  | [] => .ok ([], [])
  | argument :: rest =>
      match argument with
      | ['-', '-'] => .ok ([], rest)
      | '-' :: '-' :: _ => .error (.unknownName argument)
      | '-' :: c :: more =>
          let found := (c :: more).takeWhile fun c => letters.lookup c == some false
          match (c :: more).drop found.length with
          | [] => (options letters rest).map fun (others, rest) =>
              (found.map (·, []) ++ others, rest)
          | letter :: value =>
              if letters.lookup letter != some true then .error (.unknown letter)
              else if !value.isEmpty then
                (options letters rest).map fun (others, rest) =>
                  (found.map (·, []) ++ (letter, value) :: others, rest)
              else
                match rest with
                | [] => .error (.noValue letter)
                | value :: rest =>
                    (options letters rest).map fun (others, rest) =>
                      (found.map (·, []) ++ (letter, value) :: others, rest)
      | argument => (options letters rest).map fun (given, rest) => (given, argument :: rest)

/-- The long names of the options of a program, with their letters. -/
def longNames (program : String) : List (String × Char) :=
  match program with
  | "cat" =>
      [("number", 'n'), ("number-nonblank", 'b'), ("show-all", 'A'), ("show-ends", 'E'),
       ("show-tabs", 'T'), ("show-nonprinting", 'v'), ("squeeze-blank", 's')]
  | "touch" => [("date", 'd'), ("reference", 'r'), ("no-create", 'c')]
  | "truncate" => [("size", 's'), ("no-create", 'c')]
  | "mktemp" => [("directory", 'd'), ("quiet", 'q'), ("dry-run", 'u')]
  | "cp" =>
      [("recursive", 'r'), ("force", 'f'), ("archive", 'a'), ("verbose", 'v'), ("no-clobber", 'n'),
       ("interactive", 'i'), ("target-directory", 't')]
  | "mv" =>
      [("force", 'f'), ("verbose", 'v'), ("no-clobber", 'n'), ("interactive", 'i'),
       ("target-directory", 't')]
  | "ln" => [("symbolic", 's'), ("force", 'f'), ("verbose", 'v'), ("no-dereference", 'n')]
  | "install" =>
      [("directory", 'd'), ("mode", 'm'), ("owner", 'o'), ("group", 'g'), ("verbose", 'v'),
       ("target-directory", 't')]
  | "rm" => [("force", 'f'), ("recursive", 'r'), ("dir", 'd'), ("verbose", 'v')]
  | "mkdir" => [("parents", 'p'), ("verbose", 'v'), ("mode", 'm')]
  | "rmdir" => [("parents", 'p'), ("verbose", 'v')]
  | "ls" =>
      [("all", 'a'), ("almost-all", 'A'), ("directory", 'd'), ("classify", 'F'), ("recursive", 'R'),
       ("reverse", 'r'), ("size", 's'), ("quote-name", 'Q'), ("inode", 'i')]
  | "head" | "tail" =>
      [("lines", 'n'), ("bytes", 'c'), ("quiet", 'q'), ("silent", 'q'), ("verbose", 'v')]
  | "wc" =>
      [("lines", 'l'), ("words", 'w'), ("bytes", 'c'), ("chars", 'm'), ("max-line-length", 'L')]
  | "tr" =>
      [("delete", 'd'), ("squeeze-repeats", 's'), ("complement", 'c'), ("truncate-set1", 't')]
  | "tee" => [("append", 'a'), ("ignore-interrupts", 'i')]
  | "basename" => [("multiple", 'a'), ("suffix", 's')]
  | "sort" =>
      [("reverse", 'r'), ("numeric-sort", 'n'), ("unique", 'u'), ("ignore-case", 'f'),
       ("ignore-leading-blanks", 'b'), ("dictionary-order", 'd'), ("output", 'o'), ("key", 'k'),
       ("field-separator", 't'), ("stable", 's'), ("check", 'c'), ("general-numeric-sort", 'g'),
       ("human-numeric-sort", 'h'), ("version-sort", 'V'), ("merge", 'm'), ("month-sort", 'M')]
  | "uniq" =>
      [("count", 'c'), ("repeated", 'd'), ("unique", 'u'), ("ignore-case", 'i'),
       ("skip-fields", 'f'), ("skip-chars", 's'), ("check-chars", 'w')]
  | "cut" =>
      [("delimiter", 'd'), ("fields", 'f'), ("characters", 'c'), ("bytes", 'b'),
       ("only-delimited", 's'), ("complement", 'C'), ("output-delimiter", 'D')]
  | "paste" => [("delimiters", 'd'), ("serial", 's')]
  | "nl" =>
      [("body-numbering", 'b'), ("number-width", 'w'), ("number-separator", 's'),
       ("starting-line-number", 'v'), ("line-increment", 'i'), ("number-format", 'n')]
  | "fold" => [("width", 'w'), ("spaces", 's'), ("bytes", 'b')]
  | "cmp" => [("silent", 's'), ("quiet", 's'), ("verbose", 'l'), ("print-bytes", 'b')]
  | "diff" => [("brief", 'q'), ("report-identical-files", 's')]
  | "sed" =>
      [("expression", 'e'), ("quiet", 'n'), ("silent", 'n'), ("regexp-extended", 'E'),
       ("separate", 's'), ("file", 'f'), ("null-data", 'z'), ("zero-terminated", 'z'),
       ("unbuffered", 'u'), ("line-length", 'l'), ("binary", 'b'), ("follow-symlinks", 'F'),
       ("posix", 'P'), ("debug", 'D'), ("sandbox", 'S')]
  | "stat" => [("format", 'c'), ("printf", 'p'), ("dereference", 'L'), ("terse", 't')]
  | "date" => [("date", 'd'), ("utc", 'u'), ("universal", 'u'), ("reference", 'r')]
  | "od" =>
      [("format", 't'), ("address-radix", 'A'), ("read-bytes", 'N'), ("skip-bytes", 'j'),
       ("output-duplicates", 'v'), ("width", 'w')]
  | "base64" => [("decode", 'd'), ("wrap", 'w'), ("ignore-garbage", 'i')]
  | _ => []

/-- Arguments with long options as short ones.  A long name may be cut short as long as it means one
option. -/
def withShortNames (names : List (String × Char)) : List Octets → List Octets
  | [] => []
  | ['-', '-'] :: rest => ['-', '-'] :: rest
  | argument :: rest =>
      let argument : List Octets :=
        match argument with
        | '-' :: '-' :: name =>
            let front := name.takeWhile (· != '=')
            let exact := (names.filter fun (name, _) => name.toList == front).map (·.2)
            let begun := (names.filter fun (name, _) => front.isPrefixOf name.toList).map (·.2)
            match if exact.isEmpty then begun.eraseDups else exact with
            | [letter] =>
                match name.drop front.length with
                | _ :: value => [['-', letter], value]
                | [] => [['-', letter]]
            | _ => [argument]
        | argument => [argument]
      argument ++ withShortNames names rest

/-- Whether an option is given. -/
def has (given : List (Char × Octets)) (letter : Char) : Bool := given.any (·.1 == letter)

/-- The values of an option that may be given several times. -/
def valuesOf (given : List (Char × Octets)) (letter : Char) : List Octets :=
  (given.filter (·.1 == letter)).map (·.2)

/-- A program that reads its options first. -/
def withOptions (name : String) (letters : List (Char × Bool)) (status : Nat)
    (work : List (Char × Octets) → List Octets → Work Nat) : Utility := fun arguments =>
  match options letters (withShortNames (longNames name) arguments) with
  | .ok (given, arguments) => work given arguments
  | .error fault => complainOfUse name fault.message status

/-- The characters of a file. -/
def contentOf (name : Octets) : Work (Except IoCause Octets) := do
  let location ← Work.location name
  pure (((← get).system.storage.content location).map Octets.ofBytes)

/-- What a program says of a file that it cannot read. -/
def unreadable (program : String) (name : Octets) (cause : IoCause) : String :=
  let text := Octets.toText name
  let reason := causeText cause
  let isRead := cause = .isADirectory
  match program with
  | "head" | "tail" =>
      if isRead then "error reading '" ++ text ++ "': " ++ reason
      else "cannot open '" ++ text ++ "' for reading: " ++ reason
  | "sort" => if isRead then "read failed: " ++ text ++ ": " ++ reason
      else "cannot read: " ++ text ++ ": " ++ reason
  | "sed" => if isRead then "couldn't edit " ++ text ++ ": not a regular file"
      else "can't read " ++ text ++ ": " ++ reason
  | "rev" => "cannot open " ++ text ++ ": " ++ reason
  | "tac" => if isRead then text ++ ": read error: " ++ reason
      else "failed to open '" ++ text ++ "' for reading: " ++ reason
  | _ => text ++ ": " ++ reason

/-- The text of a file, or of the input for a dash; a file that cannot be read is complained
about. -/
def textOf (program : String) (name : Octets) : Work (Option Octets) := do
  if name = ['-'] then
    if (← Work.streamOf? 0).isSome then pure (some (← Work.readAll 0))
    else
      let _ ← complain program "-: Bad file descriptor" 1
      let _ ← complain program "closing standard input: Bad file descriptor" 1
      pure none
  else
    match ← contentOf name with
    | .ok text => pure (some text)
    | .error cause =>
        let _ ← complain program (unreadable program name cause) 1
        pure none

/-- The texts of files with their names, or of the input if none are named, and whether all could
be read. -/
def textsOf (program : String) (names : List Octets) : Work (List (Octets × Octets) × Bool) := do
  if names.isEmpty then pure ([(['-'], ← Work.readAll 0)], true)
  else
    let texts ← names.mapM fun name => do pure ((← textOf program name).map (name, ·))
    pure (texts.filterMap id, texts.all Option.isSome)

/-- A program that makes one text of its input. -/
def filter (program : String) (change : Octets → Octets) (names : List Octets) : Work Nat := do
  let (texts, isWhole) ← textsOf program names
  say (change (texts.flatMap (·.2)))
  pure (if isWhole then 0 else 1)

/-- Writes a file anew; whether it could be done. -/
def overwrite (program : String) (name text : Octets) : Work Bool := do
  let state ← get
  match state.system.overwrite state.mask (← Work.location name) (Octets.toBytes text) with
  | .ok system =>
      set { state with system }
      pure true
  | .error cause =>
      let _ ← complain program (Octets.toText name ++ ": " ++ causeText cause) 1
      pure false

/-- Lines with the newline that the last one may lack. -/
def wholeLines (text : Octets) : List Octets :=
  (Octets.lines text).map fun line => line.takeWhile (· != '\n')

/-- The text of lines. -/
def ofLines (lines : List Octets) : Octets := lines.flatMap (· ++ ['\n'])

end Utility

end Console.Shell
