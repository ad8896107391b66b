import Console.Shell.Traits
import Console.Shell.Utility.Basic

/-!
# Programs on files

Showing, making and changing single files.
-/

namespace Console.Shell.Utility

/-- The last name in a path. -/
def lastName (path : Octets) : Octets :=
  let parts := (Octets.splitAt (· == '/') path).filter (!·.isEmpty)
  match parts.getLast? with
  | some name => name
  | none => if path.isEmpty then [] else ['/']

/-- A name between quotes, in a complaint. -/
def quoted (name : Octets) : String := "'" ++ Octets.toText name ++ "'"

/-- Changes the storage. -/
def changeStorage (change : Storage → Storage) : Work Unit := modify fun state =>
  { state with system := { state.system with storage := change state.system.storage } }

/-- The names along a path to a node, if it can be followed. -/
def pathOf? (name : Octets) : Work (Option (List String × Option Node)) := do
  match ← Work.location name with
  | .scratch => pure none
  | .path text => pure ((← get).system.storage.find text).toOption

/-- A character as it is shown, with what cannot be seen made visible: `tabs` says whether tabs
are. -/
def visible (tabs : Bool) (c : Char) : Octets :=
  let code := c.toNat
  let low (code : Nat) : Octets :=
    if code < 32 then ['^', Char.ofNat (code + 64)]
    else if code = 127 then ['^', '?']
    else [Char.ofNat code]
  if c = '\n' || (c = '\t' && !tabs) then [c]
  else if 128 ≤ code then 'M' :: '-' :: low (code - 128)
  else low code

/-- Lines without those that are empty and follow after an empty one. -/
def withoutGaps : List Octets → List Octets
  | first :: second :: rest =>
      if first = ['\n'] && second = ['\n'] then withoutGaps (second :: rest)
      else first :: withoutGaps (second :: rest)
  | lines => lines

/-- A line as it is shown, under its number if it has one. -/
def shownLine (given : List (Char × Octets)) (number : Option Nat) (line : Octets) : Octets :=
  let isOn (letters : String) : Bool := letters.toList.any (has given)
  let body := line.takeWhile (· != '\n')
  let body := if isOn "vAet" then body.flatMap (visible (isOn "TAt")) else
    if isOn "T" then body.flatMap fun c => if c = '\t' then ['^', 'I'] else [c] else body
  let ending := line.drop (line.takeWhile (· != '\n')).length
  (match number with | some number => (natColumn 6 number).toList ++ ['\t'] | none => []) ++
    body ++ (if isOn "EAe" && !ending.isEmpty then ['$'] else []) ++ ending

/-- Shows files one after another. -/
def cat : Utility :=
  withOptions "cat" ("unAETbestv".toList.map (·, false)) 1 fun given names => do
    if (← Work.streamOf? 1).isNone then
      return (← complain "cat" "standard output: Bad file descriptor" 1)
    let mut status := 0
    let mut number := 0
    for name in if names.isEmpty then [['-']] else names do
      let state ← get
      let location ← Work.location name
      let target := (state.descriptors.lookup 1).bind (state.system.streams[·]?)
      let isOutput :=
        match target with
        | some stream => name != ['-'] && stream.medium == .file location
        | none => false
      match ← textOf "cat" name with
      | none => status := 1
      | some text =>
          if isOutput && !text.isEmpty then
            status ← complain "cat" (Octets.toText name ++ ": input file is output file") 1
          else if given.isEmpty then say text
          else
            let lines := Octets.lines text
            for line in if has given 's' then withoutGaps lines else lines do
              let isNumbered := if has given 'b' then line != ['\n'] else has given 'n'
              if isNumbered then number := number + 1
              say (shownLine given (if isNumbered then some number else none) line)
    pure status

/-- Changes what is known of a file or directory. -/
def changeTraits (names : List String) (change : Traits → Traits) : Work Unit := modify fun state =>
  { state with system := state.system.withTraits names change }

/-- The time that options ask for, or what is wrong with them. -/
def timeOf (given : List (Char × Octets)) : Work (Except String Int) := do
  let now := (← get).system.now
  let refused (text : Octets) : Except String Int :=
    .error ("invalid date format " ++ quoted text)
  match given.filter fun (letter, _) => letter == 'd' || letter == 't' || letter == 'r' with
  | [] => pure (.ok now)
  | ('d', text) :: _ =>
      pure (match Times.ofDate? now text with | some time => .ok time | none => refused text)
  | ('t', text) :: _ =>
      pure (match Times.ofStamp? now text with | some time => .ok time | none => refused text)
  | (_, name) :: _ => do
      match ← Work.placeOf? name with
      | some names => pure (.ok ((← get).system.traitsOf names).time)
      | none =>
          pure (.error
            ("failed to get attributes of " ++ quoted name ++ ": No such file or directory"))

/-- Makes files that are missing, and gives files a time. -/
def touch : Utility :=
  withOptions "touch" [('a', false), ('m', false), ('c', false), ('d', true), ('t', true),
      ('r', true)] 1 fun given names => do
    let kinds := (given.map (·.1)).filter fun letter => "dtr".toList.contains letter
    if 1 < kinds.eraseDups.length then
      return (← complainOfUse "touch" "cannot specify times from more than one source" 1)
    match ← timeOf given with
    | .error text => complain "touch" text 1
    | .ok time =>
        if names.isEmpty then return (← complainOfUse "touch" "missing file operand" 1)
        let mut status := 0
        for name in names do
          let state ← get
          if (← Work.nodeOf? name).isNone && !has given 'c' then
            match state.system.overwrite state.mask (← Work.location name) [] with
            | .ok system => set { state with system }
            | .error cause =>
                status ← complain "touch"
                  ("cannot touch " ++ quoted name ++ ": " ++ causeText cause) 1
          unless has given 'a' && !has given 'm' do
            if let some names ← Work.placeOf? name then changeTraits names ({ · with time })
        pure status

/-- Makes files longer or shorter. -/
def truncate : Utility :=
  withOptions "truncate" [('s', true), ('c', false)] 1 fun given names => do
    match given.lookup 's' with
    | none => complainOfUse "truncate" "you must specify either '--size' or '--reference'" 1
    | some size =>
        let sign := size.head?.filter fun c => c = '+' || c = '-'
        let (number, count, rest) := digitsOf 10 (if sign.isSome then size.drop 1 else size)
        if count = 0 || !rest.isEmpty then
          return (← complain "truncate" ("Invalid number: " ++ quoted size) 1)
        if names.isEmpty then return (← complainOfUse "truncate" "missing file operand" 1)
        let mut status := 0
        for name in names do
          let before := (← contentOf name).toOption
          if before.isSome || !has given 'c' then
            let text := before.getD []
            let length :=
              match sign with
              | some '+' => text.length + number
              | some _ => text.length - number
              | none => number
            let text := text.take length ++ List.replicate (length - text.length) '\x00'
            let state ← get
            let location ← Work.location name
            match state.system.overwrite state.mask location (Octets.toBytes text) with
            | .ok system => set { state with system }
            | .error cause =>
                status ← complain "truncate"
                  ("cannot open " ++ quoted name ++ " for writing: " ++ causeText cause) 1
        pure status

/-- Copies blocks from one file to another. -/
def dd : Utility := fun arguments => do
  let value? (name : String) : Option Octets :=
    arguments.findSome? fun argument =>
      if (name.toList ++ ['=']).isPrefixOf argument then some (argument.drop (name.length + 1))
      else none
  let number (name : String) (otherwise : Nat) : Nat := ((value? name).bind count?).getD otherwise
  let block := number "bs" 512
  let input ←
    match value? "if" with
    | none => pure (.ok (← Work.readAll 0))
    | some name => contentOf name
  match input with
  | .error cause =>
      let name := (value? "if").getD []
      complain "dd" ("failed to open " ++ quoted name ++ ": " ++ causeText cause) 1
  | .ok text =>
      let rest := text.drop (block * number "skip" 0)
      let part :=
        match (value? "count").bind count? with
        | some count => rest.take (block * count)
        | none => rest
      let status ←
        match value? "of" with
        | none => do
            say part
            pure 0
        | some name => do
            let before := ((← contentOf name).toOption).getD []
            let place := block * number "seek" 0
            let keeps := value? "conv" == some "notrunc".toList
            let lead := before.take place ++ List.replicate (place - before.length) '\x00'
            let whole := lead ++ part ++ if keeps then before.drop (place + part.length) else []
            let state ← get
            let location ← Work.location name
            match state.system.overwrite state.mask location (Octets.toBytes whole) with
            | .ok system => do
                set { state with system }
                pure 0
            | .error cause =>
                complain "dd" ("failed to open " ++ quoted name ++ ": " ++ causeText cause) 1
      unless status ≠ 0 || value? "status" == some "none".toList do
        let records := countOctets (part.length / block) ++ '+' ::
          (if part.length % block = 0 then ['0'] else ['1'])
        let _ ← Work.writeTo 2
          (records ++ " records in\n".toList ++ records ++ " records out\n".toList)
      pure status

/-- The names along the paths to what a name leads to and, if that is wanted, to all that is in
it. -/
def allBelow (isDeep : Bool) (path : List String) : Work (List (List String)) := do
  if !isDeep then pure [path]
  else
    let inside := (← get).system.storage.nodes.filterMap fun (other, _) =>
      if path.isPrefixOf other && other != path then some other else none
    pure (path :: inside)

/-- Changes permissions of files. -/
def chmod : Utility := fun arguments => do
  let isOption (argument : Octets) : Bool :=
    ["-R", "-v", "-f", "-c", "--"].any fun option => option.toList = argument
  let isDeep := arguments.contains ['-', 'R']
  match arguments.filter (!isOption ·) with
  | [] => complainOfUse "chmod" "missing operand" 1
  | [mode] => complainOfUse "chmod" ("missing operand after " ++ quoted mode) 1
  | mode :: names =>
      let mask := (← get).mask
      if (Permissions.changed? mask false mode 0).isNone then
        complainOfUse "chmod" ("invalid mode: " ++ quoted mode) 1
      else
        let mut status := 0
        for name in names do
          match ← Work.find? name with
          | none =>
              status ← complain "chmod"
                ("cannot access " ++ quoted name ++ ": No such file or directory") 1
          | some (path, _) =>
              for names in ← allBelow isDeep path do
                let isDirectory := (← get).system.storage.node? names == some .directory
                changeTraits names fun traits =>
                  { traits with
                    mode :=
                      (Permissions.changed? mask isDirectory mode traits.mode).getD traits.mode }
        pure status

/-- Makes a file or a directory with a name of its own, and shows the name. -/
def mktemp : Utility :=
  withOptions "mktemp" [('d', false), ('q', false), ('u', false)] 1 fun given _ => do
    let number := (← get).system.nextProcess
    modify fun state =>
      { state with system := { state.system with nextProcess := number + 1 } }
    let name := "/tmp/tmp." ++ natText (1000000000 + number)
    unless has given 'u' do
      changeStorage (·.place name (if has given 'd' then .directory else .file []))
      if let some names ← Work.placeOf? name.toList then
        let now := (← get).system.now
        changeTraits names fun _ => ⟨if has given 'd' then 0o700 else 0o600, now⟩
    say (name.toList ++ ['\n'])
    pure 0

end Console.Shell.Utility
