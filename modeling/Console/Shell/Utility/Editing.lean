import Console.Shell.Utility.LineEdit

/-!
# Editing lines

A script is run on one line after another, where it may read further lines, keep lines for later,
and go on at other commands.  `LineEdit.runLines` runs a script on lines.
-/

namespace Console.Shell

/-- How the editing of a line ends. -/
inductive LineEnd where
  | complete
  /-- The line is not written. -/
  | deleted
  /-- The script begins again with what is left of the line. -/
  | again
  | quit (isSilent : Bool) (status : Nat)
  /-- A command wants a pattern that has been used before, and there is none. -/
  | noPattern
  deriving DecidableEq, Repr

/-- How texts are edited. -/
structure LineForm where
  /-- Lines are written only where a command says so. -/
  isQuiet : Bool := false
  /-- The character that ends a line. -/
  ending : Char := '\n'
  /-- How long the rows of a line that is shown are, unless a command says so itself. -/
  width : Nat := 70
  /-- Lines are written to the file that they are read from. -/
  isInPlace : Bool := false
  deriving Repr

/-- A line that is edited. -/
structure SourceLine where
  text : Octets
  /-- Whether the line has an end, which the last one of a file may lack. -/
  hasEnd : Bool
  /-- The name of its file. -/
  title : Octets
  deriving Repr

/-- What has been written to a file. -/
structure FiledText where
  name : Octets
  text : Octets := []
  /-- Whether the latest line has been written without an end. -/
  lacksEnd : Bool := false
  deriving Repr

/-- How far a text has been edited. -/
structure Progress where
  /-- The lines that have not been read. -/
  rest : List SourceLine := []
  number : Nat := 0
  /-- The line that is edited. -/
  line : Octets := []
  hasEnd : Bool := true
  title : Octets := ['-']
  held : Octets := []
  heldHasEnd : Bool := true
  /-- What is written after the line. -/
  queue : Octets := []
  /-- What has been written, newest first. -/
  written : List Octets := []
  /-- What has been written to the output by its name where lines are written elsewhere, newest
  first. -/
  shown : List Octets := []
  /-- Whether the latest line has been written without an end. -/
  lacksEnd : Bool := false
  filed : List FiledText := []
  /-- The texts of the files that commands read. -/
  texts : List (Octets × Octets) := []
  /-- The last line of each range that has begun; none if the range ends by its second address. -/
  active : List (Nat × Option Nat) := []
  /-- Whether something has been replaced in the line. -/
  isReplaced : Bool := false
  /-- The pattern that has been used last. -/
  latest : Option LineRegex := none

namespace Progress

/-- Writes a text; a line without an end is ended first. -/
def write (form : LineForm) (progress : Progress) (text : Octets) : Progress :=
  let text := if progress.lacksEnd then form.ending :: text else text
  { progress with written := text :: progress.written, lacksEnd := false }

/-- Writes a line, which lacks its end if the line that is edited does. -/
def writeLine (form : LineForm) (progress : Progress) (line : Octets) : Progress :=
  if progress.hasEnd then progress.write form (line ++ [form.ending])
  else { progress.write form line with lacksEnd := true }

/-- Writes a line to a file. -/
def fileLine (form : LineForm) (progress : Progress) (name line : Octets) (hasEnd : Bool) :
    Progress :=
  let before := (progress.filed.find? (·.name == name)).getD { name }
  let text := (if before.lacksEnd then [form.ending] else []) ++ line ++
    (if hasEnd then [form.ending] else [])
  let isOutput := name = "/dev/stdout".toList
  let later : FiledText :=
    { name, text := if isOutput then [] else before.text ++ text, lacksEnd := !hasEnd }
  let filed :=
    if progress.filed.any (·.name == name) then
      progress.filed.map fun other => if other.name == name then later else other
    else progress.filed ++ [later]
  let progress := { progress with filed }
  if !isOutput then progress
  else if form.isInPlace then { progress with shown := text :: progress.shown }
  else { progress with written := text :: progress.written }

/-- Writes what comes after the line. -/
def flush (form : LineForm) (progress : Progress) : Progress :=
  if progress.queue.isEmpty then progress
  else { progress.write form progress.queue with queue := [] }

/-- Whether a pattern matches the line, or the pattern that has been used last does; none if there
is no such pattern. -/
def matches? (progress : Progress) (regex : Option LineRegex) : Option (Bool × Progress) :=
  (regex.or progress.latest).map fun regex =>
    ((LineMatch.from? regex 0 none progress.line).isSome, { progress with latest := some regex })

/-- Whether an address is that of the line. -/
def isAt? (progress : Progress) : LineAddress → Option (Bool × Progress)
  | .number n => some (progress.number = n, progress)
  | .last => some (progress.rest.isEmpty, progress)
  | .matching regex => progress.matches? regex
  | .after _ | .upToMultiple _ => some (false, progress)
  | .every first step =>
      some (if step = 0 then progress.number = first
        else first ≤ progress.number && (progress.number - first) % step = 0, progress)

/-- Goes on with a range that has begun; `index` is the number of its command in the script. -/
def inside? (progress : Progress) (index : Nat) (first second : LineAddress)
    (ending : Option Nat) : Option (Bool × Progress) :=
  let finished (progress : Progress) : Progress :=
    { progress with active := progress.active.filter (·.1 != index) }
  match ending with
  | some last =>
      if progress.number < last then some (true, progress)
      else if progress.number = last then some (true, finished progress)
      else (finished progress).isAt? first
  | none =>
      (progress.isAt? second).map fun (isEnd, progress) =>
        (true, if isEnd then finished progress else progress)

/-- Whether a command is meant for the line, where `index` is its number in the script. -/
def selects? (progress : Progress) (index : Nat) (edit : LineEdit) : Option (Bool × Progress) :=
  match edit.first, edit.second with
  | none, _ => some (true, progress)
  | some first, none => progress.isAt? first
  | some first, some second =>
      match progress.active.lookup index with
      | some ending => progress.inside? index first second ending
      | none =>
          let begin (progress : Progress) (last : Option Nat) : Progress :=
            { progress with active := (index, last) :: progress.active }
          if first matches .number 0 then
            if progress.number = 1 then (begin progress none).inside? index first second none
            else some (false, progress)
          else
            (progress.isAt? first).map fun (isFirst, progress) =>
              if !isFirst then (false, progress)
              else
                let upTo (last : Nat) : Progress :=
                  if last ≤ progress.number then progress else begin progress (some last)
                match second with
                | .number n => (true, upTo n)
                | .after count => (true, upTo (progress.number + count))
                | .upToMultiple step =>
                    (true, if step = 0 then progress
                      else upTo ((progress.number + step - 1) / step * step))
                | _ => (true, begin progress none)

/-- Reads the next line; none if there is none. -/
def next? (progress : Progress) : Option Progress :=
  match progress.rest with
  | [] => none
  | line :: rest =>
      some
        { progress with
          line := line.text
          hasEnd := line.hasEnd
          title := line.title
          rest
          number := progress.number + 1 }

/-- Takes the next line from the text of a file that commands read. -/
def takeLine (progress : Progress) (name : Octets) : Octets × Progress :=
  match Octets.lines ((progress.texts.lookup name).getD []) with
  | [] => ([], progress)
  | line :: rest =>
      (line, { progress with
        texts := (name, rest.flatten) :: progress.texts.filter (·.1 != name) })

end Progress

/-- The letters of a text changed. -/
def Casing.apply : Casing → Octets → Octets
  | upper, text => text.map Char.toUpper
  | lower, text => text.map Char.toLower
  | upperFirst, c :: rest => c.toUpper :: rest
  | lowerFirst, c :: rest => c.toLower :: rest
  | _, text => text

namespace LineEdit

/-- What a match is replaced by; `casing` is how letters are changed, and `first` how the next one
is. -/
def replaced (whole : Octets) (groups : List (Nat × Octets)) :
    (casing first : Casing) → List Replacement → Octets
  | _, _, [] => []
  | casing, first, part :: rest =>
      let next (text : Octets) : Octets :=
        if text.isEmpty then replaced whole groups casing first rest
        else first.apply (casing.apply text) ++ replaced whole groups casing .unchanged rest
      match part with
      | .casing .upperFirst => replaced whole groups casing .upperFirst rest
      | .casing .lowerFirst => replaced whole groups casing .lowerFirst rest
      | .casing casing => replaced whole groups casing .unchanged rest
      | .text text => next text
      | .group 0 => next whole
      | .group index => next ((groups.lookup index).getD [])

/-- A line with matches replaced, and whether there were any; `index` counts the matches, and the
first number bounds their number.  `isAfter` says that a match has just ended, so that an empty one
does not count. -/
def substituted (regex : LineRegex) (change : Substitution) :
    Nat → (index : Nat) → (isAfter : Bool) → Option Char → Octets → Octets × Bool
  | 0, _, _, _, line => (line, false)
  | bound + 1, index, isAfter, before, line =>
      match LineMatch.from? regex 0 before line with
      | none => (line, false)
      | some found =>
          let skipped := line.take found.start
          let whole := (line.drop found.start).take found.length
          let isCounted := !(isAfter && found.start = 0 && found.length = 0)
          let isChosen := isCounted && change.first ≤ index
          let text :=
            if isChosen then replaced whole found.groups .unchanged .unchanged change.parts
            else whole
          let rest := line.drop (found.start + found.length)
          if isChosen && !change.isGlobal then (skipped ++ text ++ rest, true)
          else
            let index := if isCounted then index + 1 else index
            match found.length, rest with
            | _, [] => (skipped ++ text, isChosen)
            | 0, c :: rest =>
                let (more, isAny) :=
                  substituted regex change bound index false (some c) rest
                (skipped ++ text ++ c :: more, isChosen || isAny)
            | _, rest =>
                let (more, isAny) :=
                  substituted regex change bound index true whole.getLast? rest
                (skipped ++ text ++ more, isChosen || isAny)

/-- A character as it is shown where all characters are to be visible. -/
def visibleChar (c : Char) : Octets :=
  match [('\x07', 'a'), ('\x08', 'b'), ('\x0c', 'f'), ('\n', 'n'), ('\r', 'r'), ('\t', 't'),
    ('\x0b', 'v'), ('\\', '\\')].lookup c with
  | some letter => ['\\', letter]
  | none =>
      if isInClass "print" c then [c]
      else
        let digits := Nat.toDigits 8 c.toNat
        '\\' :: (List.replicate (3 - digits.length) '0' ++ digits)

/-- A line with all characters visible, in rows of a width if it is not zero; `column` is how far
the row has come. -/
def visibleLine (width : Nat) (column : Nat) : Octets → Octets
  | [] => ['$']
  | c :: rest =>
      let shown := visibleChar c
      if width != 0 && width - 1 < column + shown.length then
        '\\' :: '\n' :: shown ++ visibleLine width shown.length rest
      else shown ++ visibleLine width (column + shown.length) rest

/-- The number of the command to go on at for a label. -/
def placeOf (edits : List LineEdit) (name : Octets) : Nat :=
  (edits.findIdx? fun edit =>
    match edit.action with
    | .label other => other == name
    | _ => false).getD edits.length

/-- Does what a command says to the line; on the right, how the line ends if it does, or else the
number of the command to go on at. -/
def act (form : LineForm) (edits : List LineEdit) (index : Nat) (edit : LineEdit)
    (progress : Progress) : Progress × (LineEnd ⊕ Nat) :=
  let on (progress : Progress) : Progress × (LineEnd ⊕ Nat) := (progress, .inr (index + 1))
  let firstLine := progress.line.takeWhile (· != form.ending)
  let isWhole := firstLine.length = progress.line.length
  match edit.action with
  | .delete => (progress, .inl .deleted)
  | .deleteFirst =>
      match progress.line.drop firstLine.length with
      | [] => (progress, .inl .deleted)
      | _ :: line => ({ progress with line }, .inl .again)
  | .print => on (progress.writeLine form progress.line)
  | .printFirst => on (progress.write form (firstLine ++ [form.ending]))
  | .list width =>
      let shown := visibleLine (width.getD form.width) 0 progress.line
      on (progress.write form (shown ++ ['\n']))
  | .quit status => (progress, .inl (.quit false status))
  | .quitSilently status => (progress, .inl (.quit true status))
  | .number => on (progress.write form (countOctets progress.number ++ ['\n']))
  | .title => on (progress.write form (progress.title ++ ['\n']))
  | .append text => on { progress with queue := progress.queue ++ text }
  | .insert text => on (if text.isEmpty then progress else progress.write form text)
  | .change text =>
      let isInside := !edit.isNegated && edit.second.isSome && (progress.active.lookup index).isSome
      (if isInside || text.isEmpty then progress else progress.write form text, .inl .deleted)
  | .next =>
      if progress.rest.isEmpty then (progress, .inl (.quit false 0))
      else
        let shown := if form.isQuiet then progress else progress.writeLine form progress.line
        on ((shown.flush form).next?.getD progress)
  | .join =>
      match (progress.flush form).next? with
      | some later => on { later with line := progress.line ++ form.ending :: later.line }
      | none => (progress, .inl (.quit false 0))
  | .hold => on { progress with held := progress.line, heldHasEnd := progress.hasEnd }
  | .holdMore =>
      on { progress with
        held := progress.held ++ form.ending :: progress.line, heldHasEnd := progress.hasEnd }
  | .recover => on { progress with line := progress.held, hasEnd := progress.heldHasEnd }
  | .recoverMore =>
      on { progress with
        line := progress.line ++ form.ending :: progress.held, hasEnd := progress.heldHasEnd }
  | .exchange =>
      on { progress with
        line := progress.held, hasEnd := progress.heldHasEnd
        held := progress.line, heldHasEnd := progress.hasEnd }
  | .clear => on { progress with line := [] }
  | .translate pairs =>
      on { progress with line := progress.line.map fun c => (pairs.lookup c).getD c }
  | .substitute change =>
      match change.regex.or progress.latest with
      | none => (progress, .inl .noPattern)
      | some regex =>
          let (line, isAny) :=
            substituted regex change (progress.line.length + 1) 1 false none progress.line
          let progress :=
            { progress with
              line, isReplaced := progress.isReplaced || isAny, latest := some regex }
          let progress := if isAny && change.prints then progress.writeLine form line else progress
          match isAny, change.file with
          | true, some name => on (progress.fileLine form name line progress.hasEnd)
          | _, _ => on progress
  | .group _ | .label _ | .nothing => on progress
  | .jump name => (progress, .inr (placeOf edits name))
  | .jumpIf isReplaced name =>
      if progress.isReplaced = isReplaced then
        ({ progress with isReplaced := false }, .inr (placeOf edits name))
      else on { progress with isReplaced := false }
  | .readFile name =>
      let text := (progress.texts.lookup name).getD []
      let isInput := name = "/dev/stdin".toList
      on { progress with
        queue := progress.queue ++ text
        texts := if isInput then progress.texts.filter (·.1 != name) else progress.texts }
  | .readLine name =>
      let (line, progress) := progress.takeLine name
      on { progress with queue := progress.queue ++ line }
  | .writeFile name => on (progress.fileLine form name progress.line progress.hasEnd)
  | .writeFirst name =>
      on (progress.fileLine form name firstLine (!isWhole || progress.hasEnd))

/-- Runs the commands on the line from one on; the number bounds the commands that are run. -/
def runFrom (form : LineForm) (edits : List LineEdit) : Nat → Nat → Progress → Progress × LineEnd
  | 0, _, progress => (progress, .quit false 0)
  | bound + 1, index, progress =>
      match edits[index]? with
      | none => (progress, .complete)
      | some edit =>
          match progress.selects? index edit with
          | none => (progress, .noPattern)
          | some (isSelected, progress) =>
              if isSelected != edit.isNegated then
                match edit.act form edits index progress with
                | (progress, .inl ending) => (progress, ending)
                | (progress, .inr index) => runFrom form edits bound index progress
              else
                let size := match edit.action with | .group size => size | _ => 0
                runFrom form edits bound (index + 1 + size) progress

/-- How many commands may be run on a line. -/
def turnLimit : Nat := 100000

/-- Runs the commands on all lines that are left, and gives the status if the script says that it is
over; the number bounds the lines, and those that begin again. -/
def runLines (form : LineForm) (edits : List LineEdit) : Nat → (isAgain : Bool) → Progress →
    Progress × Option (Except Unit Nat)
  | 0, _, progress => (progress, none)
  | bound + 1, isAgain, progress =>
      match if isAgain then some progress else progress.next? with
      | none => (progress, none)
      | some progress =>
          let (progress, ending) :=
            runFrom form edits turnLimit 0 { progress with isReplaced := false }
          let shown : Progress :=
            (if form.isQuiet then progress else progress.writeLine form progress.line).flush form
          match ending with
          | .complete => runLines form edits bound false shown
          | .deleted => runLines form edits bound false (progress.flush form)
          | .again => runLines form edits bound true (progress.flush form)
          | .quit false status => (shown, some (.ok status))
          | .quit true status => (progress, some (.ok status))
          | .noPattern => (progress, some (.error ()))

/-- Runs the commands on all lines that are left. -/
def run (form : LineForm) (edits : List LineEdit) (progress : Progress) :
    Progress × Option (Except Unit Nat) :=
  let size := total (progress.rest.map (·.text.length)) + progress.rest.length
  runLines form edits (2 * size + 2) false progress

/-- The lines of a text with a title. -/
def sourceLines (form : LineForm) (title text : Octets) : List SourceLine :=
  let parts := Octets.splitAt (· == form.ending) text
  let whole := parts.dropLast.map fun line => (⟨line, true, title⟩ : SourceLine)
  match parts.getLast? with
  | none | some [] => whole
  | some line => whole ++ [⟨line, false, title⟩]

/-- The files that the commands of a script read. -/
def sources (edits : List LineEdit) : List Octets :=
  edits.filterMap fun edit =>
    match edit.action with
    | .readFile name | .readLine name => some name
    | _ => none

/-- The files that the commands of a script write. -/
def targets (edits : List LineEdit) : List Octets :=
  edits.filterMap fun edit =>
    match edit.action with
    | .writeFile name | .writeFirst name => some name
    | .substitute change => change.file
    | _ => none

/-- A label that a script goes on at and does not have. -/
def missingLabel? (edits : List LineEdit) : Option Octets :=
  edits.findSome? fun edit =>
    match edit.action with
    | .jump name | .jumpIf _ name =>
        if name.isEmpty || LineEdit.placeOf edits name < edits.length then none else some name
    | _ => none

end LineEdit

namespace Utility

/-- The option that rewrites files, if it is among arguments, with the ending of the names that the
files are kept under; and the other arguments. -/
def rewriting : List Octets → Option Octets × List Octets
  | [] => (none, [])
  | argument :: rest =>
      let (found, others) := rewriting rest
      let letters := (argument.drop 1).takeWhile fun c => "nErsuzb".toList.contains c
      if argument = ['-', '-'] then (none, argument :: rest)
      else if argument = "--in-place".toList then (found.or (some []), others)
      else if "--in-place=".toList.isPrefixOf argument then
        (found.or (some (argument.drop 11)), others)
      else if argument.head? = some '-' && argument[letters.length + 1]? = some 'i' then
        (found.or (some (argument.drop (letters.length + 2))),
          if letters.isEmpty then others else ('-' :: letters) :: others)
      else (found, argument :: others)

/-- Writes a file anew, if that can be done. -/
def rewrite (name text : Octets) : Work Unit := do
  let state ← get
  let location ← Work.location name
  if let .ok system := state.system.overwrite state.mask location (Octets.toBytes text) then
    set { state with system }

/-- Writes the files that a script has written to. -/
def fileAway (filed : List FiledText) : Work Unit := do
  for file in filed do
    if file.name = "/dev/stderr".toList then
      let _ ← Work.writeTo 2 file.text
    else if file.name != "/dev/stdout".toList then rewrite file.name file.text

/-- The texts of files for the commands that read them. -/
def sourceTexts (names : List Octets) : Work (List (Octets × Octets)) := do
  let mut texts := []
  for name in names.eraseDups do
    if name = "/dev/stdin".toList then texts := (name, ← Work.readAll 0) :: texts
    else if let .ok text ← contentOf name then texts := (name, text) :: texts
  pure texts

/-- The pieces of a script, given as options and files; an argument that cannot be read is
complained about. -/
def scriptPieces (number : Nat) :
    List (Char × Octets) → Work (Option (List (LineEdit.Origin × Octets)))
  | [] => pure (some [])
  | (letter, value) :: rest => do
      if letter = 'e' then
        pure ((← scriptPieces (number + 1) rest).map ((.argument number, value) :: ·))
      else if letter != 'f' then scriptPieces number rest
      else
        let text ←
          if value = ['-'] then pure (.ok (← Work.readAll 0)) else contentOf value
        match text with
        | .ok text =>
            let text := if text.getLast? = some '\n' then text.dropLast else text
            pure ((← scriptPieces number rest).map ((.file value, text) :: ·))
        | .error cause => do
            let _ ← complain "sed"
              ("couldn't open file " ++ Octets.toText value ++ ": " ++ causeText cause) 4
            pure none

/-- How the editing of a file has gone. -/
inductive Edited where
  | complete (status : Nat)
  | ended (status : Nat)

/-- Ends the editing of lines: says if a pattern was missing. -/
def editedStatus (ending : Option (Except Unit Nat)) : Work Edited := do
  match ending with
  | none => pure (.complete 0)
  | some (.ok status) => pure (.ended status)
  | some (.error ()) => do
      let _ ← complain "sed" "-e expression #1, char 0: no previous regular expression" 1
      pure (.ended 1)

/-- Edits files one by one; `ending` makes the names that files are kept under if they are edited in
place.  For every file the script starts with the same `texts` of files that it reads. -/
def editEach (form : LineForm) (edits : List LineEdit) (ending : Option Octets) :
    (texts : List (Octets × Octets)) → List Octets → Progress → Work (Progress × Nat)
  | _, [], progress => pure (progress, 0)
  | texts, name :: rest, progress => do
      let text ←
        if name = ['-'] && ending.isNone then pure (.ok (← Work.readAll 0)) else contentOf name
      match text with
      | .error cause => do
          let isFile := cause = .isADirectory
          let reason :=
            if !isFile then "can't read " ++ Octets.toText name ++ ": " ++ causeText cause
            else if ending.isSome then
              "couldn't edit " ++ Octets.toText name ++ ": not a regular file"
            else "read error on " ++ Octets.toText name ++ ": " ++ causeText cause
          let status ← complain "sed" reason (if isFile then 4 else 2)
          if isFile && ending.isNone then pure (progress, status)
          else
            let (progress, later) ← editEach form edits ending texts rest progress
            pure (progress, if later = 0 then status else later)
      | .ok text => do
          let before :=
            { (if progress.lacksEnd then progress.write form [] else progress) with
              rest := LineEdit.sourceLines form name text, number := 0, texts
              held := [], heldHasEnd := true }
          let (progress, ended) := LineEdit.run form edits before
          let progress ←
            match ending with
            | none => pure progress
            | some ending => do
                unless ending.isEmpty do rewrite (keptName name ending) text
                rewrite name progress.written.reverse.flatten
                say progress.shown.reverse.flatten
                pure { progress with written := [], shown := [], lacksEnd := false }
          match ← editedStatus ended with
          | .ended status => pure (progress, status)
          | .complete _ => editEach form edits ending texts rest progress
where
  /-- The name that a file is kept under: in the ending, a star stands for the name. -/
  keptName (name ending : Octets) : Octets :=
    if ending.contains '*' then ending.flatMap fun c => if c = '*' then name else [c]
    else name ++ ending

/-- Edits files as one text. -/
def editAll (form : LineForm) (edits : List LineEdit) (names : List Octets) (progress : Progress) :
    Work (Progress × Nat) := do
  let mut lines := []
  let mut status := 0
  for name in names do
    if status != 4 then
      match ← if name = ['-'] then pure (.ok (← Work.readAll 0)) else contentOf name with
      | .ok text => lines := lines ++ LineEdit.sourceLines form name text
      | .error .isADirectory =>
          status ← complain "sed" ("read error on " ++ Octets.toText name ++ ": Is a directory") 4
      | .error cause =>
          status ← complain "sed"
            ("can't read " ++ Octets.toText name ++ ": " ++ causeText cause) 2
  let (progress, ended) := LineEdit.run form edits { progress with rest := lines }
  match ← editedStatus ended with
  | .ended later => pure (progress, if later = 0 then status else later)
  | .complete _ => pure (progress, status)

/-- The options that `sed` takes. -/
def sedLetters : List (Char × Bool) :=
  "nErsuzbBFPDS".toList.map (·, false) ++ "efl".toList.map (·, true)

/-- Edits texts by a script. -/
def sed : Utility := fun arguments =>
  let (ending, arguments) := rewriting arguments
  withOptions "sed" sedLetters 1 (fun given names => do
    let isGiven := has given 'e' || has given 'f'
    match if isGiven then some (given, names) else names.head?.map fun script =>
      ([('e', script)], names.drop 1) with
    | none => do
        let usage :=
          "Usage: sed [OPTION]... \x7bscript-only-if-no-other-script\x7d [input-file]...\n"
        let _ ← Work.writeTo 2 usage.toList
        pure 1
    | some (scripts, names) => do
        let some script ← scriptPieces 1 scripts | pure 4
        let pattern : PatternForm :=
          { isExtended := has given 'E' || has given 'r', isStrict := true }
        match LineEdit.read pattern script with
        | .error text => do
            let _ ← Work.writeTo 2 ("sed: ".toList ++ text ++ ['\n'])
            pure 1
        | .ok edits =>
            if let some name := LineEdit.missingLabel? edits then
              complain "sed" ("can't find label for jump to `" ++ Octets.toText name ++ "'") 4
            else do
              let isMarked := script.head?.any fun (_, text) => text.take 2 = ['#', 'n']
              let form : LineForm :=
                { isQuiet := has given 'n' || isMarked
                  ending := if has given 'z' then '\x00' else '\n'
                  width := ((given.lookup 'l').bind count?).getD 70
                  isInPlace := ending.isSome }
              let texts ← sourceTexts (LineEdit.sources edits)
              let filed := (LineEdit.targets edits).eraseDups.map fun name => ({ name } : FiledText)
              let inputs := if names.isEmpty then [['-']] else names
              let progress : Progress := { texts, filed }
              if ending.isSome && names.isEmpty then complain "sed" "no input files" 4
              else
                let (progress, status) ←
                  if ending.isSome || has given 's' then
                    editEach form edits ending texts inputs progress
                  else editAll form edits inputs progress
                say progress.written.reverse.flatten
                fileAway progress.filed
                pure status)
    arguments

end Utility

end Console.Shell
