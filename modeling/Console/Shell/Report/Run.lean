import Console.Shell.Report.Machine
import Console.Shell.Report.Reader

/-!
# Running report programs

Terms are worked out and statements are done over a machine, and the rules of a program are applied
to one record after another: `Report.awk` runs a program.
-/

namespace Console.Shell.Report

/-! ## Files and commands -/

/-- Does something with descriptors of its own. -/
def withDescriptors {α : Type} (work : Work α) : Work α := do
  let before := (← get).descriptors
  let value ← work
  modify ({ · with descriptors := before })
  pure value

/-- The name of the output of a program. -/
def outputName : Octets := "/dev/stdout".toList

/-- Writes what waits to be written to a file or to the output. -/
def flushed (writer : Writer) : Work Writer := do
  let text := writer.waiting.reverse.flatten
  match writer.stream with
  | none => unless text.isEmpty do Utility.say text
  | some stream =>
      modify fun state =>
        match state.system.write? stream text with
        | some system => { state with system }
        | none => state
  pure { writer with waiting := [] }

/-- Writes what waits, where that is wanted. -/
def flush (isMeant : Writer → Bool) : Reporting Unit := do
  let writers ← (← get).writers.mapM fun writer =>
    if isMeant writer then (flushed writer : Work Writer) else pure writer
  modify ({ · with writers })

/-- The output of a command, and its status. -/
def outputOf (command : Octets → Work Nat) (text : Octets) : Reporting (Option Reader) := do
  flush fun writer => writer.stream.isNone
  let work : Work Reader := do
    let pipe ← Work.addStream { medium := .pipe [] }
    let status ← withDescriptors do
      Work.redirect 1 (some pipe)
      command text
    pure { rest := (← get).system.remaining pipe, status }
  some <$> (work : Reporting Reader)

/-- Opens a file or a command to be written to: the number of its stream. -/
def openWriter (outlet : Outlet) (name : Octets) : Work (Except IoCause Nat) := do
  if outlet = .command then pure (.ok (← Work.addStream { medium := .pipe [] }))
  else
    let location ← Work.location name
    let state ← get
    let appends : Bool := outlet = .appended
    match state.system.openToWrite state.mask location (!appends) appends false with
    | .ok (stream, system) => do
        set { state with system }
        pure (.ok stream)
    | .error cause => pure (.error cause)

/-- What leads to a file or a command, which is opened if it has not been. -/
def writerFor (outlet : Outlet) (name : Octets) : Reporting Writer := do
  let isCommand : Bool := outlet = .command
  let isMeant (writer : Writer) : Bool := writer.name == name && writer.isCommand == isCommand
  let others := (← get).writers.filter (!isMeant ·)
  match (← get).writers.find? isMeant with
  | some writer => do
      modify ({ · with writers := others })
      pure writer
  | none => do
      if isCommand then flush fun writer => writer.stream.isNone
      if name = outputName && !isCommand then pure { name, stream := none, isCommand }
      else
        match ← openWriter outlet name with
        | .ok stream => pure { name, stream := some stream, isCommand }
        | .error cause =>
            broken ("cannot open \"".toList ++ name ++ "\" for output (".toList ++
              (causeText cause).toList ++ [')'])

/-- Writes a text to a file or a command, in which it waits until what is written to is closed. -/
def writeOut (outlet : Outlet) (name text : Octets) : Reporting Unit := do
  let isFile : Bool := outlet != .command
  if isFile && name = "/dev/stderr".toList then
    let _ ← Work.writeTo 2 text
  else
    let name := if isFile && name = ['-'] then outputName else name
    let writer ← writerFor outlet name
    modify fun machine =>
      { machine with
        writers := { writer with waiting := text :: writer.waiting } :: machine.writers }

/-- Closes what a program writes to; a command runs now that its input is whole. -/
def finishWriter (command : Octets → Work Nat) (writer : Writer) : Work Nat := do
  let writer ← flushed writer
  match writer.isCommand, writer.stream with
  | true, some stream =>
      withDescriptors do
        Work.redirect 0 (some stream)
        command writer.name
  | _, _ => pure 0

/-- Closes what a name leads to, and gives what comes of it. -/
def close (command : Octets → Work Nat) (name : Octets) : Reporting Int := do
  let machine ← get
  let (closed, others) := machine.writers.partition (·.name == name)
  let reader? := machine.readers.lookup name
  set { machine with
    writers := others, readers := machine.readers.filter (·.1 != name) }
  let statuses ← closed.mapM fun writer => (finishWriter command writer : Work Nat)
  pure (match statuses, reader? with
    | status :: _, _ => status
    | [], some reader => reader.status
    | [], none => -1)

/-! ## Functions that are always there -/

/-- The place and the length of the part of a text that begins at one place and is so long, where
both are rounded. -/
def partOf (text : Octets) (start : Float) (length : Option Float) : Octets :=
  let size : Float := .ofNat text.length
  let rounded (x : Float) : Int :=
    let below := x.floor
    let rest := x - below
    let isUp := 0.5 < rest || (rest == 0.5 && Float.floor (below / 2) * 2 != below)
    truncated (if isUp then below + 1 else below)
  let first := rounded (max (min start (size + 2)) (-size - 2))
  let last : Int :=
    match length with
    | none => text.length + 1
    | some length => rounded (max (min (start + length) (size + 2)) (-size - 2))
  let first := max first 1
  (text.drop (first - 1).toNat).take (last - first).toNat

/-- The part of a replacement that a backslash or an ampersand stands for. -/
def replacementFor (whole : Octets) : Octets → Octets
  | '\\' :: '&' :: rest => '&' :: replacementFor whole rest
  | '\\' :: '\\' :: rest => '\\' :: replacementFor whole rest
  | '&' :: rest => whole ++ replacementFor whole rest
  | c :: rest => c :: replacementFor whole rest
  | [] => []

/-- A text with matches replaced, and how many; the number bounds how many.  An empty match right
after another match does not count. -/
def replaced (regex : LineRegex) (replacement : Octets) (isGlobal : Bool) :
    Nat → (isAfter : Bool) → Option Char → Octets → Octets × Nat
  | 0, _, _, text => (text, 0)
  | bound + 1, isAfter, before, text =>
      match LineMatch.from? regex 0 before text with
      | none => (text, 0)
      | some found =>
          let whole := (text.drop found.start).take found.length
          let isCounted := !(isAfter && found.start = 0 && found.length = 0)
          let front := text.take found.start ++
            (if isCounted then replacementFor whole replacement else [])
          let rest := text.drop (found.start + found.length)
          let count := if isCounted then 1 else 0
          if isCounted && !isGlobal then (front ++ rest, 1)
          else
            match found.length, rest with
            | _, [] => (front, count)
            | 0, c :: rest =>
                let (more, others) := replaced regex replacement isGlobal bound false (some c) rest
                (front ++ c :: more, count + others)
            | _, rest =>
                let (more, others) :=
                  replaced regex replacement isGlobal bound true whole.getLast? rest
                (front ++ more, count + others)

/-- The place of a text in another one, counted from one; zero if it is not there. -/
def placeOf (text part : Octets) : Nat :=
  ((List.range (text.length + 1 - part.length)).find? fun index =>
    part.isPrefixOf (text.drop index)).elim 0 (· + 1)

/-- The number after a seed. -/
def nextSeed (seed : Nat) : Nat := (seed * 1103515245 + 12345) % 2147483648

/-- The value of a function that needs no more than the values of its arguments; none if there is no
such function. -/
def plainFunction? (function : String) (arguments : List Datum) (conversion : Octets) :
    Option Datum :=
  let text (datum : Datum) : Octets := datum.toText conversion
  let number (change : Float → Float) : Option Datum :=
    arguments.head?.map fun datum => .number (change datum.toNumber)
  match function, arguments with
  | "length", [datum] => some (.number (.ofNat (text datum).length))
  | "substr", [datum, start] => some (.text (partOf (text datum) start.toNumber none))
  | "substr", [datum, start, length] =>
      some (.text (partOf (text datum) start.toNumber (some length.toNumber)))
  | "index", [datum, part] => some (.number (.ofNat (placeOf (text datum) (text part))))
  | "tolower", [datum] => some (.text ((text datum).map Char.toLower))
  | "toupper", [datum] => some (.text ((text datum).map Char.toUpper))
  | "sin", [_] => number Float.sin
  | "cos", [_] => number Float.cos
  | "exp", [_] => number Float.exp
  | "log", [_] => number Float.log
  | "sqrt", [_] => number Float.sqrt
  | "int", [_] => number fun x => if x < 0 then -((-x).floor) else x.floor
  | "atan2", [y, x] => some (.number (Float.atan2 y.toNumber x.toNumber))
  | _, _ => none

/-! ## Terms -/

/-- Where a value is put. -/
inductive Place where
  | name (name : Octets)
  | element (array : Nat) (key : Key)
  | field (index : Nat)

/-- The value at a place. -/
def Place.read : Place → Reporting Datum
  | .name found => readName found
  | .element array key => elementOf array key
  | .field index => do pure (fieldOf (← get) index)

/-- Puts a value at a place. -/
def Place.write (value : Datum) : Place → Reporting Unit
  | .name found => putName found value
  | .element array key => putElement array key value
  | .field index => putField index value

/-- The number of a field. -/
def fieldIndex (datum : Datum) : Reporting Nat := do
  let index := truncated datum.toNumber
  if index < 0 then
    broken ("run time error: negative field index $".toList ++ Text.intDigits index)
  else pure index.toNat

/-- Makes a record of a line that has been read, or puts it at a place, and says whether there was
one. -/
def received (place : Option Place) (line : Option Octets) : Reporting Datum :=
  match line with
  | none => pure (.number 0)
  | some line => do
      match place with
      | some place => place.write (.input line)
      | none => setRecord line
      pure (.number 1)

/-- Stops the program because a function cannot make what it should of a format. -/
def refusedFormat {α : Type} (function refusal : String) (template : Octets) : Reporting α :=
  broken ("run time error: ".toList ++ refusal.toList ++ ' ' :: function.toList ++
    "(\"".toList ++ template ++ "\")".toList)

/-- The expression that a term means where a text is matched with it. -/
def regexOfText (text : Octets) : Reporting LineRegex :=
  match PatternText.read text with
  | .ok regex => pure regex
  | .error fault =>
      broken ("run time error: ".toList ++ fault.message text)

/-- What a function is called with for a parameter. -/
def argumentSlot (term : Option Term) (value : Term → Reporting Datum) : Reporting Slot := do
  match term with
  | none => pure (.datum .unset)
  | some (.name name) =>
      match slotOf? (← get) name with
      | some slot => pure slot
      | none =>
          if name = "NF".toList then pure (.datum (← readName name))
          else do
            let index := (← get).arrayCount
            modify ({ · with arrayCount := index + 1 })
            putSlot name (.undecided index)
            pure (.undecided index)
  | some term => do pure (.datum (← value term))

mutual

/-- The value of a term.  The number bounds how deep terms and statements are in one another and how
often loops turn. -/
def value (program : Program) (command : Octets → Work Nat) : Nat → Term → Reporting Datum
  | 0, _ => broken "out of memory".toList
  | fuel + 1, term => do
      let valueOf (term : Term) : Reporting Datum := value program command fuel term
      let textFor (term : Term) : Reporting Octets := do textOf (← valueOf term)
      let regexFor (term : Term) : Reporting LineRegex := do
        match term with
        | .pattern _ regex => pure regex
        | .group [.pattern _ regex] => pure regex
        | term => regexOfText (← textFor term)
      match term with
      | .number x => pure (.number x)
      | .text text => pure (.text text)
      | .pattern _ regex => do
          pure (.ofBool (LineMatch.from? regex 0 none (← get).record).isSome)
      | .name _ | .element .. | .field _ => do (← place program command fuel term).read
      | .group [term] => valueOf term
      | .group terms => do
          let texts ← terms.mapM textFor
          pure (.text ((← globalText "SUBSEP").intercalate texts))
      | .negative term => do pure (.number (-(← valueOf term).toNumber))
      | .positive term => do pure (.number (← valueOf term).toNumber)
      | .not term => do pure (.ofBool (!(← valueOf term).isTrue))
      | .both left right => do
          if (← valueOf left).isTrue then pure (.ofBool (← valueOf right).isTrue)
          else pure (.ofBool false)
      | .either left right => do
          if (← valueOf left).isTrue then pure (.ofBool true)
          else pure (.ofBool (← valueOf right).isTrue)
      | .choice condition yes no => do
          if (← valueOf condition).isTrue then valueOf yes else valueOf no
      | .operation operation left right => do
          let left ← valueOf left
          let right ← valueOf right
          pure (.number (operation.apply left.toNumber right.toNumber))
      | .comparison comparison left right => do
          let left ← valueOf left
          let right ← valueOf right
          pure (.ofBool (Datum.compares (← conversion) comparison left right))
      | .joined left right => do
          let left ← textFor left
          let right ← textFor right
          pure (.text (left ++ right))
      | .matching isNegated text pattern => do
          let text ← textFor text
          let regex ← regexFor pattern
          pure (.ofBool ((LineMatch.from? regex 0 none text).isSome != isNegated))
      | .isKey indices array => do
          let key ← keyFor program command fuel indices
          let index ← arrayOf array
          let table := (tableOf (← get) index).touched key
          setTable index table
          pure (.ofBool (table.value? key).isSome)
      | .assign target operation term => do
          let right ← valueOf term
          let place ← place program command fuel target
          let result ←
            match operation with
            | none => pure right
            | some operation => do
                pure (.number (operation.apply (← place.read).toNumber right.toNumber))
          place.write result
          pure result
      | .step target isAfter isUp => do
          let place ← place program command fuel target
          let before := (← place.read).toNumber
          let after := if isUp then before + 1 else before - 1
          place.write (.number after)
          pure (.number (if isAfter then before else after))
      | .call name arguments =>
          match program.functions.find? (·.name == name) with
          | none => broken ("function ".toList ++ name ++ " never defined".toList)
          | some function => do
              let slots ← function.parameters.zipIdx.mapM fun (parameter, index) => do
                pure (parameter, ← argumentSlot arguments[index]? valueOf)
              let outer := (← get).frame
              modify ({ · with frame := some slots })
              let result ← attempt (perform program command fuel function.body)
              modify ({ · with frame := outer })
              match result with
              | .ok () => pure .unset
              | .error (.returned datum) => pure datum
              | .error leaving => throw leaving
      | .readLine target none => do
          let found ← mainRecord?
          let place ← target.mapM (place program command fuel)
          received place found
      | .readLine target (some file) => do
          let name ← textFor file
          let place ← target.mapM (place program command fuel)
          let whole : Reporting (Option Reader) := do
            let content ← (contentOf name : Work (Except IoCause Octets))
            pure (content.toOption.map ({ rest := · }))
          match ← readerRecord name whole with
          | some line => received place line
          | none => pure (.number (-1))
      | .readOutput source target => do
          let text ← textFor source
          let place ← target.mapM (place program command fuel)
          match ← readerRecord text (outputOf command text) with
          | some line => received place line
          | none => pure (.number (-1))
      | .builtin function arguments => do
          match function, arguments.getD [] with
          | "length", [] => pure (.number (.ofNat (← get).record.length))
          | "length", [.name name] => do
              match slotOf? (← get) name with
              | some (.array index) | some (.undecided index) =>
                  pure (.number (.ofNat (tableOf (← get) index).entries.length))
              | _ => pure (.number (.ofNat (← textFor (.name name)).length))
          | "split", text :: .name array :: rest => do
              let text ← textFor text
              let separator ←
                match rest with
                | [] => separatorOf (← globalText "FS")
                | .pattern _ regex :: _ => pure (.pattern regex)
                | term :: _ => separatorOf (← textFor term)
              let parts := split separator text
              let index ← arrayOf array
              setTable index (.ofParts (parts.map .input))
              pure (.number (.ofNat parts.length))
          | "match", [text, pattern] => do
              let text ← textFor text
              let regex ← regexFor pattern
              let found := LineMatch.from? regex 0 none text
              setGlobalNumber "RSTART" (found.elim 0 (·.start + 1))
              putName "RLENGTH".toList
                (.number (found.elim (-1) fun found => .ofNat found.length))
              pure (.number (.ofNat (found.elim 0 (·.start + 1))))
          | "sub", pattern :: replacement :: rest | "gsub", pattern :: replacement :: rest => do
              let regex ← regexFor pattern
              let replacement ← textFor replacement
              let target : Term := rest.head?.getD (.field (.number 0))
              let place ←
                match target with
                | .name _ | .element .. | .field _ => some <$> place program command fuel target
                | _ => pure none
              let text ←
                match place with
                | some place => textOf (← place.read)
                | none => textFor target
              let (changed, count) :=
                replaced regex replacement (function = "gsub") (text.length + 2) false none text
              if count != 0 then
                if let some place := place then place.write (.text changed)
              pure (.number (.ofNat count))
          | "sprintf", template :: terms => do
              let template ← textFor template
              let values ← terms.mapM valueOf
              let formatted := format (← conversion) template values
              match formatted.refusal with
              | none => pure (.text formatted.text)
              | some refusal => refusedFormat "sprintf" refusal template
          | "rand", _ => do
              let seed := nextSeed (← get).seed
              modify ({ · with seed })
              pure (.number (Float.ofNat seed / 2147483648.0))
          | "srand", terms => do
              let before := (← get).seed
              let seed ← terms.head?.mapM valueOf
              modify ({ · with seed := (truncated ((seed.getD .unset).toNumber)).toNat })
              pure (.number (.ofNat before))
          | "system", [term] => do
              let text ← textFor term
              flush fun _ => true
              let status ← command text
              pure (.number (.ofNat status))
          | "close", term :: _ => do
              let name ← textFor term
              pure (.number (Float.ofInt (← close command name)))
          | "fflush", [] => do
              flush fun _ => true
              pure (.number 0)
          | "fflush", term :: _ => do
              let name ← textFor term
              let isKnown := name = outputName || (← get).writers.any (·.name == name)
              flush fun writer => writer.name == name
              pure (.number (if isKnown then 0 else -1))
          | function, terms => do
              let values ← terms.mapM valueOf
              match plainFunction? function values (← conversion) with
              | some datum => pure datum
              | none => broken ("wrong number of arguments in call to ".toList ++ function.toList)

/-- The key that terms mean. -/
def keyFor (program : Program) (command : Octets → Work Nat) :
    Nat → List Term → Reporting Key
  | 0, _ => broken "out of memory".toList
  | fuel + 1, terms => do
      let values ← terms.mapM (value program command fuel)
      match values with
      | [datum] => pure (.ofDatum (← conversion) datum)
      | values => do
          pure { text := (← globalText "SUBSEP").intercalate (← values.mapM textOf) }

/-- The place that a term means. -/
def place (program : Program) (command : Octets → Work Nat) : Nat → Term → Reporting Place
  | 0, _ => broken "out of memory".toList
  | fuel + 1, term => do
      match term with
      | .element array indices => do
          let key ← keyFor program command fuel indices
          pure (.element (← arrayOf array) key)
      | .field index => do pure (.field (← fieldIndex (← value program command fuel index)))
      | .name name => pure (.name name)
      | _ => broken "syntax error".toList

/-- Does a statement. -/
def perform (program : Program) (command : Octets → Work Nat) :
    Nat → Statement → Reporting Unit
  | 0, _ => broken "out of memory".toList
  | fuel + 1, statement => do
      let valueOf (term : Term) : Reporting Datum := value program command fuel term
      match statement with
      | .block statements => do
          for statement in statements do perform program command fuel statement
      | .compute term => do
          let _ ← valueOf term
      | .print terms isFormatted outlet => do
          let values ← terms.mapM valueOf
          let text ←
            if isFormatted then
              match values with
              | [] => pure []
              | template :: values => do
                  let template ← textOf template
                  let formatted := format (← conversion) template values
                  match formatted.refusal with
                  | none => pure formatted.text
                  | some refusal => do
                      if outlet.isNone then writeOut .new outputName formatted.text
                      refusedFormat "printf" refusal template
            else do
              let numbers ← globalText "OFMT"
              let texts := values.map (·.toText numbers)
              let separator ← globalText "OFS"
              let record := (← get).record
              let text := if terms.isEmpty then record else separator.intercalate texts
              pure (text ++ (← globalText "ORS"))
          match outlet with
          | none => writeOut .new outputName text
          | some (outlet, target) => do
              let name ← textOf (← valueOf target)
              writeOut outlet name text
      | .choose condition yes no => do
          if (← valueOf condition).isTrue then perform program command fuel yes
          else
            match no with
            | some no => perform program command fuel no
            | none => pure ()
      | .repeatWhile condition body => do
          if (← valueOf condition).isTrue then
            if ← turn program command fuel body then
              perform program command fuel (.repeatWhile condition body)
      | .repeatUntil body condition => do
          if ← turn program command fuel body then
            if (← valueOf condition).isTrue then
              perform program command fuel (.repeatUntil body condition)
      | .count start condition step body => do
          if let some start := start then perform program command fuel start
          let isOn ←
            match condition with
            | some condition => do pure (← valueOf condition).isTrue
            | none => pure true
          if isOn then
            if ← turn program command fuel body then
              perform program command fuel (.count step condition step body)
      | .forEach name array body => do
          let index ← arrayOf array
          let table := (tableOf (← get) index).withNames
          setTable index table
          for key in table.keys do
            putName name (.text key)
            unless ← turn program command fuel body do break
      | .next => throw .next
      | .nextFile => throw .nextFile
      | .leave => throw .left
      | .renew => throw .renewed
      | .exit status => do
          if let some status := status then
            let code := truncated (← valueOf status).toNumber
            modify ({ · with status := (code.emod 256).toNat })
          throw .exit
      | .return_ term => do
          let result ←
            match term with
            | some term => valueOf term
            | none => pure .unset
          throw (.returned result)
      | .delete array none => do setTable (← arrayOf array) {}
      | .delete array (some indices) => do
          let key ← keyFor program command fuel indices
          let index ← arrayOf array
          setTable index ((tableOf (← get) index).erase key)

/-- Does the body of a loop; whether the loop goes on. -/
def turn (program : Program) (command : Octets → Work Nat) : Nat → Statement → Reporting Bool
  | 0, _ => broken "out of memory".toList
  | fuel + 1, body => do
      match ← attempt (perform program command fuel body) with
      | .ok () | .error .renewed => pure true
      | .error .left => pure false
      | .error leaving => throw leaving

end

/-! ## Programs -/

/-- How often loops may turn. -/
def turnLimit : Nat := 1000000

/-- Whether a rule, which is number `index`, is meant for the record. -/
def isSelected (program : Program) (command : Octets → Work Nat) (index : Nat) (rule : Rule) :
    Reporting Bool := do
  let holds (term : Term) : Reporting Bool := do
    pure (← value program command turnLimit term).isTrue
  match rule.selection with
  | .start | .finish => pure false
  | .always => pure true
  | .when condition => holds condition
  | .range first last => do
      let isInside := (← get).active.contains index
      if isInside || (← holds first) then
        let isOver ← holds last
        modify fun machine =>
          let others := machine.active.filter (· != index)
          { machine with active := if isOver then others else index :: others }
        pure true
      else pure false

/-- Does what a rule says. -/
def applyRule (program : Program) (command : Octets → Work Nat) (rule : Rule) :
    Reporting Unit :=
  perform program command turnLimit (rule.body.getD (.print [] false none))

/-- Applies the rules to one record after another; the number bounds how many. -/
def applyAll (program : Program) (command : Octets → Work Nat) : Nat → Reporting Unit
  | 0 => pure ()
  | bound + 1 => do
      match ← mainRecord? with
      | none => pure ()
      | some record => do
          setRecord record
          let result ← attempt do
            for (rule, index) in program.rules.zipIdx do
              if ← isSelected program command index rule then applyRule program command rule
          match result with
          | .ok () | .error .next => applyAll program command bound
          | .error .nextFile => do
              modify ({ · with current := none })
              applyAll program command bound
          | .error leaving => throw leaving

/-- Applies the rules that are meant for the start or for the end. -/
def applyOnce (program : Program) (command : Octets → Work Nat)
    (isMeant : Selection → Bool) : Reporting Unit := do
  for rule in program.rules do
    if isMeant rule.selection then applyRule program command rule

/-- How many records may be read. -/
def recordLimit : Nat := 10000000

/-- Runs a program: the rules for the start, those for records if there are any, and those for the
end, which are left out only if the program ends among them. -/
def Program.run (program : Program) (command : Octets → Work Nat) : Reporting Unit := do
  let isStart (selection : Selection) : Bool := match selection with | .start => true | _ => false
  let isFinish (selection : Selection) : Bool := match selection with | .finish => true | _ => false
  let hasRecords := program.rules.any fun rule => !isStart rule.selection
  let body ← attempt do
    applyOnce program command isStart
    if hasRecords then applyAll program command recordLimit
  match body with
  | .ok () | .error .exit => applyOnce program command isFinish
  | .error leaving => throw leaving

/-- The variables that a program starts with. -/
def startGlobals : List (Octets × Slot) :=
  [("FS", " "), ("OFS", " "), ("ORS", "\n"), ("RS", "\n"), ("SUBSEP", "\x1c"),
    ("CONVFMT", "%.6g"), ("OFMT", "%.6g"), ("FILENAME", "")].map fun (name, text) =>
      (name.toList, .datum (.text text.toList))

/-- How a program starts: with the variables that have been given, the environment, and its
operands. -/
def startMachine (given : List (Octets × Octets)) (environment : List (Octets × Octets))
    (name : Octets) (operands : List Octets) : Machine :=
  let words := (name :: operands).zipIdx.map fun (word, index) => (Key.ofIndex index, word)
  let known := environment.map fun (name, text) => ({ text := name : Key }, text)
  let table (entries : List (Key × Octets)) : Table :=
    entries.foldl (fun table (key, text) => table.put key (.input text)) {}
  let counters := ["NR", "FNR", "RSTART", "RLENGTH"].map fun name =>
    (name.toList, Slot.datum (if name = "NR" || name = "FNR" then .number 0 else .unset))
  let own : List (Octets × Slot) :=
    startGlobals ++ counters ++
      [("ARGC".toList, .datum (.number (.ofNat words.length))), ("ARGV".toList, .array 0),
       ("ENVIRON".toList, .array 1)]
  { globals := given.foldl (fun globals (name, text) =>
      putEntry name (.datum (outsideDatum text)) globals) own
    arrays := [(0, table words), (1, table known)]
    arrayCount := 2 }

/-- What is said where a program stops because of a fault while it runs. -/
def placeText (machine : Machine) : Octets :=
  let text (name : String) : Octets := (globalDatum machine name).toText "%.6g".toList
  "\tFILENAME=\"".toList ++ text "FILENAME" ++ "\" FNR=".toList ++ text "FNR" ++
    " NR=".toList ++ text "NR" ++ ['\n']

/-- How programs are given, which is said if none is. -/
def usage : String :=
  "Usage: mawk [Options] [Program] [file ...]\n\nProgram:\n" ++
  "    The -f option value is the name of a file containing program text.\n" ++
  "    If no -f option is given, a \"--\" ends option processing; the following\n" ++
  "    parameters are the program text.\n\nOptions:\n" ++
  "    -f program-file  Program  text is read from file instead of from the\n" ++
  "                     command-line.  Multiple -f options are accepted.\n" ++
  "    -F value         sets the field separator, FS, to value.\n" ++
  "    -v var=value     assigns value to program variable var.\n" ++
  "    --               unambiguous end of options.\n\n" ++
  "    Implementation-specific options are prefixed with \"-W\".  They can be\n" ++
  "    abbreviated:\n\n" ++
  "    -W version       show version information and exit.\n" ++
  "    -W compat        pre-POSIX 2001.\n" ++
  "    -W dump          show assembler-like listing of program and exit.\n" ++
  "    -W help          show this message and exit.\n" ++
  "    -W interactive   set unbuffered output, line-buffered input.\n" ++
  "    -W exec file     use file as program as well as last option.\n" ++
  "    -W posix         stricter POSIX checking.\n" ++
  "    -W random=number set initial random seed.\n" ++
  "    -W sprintf=number adjust size of sprintf buffer.\n" ++
  "    -W usage         show this message and exit.\n"

/-- The options in front of the arguments with their values, the latest first, and the other
arguments; the first number bounds how many there are. -/
def givenOptions (given : List (Char × Octets)) : Nat → List Octets →
    Except Octets (List (Char × Octets) × List Octets)
  | 0, rest => .ok (given.reverse, rest)
  | bound + 1, rest =>
      match rest with
      | ['-', '-'] :: rest => .ok (given.reverse, rest)
      | ('-' :: letter :: more) :: rest =>
          if letter = 'F' || letter = 'v' || letter = 'f' then
            match more, rest with
            | [], value :: rest => givenOptions ((letter, value) :: given) bound rest
            | [], [] => .error ("option -".toList ++ letter :: " lacks argument".toList)
            | more, rest => givenOptions ((letter, more) :: given) bound rest
          else .error ("not an option: -".toList ++ letter :: more)
      | rest => .ok (given.reverse, rest)

/-- Complains with a text. -/
def complain (text : Octets) : Work Nat := do
  let _ ← Work.writeTo 2 ("awk: ".toList ++ text ++ ['\n'])
  pure 2

/-- Runs a program with its operands; `command` runs a command. -/
def Program.start (program : Program) (command : Octets → Work Nat) (machine : Machine) :
    Work Nat := do
  let (result, machine) ← (program.run command).run machine
  let status ←
    match result with
    | .error (.broken text) => do
        let _ ← complain text
        if "run time error".toList.isPrefixOf text then
          let _ ← Work.writeTo 2 (placeText machine)
        pure 2
    | _ => pure machine.status
  let (commands, files) := machine.writers.partition (·.isCommand)
  for writer in commands ++ files do
    let _ ← finishWriter command writer
  if (← get).hasLostOutput then
    modify ({ · with hasLostOutput := false })
    complain "close failed on file \"/dev/stdout\" (Bad file descriptor)".toList
  else pure status

/-- Reports on records as a program says; `command` runs a command. -/
def awk (command : Octets → Work Nat) (environment : List (Octets × Octets)) :
    Utility := fun arguments => do
  match givenOptions [] (arguments.length + 1) arguments with
  | .error text => complain text
  | .ok (given, rest) => do
      let names := Utility.valuesOf given 'f'
      let contents ← names.mapM fun name => do
        pure ((← contentOf name).mapError fun cause =>
          "cannot open \"".toList ++ name ++ "\" (".toList ++ (causeText cause).toList ++ [')'])
      let unassigned := (Utility.valuesOf given 'v').filter fun text => (assignment? text).isNone
      match contents.mapM id, unassigned with
      | _, text :: _ => complain ("improper assignment: -v ".toList ++ text)
      | .error text, [] => complain text
      | .ok texts, [] =>
          let (source?, operands) : Option Octets × List Octets :=
            if texts.isEmpty then (rest.head?, rest.drop 1)
            else (some (['\n'].intercalate texts), rest)
          match source?.map Program.read with
          | none => do
              let _ ← Work.writeTo 2 usage.toList
              pure 0
          | some (.error fault) =>
              complain ((names.getLast?).elim [] (· ++ ": ".toList) ++ fault.message)
          | some (.ok program) =>
              let separators := (Utility.valuesOf given 'F').map ("FS".toList, ·)
              let assigned := (Utility.valuesOf given 'v').filterMap assignment?
              program.start command
                (startMachine (separators ++ assigned) environment "awk".toList operands)

end Console.Shell.Report
