import Console.Shell.Report.Table
import Console.Shell.Report.Token
import Console.Shell.Utility.Basic

/-!
# The state of a report program

Named values, arrays, the record with its fields, and the files and commands that a program reads
from and writes to.
-/

namespace Console.Shell.Report

/-- What a name stands for. -/
inductive Slot where
  | datum (datum : Datum)
  | array (index : Nat)
  /-- Nothing so far; if it is used as an array, it is this one. -/
  | undecided (index : Nat)

/-- What a program writes to. -/
structure Writer where
  name : Octets
  /-- The number of the stream; without one it is the output of the program. -/
  stream : Option Nat
  isCommand : Bool
  /-- The texts that wait to be written, the latest first. -/
  waiting : List Octets := []

/-- What a program reads lines from. -/
structure Reader where
  /-- What is left of the text. -/
  rest : Octets
  /-- The status of the command that has made the text. -/
  status : Nat := 0

/-- How a program stands. -/
structure Machine where
  globals : List (Octets × Slot) := []
  /-- The parameters of the function that is run. -/
  frame : Option (List (Octets × Slot)) := none
  arrays : List (Nat × Table) := []
  arrayCount : Nat := 0
  record : Octets := []
  fields : List Datum := []
  /-- What is left of the file that records are read from. -/
  current : Option Octets := none
  /-- The number of the next operand. -/
  operand : Nat := 1
  /-- Whether records have been read from a file. -/
  hasInput : Bool := false
  /-- The files and commands that lines are read from. -/
  readers : List (Octets × Reader) := []
  /-- What has been written to, the latest first. -/
  writers : List Writer := []
  /-- The rules whose ranges have begun. -/
  active : List Nat := []
  status : Nat := 0
  seed : Nat := 0

/-- How statements stop those around them. -/
inductive Leaving where
  | next
  | nextFile
  | exit
  | returned (value : Datum)
  | left
  | renewed
  | broken (text : Octets)

/-- What statements do. -/
abbrev Reporting := ExceptT Leaving (StateT Machine Work)

/-- What happens to a state whatever comes of it. -/
def attempt {α : Type} (work : Reporting α) : Reporting (Except Leaving α) :=
  ExceptT.mk (Except.ok <$> work.run)

/-- Stops the program because of a fault. -/
def broken {α : Type} (text : Octets) : Reporting α := throw (.broken text)

/-! ## Named values -/

/-- What a name stands for. -/
def slotOf? (machine : Machine) (name : Octets) : Option Slot :=
  match machine.frame.bind fun entries => entries.lookup name with
  | some slot => some slot
  | none => machine.globals.lookup name

/-- Changes what a name stands for. -/
def putSlot (name : Octets) (slot : Slot) : Reporting Unit := modify fun machine =>
  let isLocal := machine.frame.any fun entries => (entries.lookup name).isSome
  if isLocal then { machine with frame := machine.frame.map (putEntry name slot) }
  else { machine with globals := putEntry name slot machine.globals }

/-- The value of a variable that is for all functions. -/
def globalDatum (machine : Machine) (name : String) : Datum :=
  match machine.globals.lookup name.toList with
  | some (.datum datum) => datum
  | _ => .unset

/-- The format in which numbers become texts. -/
def conversion : Reporting Octets := do
  pure ((globalDatum (← get) "CONVFMT").toText [])

/-- The text of a value. -/
def textOf (datum : Datum) : Reporting Octets := do pure (datum.toText (← conversion))

/-- The text of a variable that is for all functions. -/
def globalText (name : String) : Reporting Octets := do textOf (globalDatum (← get) name)

/-- Gives a variable that is for all functions a number. -/
def setGlobalNumber (name : String) (value : Nat) : Reporting Unit := modify fun machine =>
  { machine with
    globals := putEntry name.toList (.datum (.number (.ofNat value))) machine.globals }

/-- Adds one to a variable that is for all functions. -/
def countUp (name : String) : Reporting Unit := modify fun machine =>
  let value := (globalDatum machine name).toNumber + 1
  { machine with globals := putEntry name.toList (.datum (.number value)) machine.globals }

/-! ## Arrays -/

/-- The array that a name stands for. -/
def arrayOf (name : Octets) : Reporting Nat := do
  match slotOf? (← get) name with
  | some (.array index) => pure index
  | some (.undecided index) => do
      putSlot name (.array index)
      pure index
  | _ => do
      let index := (← get).arrayCount
      modify ({ · with arrayCount := index + 1 })
      putSlot name (.array index)
      pure index

/-- The table of an array. -/
def tableOf (machine : Machine) (index : Nat) : Table := (machine.arrays.lookup index).getD {}

/-- Changes the table of an array. -/
def setTable (index : Nat) (table : Table) : Reporting Unit :=
  modify fun machine =>
    { machine with arrays := (index, table) :: machine.arrays.filter (·.1 != index) }

/-- Gives the entry of a key a value. -/
def putElement (index : Nat) (key : Key) (value : Datum) : Reporting Unit := do
  setTable index ((tableOf (← get) index).put key value)

/-- The value of a key, which has an entry from then on. -/
def elementOf (index : Nat) (key : Key) : Reporting Datum := do
  let table := (tableOf (← get) index).touched key
  match table.value? key with
  | some datum => do
      setTable index table
      pure datum
  | none => do
      setTable index (table.put key .unset)
      pure .unset

/-! ## Fields -/

/-- What separates the parts of a text. -/
inductive Separator where
  | blanks
  | char (c : Char)
  | pattern (regex : LineRegex)
  /-- Every character is a part. -/
  | nothing

/-- The separator that a text means. -/
def separatorOf (text : Octets) : Reporting Separator :=
  match text with
  | [] => pure .nothing
  | [' '] => pure .blanks
  | [c] => pure (.char c)
  | text =>
      match PatternText.read text with
      | .ok regex => pure (.pattern regex)
      | .error fault =>
          broken ("run time error: ".toList ++ fault.message text)

/-- The parts of a text between matches of a pattern; the number bounds their number. -/
def partsBetween (regex : LineRegex) : Nat → Option Char → Octets → List Octets
  | 0, _, text => [text]
  | bound + 1, before, text =>
      match nonEmpty (text.length + 1) 0 before text with
      | some (start, length) =>
          let last := (text.take (start + length)).getLast?
          text.take start :: partsBetween regex bound last (text.drop (start + length))
      | none => [text]
where
  /-- The first match that is not empty: where it begins and how long it is. -/
  nonEmpty : Nat → Nat → Option Char → Octets → Option (Nat × Nat)
    | 0, _, _, _ => none
    | fuel + 1, offset, before, text =>
        match LineMatch.from? regex 0 before text with
        | none => none
        | some found =>
            if 0 < found.length then some (offset + found.start, found.length)
            else
              match text.drop found.start with
              | [] => none
              | c :: rest => nonEmpty fuel (offset + found.start + 1) (some c) rest

/-- Whether a character separates words. -/
def isWordBlank (c : Char) : Bool := c = ' ' || c = '\t' || c = '\n'

/-- The parts of a text between separators. -/
def split (separator : Separator) (text : Octets) : List Octets :=
  if text.isEmpty then []
  else
    match separator with
    | .blanks => (Octets.splitAt isWordBlank text).filter (!·.isEmpty)
    | .char c => Octets.splitAt (· == c) text
    | .pattern regex => partsBetween regex (text.length + 1) none text
    | .nothing => text.map ([·])

/-- Makes a text the record, and cuts it into fields. -/
def setRecord (record : Octets) : Reporting Unit := do
  let separator ← separatorOf (← globalText "FS")
  let isByLines := (← globalText "RS").isEmpty
  let fields :=
    match isByLines, separator with
    | true, .char _ | true, .pattern _ =>
        (Octets.splitAt (· == '\n') record).flatMap (split separator)
    | _, separator => split separator record
  modify ({ · with record, fields := fields.map .input })

/-- Makes the record anew of its fields. -/
def joinFields (fields : List Datum) : Reporting Unit := do
  let separator ← globalText "OFS"
  let texts ← fields.mapM textOf
  modify ({ · with record := separator.intercalate texts, fields })

/-- The value of a field; number 0 is the record. -/
def fieldOf (machine : Machine) (index : Nat) : Datum :=
  match index with
  | 0 => .input machine.record
  | index + 1 => machine.fields[index]?.getD .unset

/-- Gives a field a value. -/
def putField (index : Nat) (value : Datum) : Reporting Unit := do
  match index with
  | 0 => setRecord (← textOf value)
  | index + 1 => do
      let fields := (← get).fields
      let fields := fields ++ List.replicate (index + 1 - fields.length) (.text [])
      joinFields (fields.set index value)

/-- The value of a variable. -/
def readName (name : Octets) : Reporting Datum := do
  let machine ← get
  match slotOf? machine name with
  | some (.datum datum) => pure datum
  | some _ => pure .unset
  | none => pure (if name = "NF".toList then .number (.ofNat machine.fields.length) else .unset)

/-- Gives a variable a value. -/
def putName (name : Octets) (value : Datum) : Reporting Unit := do
  let isLocal := (← get).frame.any fun entries => (entries.lookup name).isSome
  if name = "NF".toList && !isLocal then
    let count := truncated value.toNumber
    if count < 0 then broken "run time error: negative value assigned to NF".toList
    let count := count.toNat
    let fields := (← get).fields
    joinFields (fields.take count ++ List.replicate (count - fields.length) (.text []))
  else putSlot name (.datum value)

/-! ## Records -/

/-- The next record of a text, and what is left of the text. -/
def nextRecord (separator text : Octets) : Reporting (Option (Octets × Octets)) :=
  match separator with
  | [] =>
      let text := text.dropWhile (· == '\n')
      if text.isEmpty then pure none
      else
        let record := paragraph text
        pure (some (Octets.withoutFinalNewlines record,
          (text.drop record.length).dropWhile (· == '\n')))
  | [c] =>
      if text.isEmpty then pure none
      else
        let record := text.takeWhile (· != c)
        pure (some (record, text.drop (record.length + 1)))
  | separator => do
      if text.isEmpty then pure none
      else
        match ← separatorOf separator with
        | .pattern regex =>
            match LineMatch.from? regex 0 none text with
            | some found =>
                pure (some (text.take found.start, text.drop (found.start + max found.length 1)))
            | none => pure (some (text, []))
        | _ => pure (some (text, []))
where
  /-- The text up to an empty line. -/
  paragraph : Octets → Octets
    | '\n' :: '\n' :: _ => []
    | c :: rest => c :: paragraph rest
    | [] => []

/-- Whether an operand gives a variable a value: the name and the value. -/
def assignment? (operand : Octets) : Option (Octets × Octets) :=
  let name := operand.takeWhile fun c => isNameStart c || c.isDigit
  if (name.head?.any isNameStart) && (operand.drop name.length).head? = some '=' then
    some (name, operand.drop (name.length + 1))
  else none

/-- A value that is given from outside. -/
def outsideDatum (text : Octets) : Datum := .input (withoutEscapes text.length text)

/-- The text of a file or of the input, or why it cannot be read. -/
def contentOf (name : Octets) : Work (Except IoCause Octets) := do
  if name = ['-'] || name = "/dev/stdin".toList then pure (.ok (← Work.readAll 0))
  else Utility.contentOf name

/-- The next record of the operands; none if there is none.  The number bounds the number of
operands. -/
def nextMain? : Nat → Reporting (Option Octets)
  | 0 => pure none
  | bound + 1 => do
      let machine ← get
      match machine.current with
      | some text =>
          match ← nextRecord (← globalText "RS") text with
          | some (record, rest) => do
              modify ({ · with current := some rest })
              pure (some record)
          | none => do
              modify ({ · with current := none })
              nextMain? bound
      | none =>
          let operands ← arrayOf "ARGV".toList
          let count := (truncated (globalDatum (← get) "ARGC").toNumber).toNat
          if machine.operand < count then
            modify ({ · with operand := machine.operand + 1 })
            let key := Key.ofIndex machine.operand
            let operand ← textOf (((tableOf (← get) operands).value? key).getD .unset)
            match assignment? operand with
            | some (name, value) => do
                putName name (outsideDatum value)
                nextMain? bound
            | none =>
                if operand.isEmpty then nextMain? bound
                else
                  putName "FILENAME".toList (.text operand)
                  setGlobalNumber "FNR" 0
                  match ← contentOf operand with
                  | .ok text => do
                      modify ({ · with current := some text, hasInput := true })
                      nextMain? bound
                  | .error .isADirectory => broken "read error (Is a directory)".toList
                  | .error cause =>
                      broken ("cannot open \"".toList ++ operand ++ "\" (".toList ++
                        (causeText cause).toList ++ [')'])
          else if machine.hasInput then pure none
          else do
            let text ← contentOf ['-']
            modify ({ · with hasInput := true, current := text.toOption })
            nextMain? bound

/-- The next record of the operands. -/
def mainRecord? : Reporting (Option Octets) := do
  let count := (truncated (globalDatum (← get) "ARGC").toNumber).toNat
  let found ← nextMain? (2 * count + 6)
  if found.isSome then
    countUp "NR"
    countUp "FNR"
  pure found

/-- The next record of a file or a command that is open, or that is opened by reading all of its
text; none if it cannot be. -/
def readerRecord (name : Octets) (whole : Reporting (Option Reader)) :
    Reporting (Option (Option Octets)) := do
  let reader ←
    match (← get).readers.lookup name with
    | some reader => pure (some reader)
    | none => whole
  match reader with
  | none => pure none
  | some reader => do
      let found ← nextRecord (← globalText "RS") reader.rest
      let rest := found.elim [] (·.2)
      modify fun machine =>
        { machine with readers := putEntry name { reader with rest } machine.readers }
      pure (some (found.map (·.1)))

end Console.Shell.Report
