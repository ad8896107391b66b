import Console.Shell.Glob
import Console.Shell.Number
import Console.Shell.Utility.Files

/-!
# Programs on texts

Parts of texts, their sizes, their order, and changes character by character.
-/

namespace Console.Shell.Utility

/-- Arguments in which a number after a dash counts as the value of an option. -/
def withCount (letter : Char) : List Octets → List Octets
  | ('-' :: c :: digits) :: rest =>
      if isDigit c && (c :: digits).all isDigit then ['-', letter] :: (c :: digits) :: rest
      else ('-' :: c :: digits) :: rest
  | arguments => arguments
where
  /-- Whether a character is a decimal digit. -/
  isDigit (c : Char) : Bool := '0' ≤ c && c ≤ '9'

/-- The parts of several files, each under its name if there are several. -/
def parts (program : String) (isTitled : Bool) (part : Octets → Octets) (names : List Octets) :
    Work Nat := do
  let names := if names.isEmpty then [['-']] else names
  let mut isFirst := true
  let mut status := 0
  for name in names do
    match ← textOf program name with
    | none => status := 1
    | some text =>
        if isTitled then
          let title := if name = ['-'] then "standard input".toList else name
          say ((if isFirst then [] else ['\n']) ++ "==> ".toList ++ title ++ " <==\n".toList)
        isFirst := false
        say (part text)
  pure status

/-- How much of a text is wanted. -/
structure Amount where
  number : Nat
  isLines : Bool
  /-- The sign in front of the number. -/
  sign : Option Char

/-- The amount that the options say. -/
def amountOf (given : List (Char × Octets)) : Except String Amount :=
  let given := given.filter fun (letter, _) => letter = 'n' || letter = 'c'
  match given.getLast? with
  | none => .ok ⟨10, true, none⟩
  | some (letter, value) =>
      let sign := value.head?.filter fun c => c = '+' || c = '-'
      let digits := if sign.isSome then value.drop 1 else value
      let (number, count, rest) := digitsOf 10 digits
      if 0 < count && rest.isEmpty then .ok ⟨number, letter = 'n', sign⟩
      else .error ("invalid number of " ++ (if letter = 'n' then "lines" else "bytes") ++ ": '" ++
        Octets.toText value ++ "'")

/-- A program that shows parts of files. -/
def showing (program : String) (part : {α : Type} → Amount → List α → List α) : Utility :=
  fun arguments =>
    withOptions program [('n', true), ('c', true), ('q', false), ('v', false)] 1
      (fun given names => do
        match amountOf given with
        | .error text => complain program text 1
        | .ok amount =>
            let isTitled := !has given 'q' && (has given 'v' || 1 < names.length)
            parts program isTitled (fun text =>
              if amount.isLines then (part amount (Octets.lines text)).flatten
              else part amount text) names) (withCount 'n' arguments)

/-- Shows the beginnings of files. -/
def head : Utility := showing "head" fun amount items =>
  if amount.sign = some '-' then items.take (items.length - amount.number)
  else items.take amount.number

/-- Shows the ends of files. -/
def tail : Utility := showing "tail" fun amount items =>
  if amount.sign = some '+' then items.drop (amount.number - 1)
  else items.drop (items.length - amount.number)

/-- Whether a character is blank. -/
def isSpace (c : Char) : Bool := isNumberBlank c

/-- The number of words in a text. -/
def wordCount (text : Octets) : Nat := ((Octets.splitAt isSpace text).filter (!·.isEmpty)).length

/-- The counts of a text that are wanted. -/
def countsOf (given : List (Char × Octets)) (text : Octets) : List Nat :=
  let isAll := given.isEmpty
  (if isAll || has given 'l' then [text.count '\n'] else []) ++
    (if isAll || has given 'w' then [wordCount text] else []) ++
    (if has given 'm' then [text.length] else []) ++
    (if isAll || has given 'c' then [text.length] else []) ++
    (if has given 'L' then [((wholeLines text).map List.length).foldl max 0] else [])

/-- Whether a descriptor leads to a file. -/
def isFileAt (descriptor : Nat) : Work Bool := do
  let state ← get
  match (state.descriptors.lookup descriptor).bind (state.system.streams[·]?) with
  | some stream =>
      match stream.medium with
      | .file _ | .removed _ => pure true
      | _ => pure false
  | none => pure false

/-- Counts lines, words and characters. -/
def wc : Utility :=
  withOptions "wc" [('l', false), ('w', false), ('c', false), ('m', false), ('L', false)] 1
    fun given names => do
      let isFile ← isFileAt 0
      let (texts, isWhole) ← textsOf "wc" names
      let rows := texts.map fun (name, text) =>
        (countsOf given text, if names.isEmpty then [] else name)
      let totals := (List.range (countsOf given []).length).map fun index =>
        let column := rows.map fun (counts, _) => counts[index]?.getD 0
        if has given 'L' && index + 1 = (countsOf given []).length then column.foldl max 0
        else total column
      let rows := if 1 < names.length then rows ++ [(totals, "total".toList)] else rows
      let size := total (texts.map fun (_, text) => text.length)
      let width :=
        if names.length ≤ 1 && (countsOf given []).length = 1 then 1
        else if (names.isEmpty || names.contains ['-']) && !isFile then 7
        else (countOctets size).length
      for (numbers, name) in rows do
        let columns := numbers.map fun number => (natColumn width number).toList
        say ([' '].intercalate columns ++ (if name.isEmpty then [] else ' ' :: name) ++ ['\n'])
      pure (if isWhole then 0 else 1)

/-! ## Characters -/

/-- The characters from one to another. -/
def charsBetween (low high : Char) : List Char :=
  (List.range (high.toNat + 1 - low.toNat)).map fun index => Char.ofNat (low.toNat + index)

/-- All characters of a class. -/
def charsOfClass (name : String) : List Char :=
  (charsBetween '\x00' '\u00ff').filter (isInClass name)

/-- The first character of a set, and what follows it. -/
def setChar : Octets → Option (Char × Octets)
  | [] => none
  | ['\\'] => some ('\\', [])
  | '\\' :: c :: rest =>
      let digits := ((c :: rest).take 3).takeWhile fun c => '0' ≤ c && c ≤ '7'
      if digits.isEmpty then
        let char :=
          match c with
          | 'a' => '\x07'
          | 'b' => '\x08'
          | 'f' => '\x0c'
          | 'n' => '\n'
          | 'r' => '\r'
          | 't' => '\t'
          | 'v' => '\x0b'
          | c => c
        some (char, rest)
      else some (Char.ofNat ((digitsOf 8 digits).1 % 256), (c :: rest).drop digits.length)
  | c :: rest => some (c, rest)

/-- The characters that a set names; the number is that of its characters. -/
def charSet : Nat → Octets → Except String (List Char)
  | 0, _ => .ok []
  | fuel + 1, text =>
      match text with
      | '[' :: ':' :: rest =>
          let name := rest.takeWhile (· != ':')
          match rest.drop name.length with
          | ':' :: ']' :: rest => (charSet fuel rest).map (charsOfClass (.ofList name) ++ ·)
          | _ => (charSet fuel (':' :: rest)).map ('[' :: ·)
      | text =>
          match setChar text with
          | none => .ok []
          | some (first, '-' :: rest) =>
              match setChar rest with
              | none => .ok [first, '-']
              | some (last, more) =>
                  if last < first then
                    .error ("range-endpoints of '" ++ String.ofList [first, '-', last] ++
                      "' are in reverse collating sequence order")
                  else (charSet fuel more).map (charsBetween first last ++ ·)
          | some (first, rest) => (charSet fuel rest).map (first :: ·)

/-- A text in which characters of a set come once where they came several times in a row. -/
def squeezed (isInSet : Char → Bool) : Octets → Octets
  | [] => []
  | [c] => [c]
  | c :: d :: rest =>
      if c = d && isInSet c then squeezed isInSet (d :: rest) else c :: squeezed isInSet (d :: rest)

/-- A text with each character of a set as the one at the same place in another set, whose last one
goes on. -/
def translated (replaced replacing : List Char) (text : Octets) : Octets :=
  match replacing.getLast? with
  | none => text
  | some last =>
      text.map fun c =>
        match (replaced.zipIdx.filter (·.1 == c)).getLast? with
        | some (_, place) => replacing[place]?.getD last
        | none => c

/-- Changes or removes characters. -/
def tr : Utility :=
  withOptions "tr" [('d', false), ('s', false), ('c', false), ('C', false), ('t', false)] 1
    fun given sets => do
      let deletes := has given 'd'
      let squeezes := has given 's'
      let operands := (deletes && squeezes, deletes || squeezes, sets.length)
      match operands, sets.mapM fun set => charSet set.length set with
      | (_, _, 0), _ => complainOfUse "tr" "missing operand" 1
      | (true, _, 1), _ | (_, false, 1), _ =>
          complainOfUse "tr"
            ("missing operand after '" ++ Octets.toText (sets.head?.getD []) ++ "'") 1
      | _, .error text => complain "tr" text 1
      | _, .ok named => do
          if 2 < sets.length || (deletes && !squeezes && sets.length = 2) then
            return (← complainOfUse "tr"
              ("extra operand '" ++ Octets.toText (sets.getLast?.getD []) ++ "'") 1)
          let first := named.head?.getD []
          let second := named[1]?.getD []
          let isComplement := has given 'c' || has given 'C'
          let from_ :=
            if isComplement then (charsBetween '\x00' '\u00ff').filter (!first.contains ·)
            else if has given 't' then first.take second.length
            else first
          let text ← Work.readAll 0
          let changed :=
            if deletes then text.filter (!from_.contains ·) else translated from_ second text
          let squeezeSet := if sets.length = 1 then from_ else second
          say (if squeezes then squeezed squeezeSet.contains changed else changed)
          pure 0

/-- Shows the characters of each line the other way round. -/
def rev : Utility := filter "rev" fun text =>
  (Octets.lines text).flatMap fun line =>
    (line.takeWhile (· != '\n')).reverse ++ line.dropWhile (· != '\n')

/-- Shows lines the other way round. -/
def tac : Utility := filter "tac" fun text => (Octets.lines text).reverse.flatten

/-! ## Copies and names -/

/-- Copies the input to the output and to files. -/
def tee : Utility :=
  withOptions "tee" [('a', false), ('i', false)] 1 fun given names => do
    let text ← Work.readAll 0
    say text
    let mut status := 0
    for name in names do
      let location ← Work.location name
      let state ← get
      let before := (state.system.storage.content location).toOption.getD []
      let bytes := (if has given 'a' then before else []) ++ Octets.toBytes text
      match state.system.overwrite state.mask location bytes with
      | .ok system => set { state with system }
      | .error cause => status ← complain "tee" (Octets.toText name ++ ": " ++ causeText cause) 1
    pure status

/-- A name without an ending, unless it is nothing else. -/
def withoutEnding (ending name : Octets) : Octets :=
  if ending.length < name.length && ending.reverse.isPrefixOf name.reverse then
    name.take (name.length - ending.length)
  else name

/-- Shows the last names in paths. -/
def basename : Utility :=
  withOptions "basename" [('a', false), ('s', true)] 1 fun given paths => do
    let isMany := !given.isEmpty
    match paths with
    | [] => complainOfUse "basename" "missing operand" 1
    | path :: rest =>
        if isMany then
          let ending := (given.lookup 's').getD []
          say (ofLines ((path :: rest).map fun path => withoutEnding ending (lastName path)))
          pure 0
        else
          match rest with
          | _ :: extra :: _ =>
              complainOfUse "basename" ("extra operand '" ++ Octets.toText extra ++ "'") 1
          | rest =>
              say (withoutEnding (rest.head?.getD []) (lastName path) ++ ['\n'])
              pure 0

/-- The directory that a path leads through last. -/
def directoryOf (path : Octets) : Octets :=
  let whole := (path.reverse.dropWhile (· == '/')).reverse
  let directory := (whole.reverse.dropWhile (· != '/')).dropWhile (· == '/')
  if !directory.isEmpty then directory.reverse
  else if path.head? = some '/' then ['/']
  else ['.']

/-- Shows the directories that paths lead through last. -/
def dirname : Utility := withOptions "dirname" [] 1 fun _ paths => do
  if paths.isEmpty then complainOfUse "dirname" "missing operand" 1
  else
    say (ofLines (paths.map directoryOf))
    pure 0

end Console.Shell.Utility
