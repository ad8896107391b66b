import Console.Shell.Utility.Pattern
import Console.Shell.Utility.Texts

/-!
# Searching lines

The lines of files that a pattern matches.
-/

namespace Console.Shell.Utility

/-- Whether one of several patterns matches a line, in the way that options say. -/
def lineMatches (given : List (Char × Octets)) (regexes : List LineRegex) (text : Octets) : Bool :=
  regexes.any fun regex =>
    match LineMatch.from? regex 0 none text with
    | none => false
    | some found =>
        if has given 'x' then
          (LineMatch.longest? regex none text).any (·.rest.isEmpty)
        else if has given 'w' then
          let isWordAt (index : Nat) : Bool := (text[index]?).any LinePattern.isWord
          !(0 < found.start && isWordAt (found.start - 1)) && !isWordAt (found.start + found.length)
        else true

/-- The parts of a line that a pattern matches; the number bounds their number. -/
def matchedParts (regex : LineRegex) : Nat → Option Char → Octets → List Octets
  | 0, _, _ => []
  | bound + 1, before, line =>
      match LineMatch.from? regex 0 before line with
      | none => []
      | some found =>
          let part := (line.drop found.start).take found.length
          let rest := line.drop (found.start + max found.length 1)
          let last := (line.take (found.start + max found.length 1)).getLast?
          (if part.isEmpty then [] else [part]) ++
            (if rest.isEmpty then [] else matchedParts regex bound last rest)

/-- The options that `grep` takes. -/
def grepLetters : List (Char × Bool) :=
  "ivcnqEFGxwolhsHLryaUz".toList.map (·, false) ++ "emfABC".toList.map (·, true)

/-- The long names of options of `grep`. -/
def grepNames : List (String × Char) :=
  [("ignore-case", 'i'), ("invert-match", 'v'), ("count", 'c'), ("line-number", 'n'),
   ("quiet", 'q'), ("silent", 'q'), ("extended-regexp", 'E'), ("fixed-strings", 'F'),
   ("line-regexp", 'x'), ("word-regexp", 'w'), ("only-matching", 'o'), ("files-with-matches", 'l'),
   ("files-without-match", 'L'), ("no-filename", 'h'), ("no-messages", 's'), ("recursive", 'r'),
   ("regexp", 'e'), ("max-count", 'm'), ("file", 'f'), ("text", 'a')]

/-- Which of a number of lines are shown: those that are chosen, with so many before and after
each. -/
def withContext (before after total : Nat) (chosen : List Nat) : List Nat :=
  (List.range total).filter fun index =>
    chosen.any fun center => center ≤ index + before && index ≤ center + after

/-- The files in directories, by their names from there. -/
def filesBelow (name : Octets) : Work (List Octets) := do
  match ← Work.find? name with
  | some (path, .directory) =>
      let before := if name.getLast? = some '/' then name else name ++ ['/']
      let found := (← get).system.storage.nodes.filterMap fun (other, node) =>
        match node with
        | .file _ =>
            if path.isPrefixOf other then
              some (before ++ Octets.ofText ("/".intercalate (other.drop path.length)))
            else none
        | _ => none
      pure (found.mergeSort Octets.isBefore)
  | _ => pure [name]

/-- The expressions that patterns say. -/
def grepRegexes (given : List (Char × Octets)) (patterns : List Octets) :
    LinePattern.Reading (List LineRegex) :=
  let form : PatternForm :=
    { isExtended := has given 'E', ignoresCase := has given 'i' || has given 'y' }
  (patterns.flatMap (Octets.splitAt (· == '\n'))).mapM fun pattern =>
    if has given 'F' then
      .ok (.plain (Regex.ofParts (pattern.map (LinePattern.char form))))
    else (LinePattern.read form pattern).map (·.1)

/-- Shows what is wanted of the lines of a file that are chosen; `isLater` says that lines have been
shown before. -/
def showFound (given : List (Char × Octets)) (regexes : List LineRegex) (isTitled isLater : Bool)
    (name : Octets) (lines : List Octets) (chosen : List Nat) : Work Unit := do
  let title := if isTitled then name else []
  let count (letter : Char) : Nat :=
    ((given.lookup letter).or (given.lookup 'C') |>.bind count?).getD 0
  let before := count 'B'
  let after := count 'A'
  if has given 'l' then
    unless chosen.isEmpty do say (name ++ ['\n'])
  else if has given 'L' then
    if chosen.isEmpty then say (name ++ ['\n'])
  else if has given 'c' then
    say (title ++ (if isTitled then [':'] else []) ++ countOctets chosen.length ++ ['\n'])
  else
    let shown := withContext before after lines.length chosen
    for (index, place) in shown.zipIdx do
      let last := (shown.take place).getLast?
      let isApart := match last with | some last => last + 1 < index | none => isLater
      if isApart && 0 < before + after then say "--\n".toList
      let line := lines[index]?.getD []
      let mark := if chosen.contains index then ':' else '-'
      let number := if has given 'n' then countOctets (index + 1) ++ [mark] else []
      let lead := (if isTitled then title ++ [mark] else []) ++ number
      if has given 'o' then
        if chosen.contains index then
          for regex in regexes.take 1 do
            say (ofLines ((matchedParts regex (line.length + 1) none line).map (lead ++ ·)))
      else say (lead ++ line ++ ['\n'])

/-- Shows the lines that a pattern matches. -/
def grep : Utility := fun arguments =>
  withOptions "grep" grepLetters 2 (fun given names => do
    let files ← (valuesOf given 'f').mapM (textOf "grep")
    let (patterns, names) : List Octets × List Octets :=
      match valuesOf given 'e' ++ (files.filterMap id).map Octets.withoutFinalNewlines with
      | [] => (names.take 1, names.drop 1)
      | patterns => (patterns, names)
    if patterns.isEmpty then
      let _ ← Work.writeTo 2 "Usage: grep [OPTION]... PATTERNS [FILE]...\n".toList
      let _ ← Work.writeTo 2 "Try 'grep --help' for more information.\n".toList
      return 2
    match grepRegexes given patterns with
    | .error fault => complain "grep" fault.message 2
    | .ok regexes => do
        let isDeep := has given 'r'
        let names ←
          if !isDeep then pure (if names.isEmpty then [['-']] else names)
          else if names.isEmpty then
            pure ((← filesBelow ['.']).map fun name => name.drop 2)
          else pure (← names.mapM filesBelow).flatten
        let isTitled := (1 < names.length || isDeep || has given 'H') && !has given 'h'
        let mut isAny := false
        let mut isWhole := true
        for name in names do
          let text ←
            match ← if name = ['-'] then pure (.ok (← Work.readAll 0)) else contentOf name with
            | .ok text => pure text
            | .error cause =>
                isWhole := false
                unless has given 's' do
                  let _ ← complain "grep" (Octets.toText name ++ ": " ++ causeText cause) 2
                continue
          let lines := wholeLines text
          let found := (lines.zipIdx.filter fun (line, _) =>
            lineMatches given regexes line != has given 'v').map (·.2)
          let chosen :=
            match (given.lookup 'm').bind count? with
            | some most => found.take most
            | none => found
          let name := if name = ['-'] then "(standard input)".toList else name
          let isLater := isAny
          unless chosen.isEmpty do isAny := true
          if !has given 'q' then
            let isSummary := has given 'c' || has given 'l' || has given 'L' || has given 'a'
            if text.contains '\x00' && !isSummary then
              unless chosen.isEmpty do
                let _ ← complain "grep" (Octets.toText name ++ ": binary file matches") 0
            else showFound given regexes isTitled isLater name lines chosen
        pure (if !isWhole && !(isAny && has given 'q') then 2 else if isAny then 0 else 1))
    (withShortNames grepNames (arguments.filter (!"--color".toList.isPrefixOf ·)))

end Console.Shell.Utility
