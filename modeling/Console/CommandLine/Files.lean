import Console.CommandLine

/-!
# Files of a run

Which files a run may ask for, and which of them it has changed.  Every file that a run reads is
named by an option, by the environment, or by a word of its input or of another file.
-/

namespace Console.CommandLine

/-- A word, and the parts of it that may be the name of a file: what follows an equals sign or the
letter of an option, and what stands before a line number. -/
def partsOf (word : String) : List String :=
  let after := (word.toList.dropWhile (· != '=')).drop 1
  let text := word.toList
  let file := (Commands.fileAndLine word).1
  [word, .ofList after, .ofList (text.drop 2), file].filter (!·.isEmpty)

/-- The names in a text. -/
def namesIn (text : String) : List String :=
  ((linesOf text).flatMap fun line => (wordsOf line).toOption.getD []).flatMap partsOf

/-- The directories that a path leads through, the outermost first. -/
def ancestors (path : String) : List String :=
  (List.range path.length).filterMap fun count =>
    if path.toList[count]? = some '/' && 0 < count then some (.ofList (path.toList.take count))
    else none

/-- The names in the contents of all files of a storage. -/
def namesHeld (storage : Storage) : List String :=
  storage.nodes.flatMap fun (_, node) =>
    match node with
    | .file content => namesIn (Utf8.toTextLossy content)
    | .directory | .sink => []

/-- The names that a run knows before it has read any file. -/
def namesGiven (invocation : Invocation) : List String :=
  invocation.arguments.flatMap partsOf ++ namesIn (Utf8.toTextLossy invocation.input) ++
    invocation.environment.configPath?.toList ++
    (({} : Config).historyPath? invocation.environment).toList

/-- The files of a storage by their paths. -/
def filesOf (storage : Storage) : List (String × Utf8.Bytes) :=
  storage.nodes.filterMap fun (names, node) =>
    match names, node with
    | "/" :: names, .file content => some ("/" ++ "/".intercalate names, content)
    | names, .file content => some ("/".intercalate names, content)
    | _, .directory | _, .sink => none

/-- The files that are new or have other contents in a later storage. -/
def written (before after : Storage) : List (String × Utf8.Bytes) :=
  (filesOf after).filter fun (path, content) => (filesOf before).lookup path != some content

/-- The files that a later storage does not have. -/
def removed (before after : Storage) : List String :=
  ((filesOf before).map (·.1)).filter fun path => ((filesOf after).lookup path).isNone

end Console.CommandLine
