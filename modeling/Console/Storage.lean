import Console.Text.Utf8

/-!
# Storage

The files the console reads and writes, as a value: directories and files by path, and one
scratch file that an edit may use.  Every operation names the cause when it fails, and operations
can be made to fail from outside, one by one, whatever the files are.
-/

namespace Console

/-- Why an operation on a file or a stream fails. -/
inductive IoCause where
  | notFound
  | permissionDenied
  | notADirectory
  | isADirectory
  | nameTooLong
  | nulInName
  | invalidUtf8
  | interrupted
  | sinkClosed
  /-- A cause stated in words of its own. -/
  | other (text : String)
  deriving DecidableEq, Repr

namespace IoCause

/-- The wording of the cause. -/
def message : IoCause → String
  | notFound => "No such file or directory (os error 2)"
  | permissionDenied => "Permission denied (os error 13)"
  | notADirectory => "Not a directory (os error 20)"
  | isADirectory => "Is a directory (os error 21)"
  | nameTooLong => "File name too long (os error 36)"
  | nulInName => "file name contained an unexpected NUL byte"
  | invalidUtf8 => "stream did not contain valid UTF-8"
  | interrupted => "operation interrupted"
  | sinkClosed => "sink closed"
  | other text => text

end IoCause

/-- Where a file is: the scratch file of an edit, or a path. -/
inductive Location where
  | scratch
  | path (text : String)
  deriving DecidableEq, Repr

/-- The name of a location; the scratch file has one that tells nothing of where it is. -/
def Location.text : Location → String
  | scratch => "<temp>"
  | path text => text

/-- What a path leads to. -/
inductive Node where
  | file (content : Utf8.Bytes)
  | directory
  /-- A device that is always empty, whatever is written to it. -/
  | sink
  deriving DecidableEq, Repr

/-- The directories and files, by the names along their paths; the scratch file while there is
one; and failures to come, one entry for each operation. -/
structure Storage where
  nodes : List (List String × Node) := []
  scratch : Option Utf8.Bytes := none
  faults : List (Option IoCause) := []
  deriving Repr

/-- A path as it is followed: the names of the directory where it starts, the steps from there, and
whether a slash ends it.  A step is a name, `.` or `..`. -/
structure Path where
  start : List String
  steps : List String
  isEnded : Bool
  deriving DecidableEq, Repr

namespace Path

/-- The parts of a text between slashes. -/
def splitSlashes : List Char → List (List Char)
  | [] => [[]]
  | c :: rest =>
      match splitSlashes rest with
      | [] => [[c]]
      | part :: parts => if c = '/' then [] :: part :: parts else (c :: part) :: parts

/-- The path that is written as a text; an absolute path starts at `/`. -/
def ofText (text : String) : Path :=
  let characters := text.toList
  { start := if characters.head? = some '/' then ["/"] else []
    steps := ((splitSlashes characters).filter (!·.isEmpty)).map .ofList
    isEnded := characters.getLast? = some '/' }

/-- The length in bytes from which on a path is too long. -/
def limit : Nat := 4096

/-- The length in bytes that a name may have. -/
def nameLimit : Nat := 255

/-- Why a text is no path, whatever the files are. -/
def refusal? (text : String) : Option IoCause :=
  if text.toList.contains '\x00' then some .nulInName
  else if text.isEmpty then some .notFound
  else if limit ≤ text.utf8ByteSize then some .nameTooLong
  else none

/-- The steps to follow to find what the path leads to; only a directory has a slash after it. -/
def allSteps (path : Path) : List String := if path.isEnded then path.steps ++ ["."] else path.steps

/-- Whether a step is no name. -/
def isDots (step : String) : Bool := step == "." || step == ".."

/-- The names of the directory around one.  Those around the directory where relative paths start
have no names of their own. -/
def parent (names : List String) : List String :=
  if names = ["/"] then ["/"]
  else if names.all (· == "..") then ".." :: names
  else names.dropLast

end Path

namespace Storage

/-- Whether names lead to a directory wherever the console runs: the root, the directory where
relative paths start, and those around it. -/
def isStart (names : List String) : Bool := names = ["/"] || names.all (· == "..")

/-- What the names lead to. -/
def node? (storage : Storage) (names : List String) : Option Node :=
  if isStart names then some .directory else storage.nodes.lookup names

/-- Follows steps from the names so far.  Only a directory can be left by a step; the last name may
be missing. -/
def follow (storage : Storage) (names : List String) :
    List String → Except IoCause (List String × Option Node)
  | [] => .ok (names, storage.node? names)
  | step :: rest =>
      match storage.node? names with
      | none => .error .notFound
      | some .directory =>
          if step = "." then storage.follow names rest
          else if step = ".." then storage.follow (Path.parent names) rest
          else if Path.nameLimit < step.utf8ByteSize then .error .nameTooLong
          else storage.follow (names ++ [step]) rest
      | some _ => .error .notADirectory

/-- What a path leads to, and the names along it; `none` if only the last name is missing. -/
def find (storage : Storage) (text : String) : Except IoCause (List String × Option Node) :=
  match Path.refusal? text with
  | some cause => .error cause
  | none =>
      let path := Path.ofText text
      storage.follow path.start path.allSteps

/-- What a path leads to where a file is to be made if the last name is missing; that name may not
have a slash after it. -/
def findTarget (storage : Storage) (text : String) :
    Except IoCause (List String × Option Node) :=
  let path := Path.ofText text
  if path.isEnded && !path.steps.getLast?.all Path.isDots && (Path.refusal? text).isNone then
    match storage.follow path.start (path.steps.dropLast ++ ["."]) with
    | .error cause => .error cause
    | .ok _ => .error .isADirectory
  else storage.find text

/-- Puts a node at the end of the names, in place of what is there. -/
def put (storage : Storage) (names : List String) (node : Node) : Storage :=
  { storage with nodes := storage.nodes.filter (·.1 != names) ++ [(names, node)] }

/-- Puts a node into the storage together with the directories it is in. -/
def place (storage : Storage) (text : String) (node : Node) : Storage :=
  let path := Path.ofText text
  let names := path.start ++ path.steps.filter (· != ".")
  let parents := (List.range names.length).filterMap fun count =>
    let parent := names.take count
    if (storage.node? parent).isSome then none else some (parent, Node.directory)
  ({ storage with nodes := storage.nodes ++ parents }).put names node

/-- The next operation begins: whether it is made to fail. -/
def attempt (storage : Storage) : Option IoCause × Storage :=
  match storage.faults with
  | [] => (none, storage)
  | fault :: faults => (fault, { storage with faults })

/-- So many operations begin, one after the other: whether one of them is made to fail, which is the
last then. -/
def attempts (storage : Storage) : Nat → Option IoCause × Storage
  | 0 => (none, storage)
  | count + 1 =>
      match storage.attempt with
      | (some fault, storage) => (some fault, storage)
      | (none, storage) => storage.attempts count

/-- Makes the scratch file with some bytes in it: it is created, written and flushed. -/
def makeScratch (storage : Storage) (bytes : Utf8.Bytes) : Except IoCause Unit × Storage :=
  match storage.attempts 3 with
  | (some fault, storage) => (.error fault, storage)
  | (none, storage) => (.ok (), { storage with scratch := some bytes })

/-- The storage once the scratch file is dropped. -/
def withoutScratch (storage : Storage) : Storage := { storage with scratch := none }

/-- The bytes of a file. -/
def content (storage : Storage) : Location → Except IoCause Utf8.Bytes
  | .scratch =>
      match storage.scratch with
      | some bytes => .ok bytes
      | none => .error .notFound
  | .path path =>
      match storage.find path with
      | .error cause => .error cause
      | .ok (_, some (.file bytes)) => .ok bytes
      | .ok (_, some .directory) => .error .isADirectory
      | .ok (_, some .sink) => .ok []
      | .ok (_, none) => .error .notFound

/-- Reads the bytes of a file. -/
def read (storage : Storage) (location : Location) : Except IoCause Utf8.Bytes × Storage :=
  match storage.attempt with
  | (some fault, storage) => (.error fault, storage)
  | (none, storage) => (storage.content location, storage)

/-- Reads the text of a file. -/
def readText (storage : Storage) (location : Location) : Except IoCause String × Storage :=
  match storage.read location with
  | (.error cause, storage) => (.error cause, storage)
  | (.ok bytes, storage) =>
      match Utf8.toText? bytes with
      | some text => (.ok text, storage)
      | none => (.error .invalidUtf8, storage)

/-- The bytes that a file to be written has so far: none if it is missing. -/
def writable (storage : Storage) : Location → Except IoCause Utf8.Bytes
  | .scratch => .ok (storage.scratch.getD [])
  | .path path =>
      match storage.findTarget path with
      | .error cause => .error cause
      | .ok (_, some (.file bytes)) => .ok bytes
      | .ok (_, some .directory) => .error .isADirectory
      | .ok (_, some .sink) | .ok (_, none) => .ok []

/-- The storage with a file's bytes replaced. -/
def withContent (storage : Storage) (location : Location) (bytes : Utf8.Bytes) : Storage :=
  match location with
  | .scratch => { storage with scratch := some bytes }
  | .path path =>
      match storage.find path with
      | .ok (_, some .sink) | .error _ => storage
      | .ok (names, _) => storage.put names (.file bytes)

/-- Opens a file to append to it, and makes it if it is missing. -/
def openAppend (storage : Storage) (location : Location) : Except IoCause Unit × Storage :=
  match storage.attempt with
  | (some fault, storage) => (.error fault, storage)
  | (none, storage) =>
      match storage.writable location with
      | .error cause => (.error cause, storage)
      | .ok bytes => (.ok (), storage.withContent location bytes)

/-- Appends bytes to a file in one piece. -/
def append (storage : Storage) (location : Location) (bytes : Utf8.Bytes) :
    Except IoCause Unit × Storage :=
  match storage.attempt with
  | (some fault, storage) => (.error fault, storage)
  | (none, storage) =>
      match storage.writable location with
      | .error cause => (.error cause, storage)
      | .ok before => (.ok (), storage.withContent location (before ++ bytes))

/-- Writes a file anew. -/
def overwrite (storage : Storage) (location : Location) (bytes : Utf8.Bytes) :
    Except IoCause Unit × Storage :=
  match storage.attempt with
  | (some fault, storage) => (.error fault, storage)
  | (none, storage) =>
      match storage.writable location with
      | .error cause => (.error cause, storage)
      | .ok _ => (.ok (), storage.withContent location bytes)

/-- Removes a file. -/
def remove (storage : Storage) (location : Location) : Except IoCause Unit × Storage :=
  match storage.attempt with
  | (some fault, storage) => (.error fault, storage)
  | (none, storage) =>
      match location with
      | .scratch =>
          match storage.scratch with
          | some _ => (.ok (), { storage with scratch := none })
          | none => (.error .notFound, storage)
      | .path path =>
          match storage.find path with
          | .error cause => (.error cause, storage)
          | .ok (names, some (.file _)) =>
              (.ok (), { storage with nodes := storage.nodes.filter (·.1 != names) })
          | .ok (_, some .directory) => (.error .isADirectory, storage)
          | .ok (_, some .sink) => (.error .permissionDenied, storage)
          | .ok (_, none) => (.error .notFound, storage)

/-- Whether a path leads to a file or a directory. -/
def holds (storage : Storage) (path : String) : Bool :=
  match storage.find path with
  | .ok (_, some _) => true
  | _ => false

/-- The files below the directory that relative paths start at, with their bytes. -/
def files (storage : Storage) : List (String × Utf8.Bytes) :=
  storage.nodes.filterMap fun (names, node) =>
    match node with
    | .file bytes =>
        if names.head? = some "/" || names.head? = some ".." then none
        else some ("/".intercalate names, bytes)
    | .directory | .sink => none

end Storage

end Console
