import Console.Process
import Console.Text.Octets

/-!
# Streams

What processes read from and write to: files, pipes, and the console.  A stream remembers how far
it has been read or written, and several descriptors may share it.  A file that is removed goes on
for the streams that have it open.
-/

namespace Console.Shell

/-- What a stream leads to. -/
inductive Medium where
  | file (location : Location)
  /-- A file that has been removed. -/
  | removed (content : Utf8.Bytes)
  /-- What is written can be read once. -/
  | pipe (content : Utf8.Bytes)
  /-- There is nothing to read. -/
  | nothing
  | output
  | errors
  deriving DecidableEq, Repr

/-- A stream. -/
structure Stream where
  medium : Medium
  position : Nat := 0
  appends : Bool := false
  isReadable : Bool := true
  isWritable : Bool := true
  deriving DecidableEq, Repr

/-- Who may use a file, and when it was changed last. -/
structure Traits where
  mode : Nat
  /-- In milliseconds since the beginning of 1970. -/
  time : Int
  deriving DecidableEq, Repr

/-- The time at which the first process starts; nothing depends on which it is. -/
def startTime : Int := 1750000000000

/-- What processes share. -/
structure System where
  storage : Storage
  streams : List Stream
  /-- What has been written to the console as output and as errors. -/
  output : Utf8.Bytes := []
  errors : Utf8.Bytes := []
  /-- The number that the next process gets. -/
  nextProcess : Nat := 1000
  /-- The signals that processes have been sent from elsewhere and not yet received, each after the
  number of the process. -/
  signals : List (Nat × Nat) := []
  /-- What is known of files and directories besides their bytes, by the names along their paths. -/
  traits : List (List String × Traits) := []
  /-- The time. -/
  now : Int := startTime
  /-- The time at which what is running gets a signal, and that signal. -/
  deadline : Option (Int × Nat) := none

/-- What is wrong with an operation on a file, in the words of programs. -/
def causeText (cause : IoCause) : String :=
  let text := cause.message.toList
  let words := Octets.splitAt (· == '(') text
  match words with
  | [message, _] => (String.ofList message).trimAsciiEnd.toString
  | _ => cause.message

namespace System

/-- The streams of a process that is started at the console. -/
def start (storage : Storage) : System where
  storage := storage
  streams :=
    [{ medium := .nothing, isWritable := false },
     { medium := .output, isReadable := false },
     { medium := .errors, isReadable := false }]

/-- Adds a stream; its number is that of those before. -/
def add (system : System) (stream : Stream) : Nat × System :=
  (system.streams.length, { system with streams := system.streams ++ [stream] })

/-! ## Traits of files -/

/-- The names along the path to what is at a location. -/
def namesAt? (system : System) : Location → Option (List String)
  | .scratch => some []
  | .path text =>
      match system.storage.find text with
      | .ok (names, some _) => some names
      | _ => none

/-- What is known of the file or directory at the end of names.  What has been there from the start
is older than the first process, and what is outside is older still. -/
def traitsOf (system : System) (names : List String) : Traits :=
  match system.traits.lookup names with
  | some traits => traits
  | none =>
      let isFile := match system.storage.node? names with | some (.file _) => true | _ => false
      { mode := if isFile then 0o644 else 0o755
        time := if names.head? = some "/" then startTime - 86400000 else startTime - 1 }

/-- Changes what is known of a file or directory. -/
def withTraits (system : System) (names : List String) (change : Traits → Traits) : System :=
  let traits := change (system.traitsOf names)
  { system with traits := (names, traits) :: system.traits.filter (·.1 != names) }

/-- Forgets what is known of files and directories that are no longer there. -/
def forgetting (system : System) : System :=
  { system with
    traits := system.traits.filter fun (names, _) =>
      names.isEmpty || (system.storage.node? names).isSome }

/-- A file at a location has been changed; one that was not there before gets permissions, which the
mask takes some off. -/
def changed (system : System) (before : Storage) (mask : Nat) (location : Location) : System :=
  match system.namesAt? location with
  | none => system
  | some names =>
      let isNew := (before.content location).toOption.isNone
      system.withTraits names fun traits =>
        { mode := if isNew then 0o666 &&& (0o777 ^^^ mask) else traits.mode, time := system.now }

/-- All bytes that a stream leads to. -/
def contentOf (system : System) : Medium → Utf8.Bytes
  | .file location => (system.storage.content location).toOption.getD []
  | .removed content | .pipe content => content
  | .nothing | .output | .errors => []

/-- What a stream has still to give. -/
def remaining (system : System) (number : Nat) : Octets :=
  match system.streams[number]? with
  | some stream =>
      if stream.isReadable then
        Octets.ofBytes ((system.contentOf stream.medium).drop stream.position)
      else []
  | none => []

/-- Goes on in a stream past characters that have been read. -/
def advance (system : System) (number count : Nat) : System :=
  { system with
    streams := system.streams.modify number fun stream =>
      { stream with position := stream.position + count } }

/-- Bytes with others written over them at a place. -/
def splice (content : Utf8.Bytes) (position : Nat) (bytes : Utf8.Bytes) : Utf8.Bytes :=
  content.take position ++ List.replicate (position - content.length) 0 ++ bytes ++
    content.drop (position + bytes.length)

/-- Writes to a stream; none if it cannot be written to. -/
def write? (system : System) (number : Nat) (text : Octets) : Option System :=
  match system.streams[number]? with
  | none => none
  | some stream =>
      if !stream.isWritable then none
      else
        let bytes := Octets.toBytes text
        let content := system.contentOf stream.medium
        let position := if stream.appends then content.length else stream.position
        let written := splice content position bytes
        let moved (medium : Medium) : System :=
          { system with
            streams := system.streams.set number
              { stream with medium, position := position + bytes.length } }
        match stream.medium with
        | .file location =>
            let storage := system.storage.withContent location written
            some (({ moved stream.medium with storage } : System).changed system.storage 0 location)
        | .removed _ => some (moved (.removed written))
        | .pipe content =>
            some
              { system with
                streams :=
                  system.streams.set number { stream with medium := .pipe (content ++ bytes) } }
        | .nothing => some system
        | .output => some { system with output := system.output ++ bytes }
        | .errors => some { system with errors := system.errors ++ bytes }

/-- Opens a file to be read. -/
def openToRead (system : System) (location : Location) : Except IoCause (Nat × System) :=
  match system.storage.content location with
  | .ok _ | .error .isADirectory =>
      .ok (system.add { medium := .file location, isWritable := false })
  | .error cause => .error cause

/-- Opens a file to be written; one that is missing is made with the permissions that a mask leaves,
and `clears` says what becomes of the bytes in it. -/
def openToWrite (system : System) (mask : Nat) (location : Location)
    (clears appends reads : Bool) : Except IoCause (Nat × System) :=
  match system.storage.writable location with
  | .ok bytes =>
      let storage := system.storage.withContent location (if clears then [] else bytes)
      let opened : System := { system with storage }
      let isChanged := clears || (system.storage.content location).toOption.isNone
      .ok ((if isChanged then opened.changed system.storage mask location else opened).add
        { medium := .file location, appends, isReadable := reads })
  | .error cause => .error cause

/-- Streams keep the bytes of files that are no longer there. -/
def detach (before : System) (storage : Storage) : System :=
  { before with
    storage
    streams := before.streams.map fun stream =>
      match stream.medium with
      | .file location =>
          match before.storage.content location, storage.content location with
          | .ok bytes, .error _ => { stream with medium := .removed bytes }
          | _, _ => stream
      | _ => stream }

/-- Removes a file. -/
def remove (system : System) (location : Location) : Except IoCause System :=
  match { system.storage with faults := [] }.remove location with
  | (.ok (), storage) =>
      .ok (system.detach { storage with faults := system.storage.faults }).forgetting
  | (.error cause, _) => .error cause

/-- Writes a file anew; one that is missing is made with the permissions that a mask leaves. -/
def overwrite (system : System) (mask : Nat) (location : Location) (bytes : Utf8.Bytes) :
    Except IoCause System :=
  match system.storage.writable location with
  | .ok _ =>
      let written : System :=
        { system with storage := system.storage.withContent location bytes }
      .ok (written.changed system.storage mask location)
  | .error cause => .error cause

end System

end Console.Shell
