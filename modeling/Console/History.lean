import Console.Range
import Console.Storage
import Console.Text.Lines

/-!
# History

The lines entered so far.  A history file is shared with others, so it is only ever appended to:
a save writes the lines that were added since the last one and leaves everything else alone.
Windows on the history keep the numbers that the lines have in the whole of it.
-/

namespace Console

/-- Lines of a history with the number of the first one. -/
structure HistorySlice where
  start : Nat
  lines : List String
  deriving DecidableEq, Repr

namespace HistorySlice

/-- The lines with their numbers. -/
def entries (slice : HistorySlice) : List (Nat × String) :=
  (slice.lines.zipIdx slice.start).map fun (line, number) => (number, line)

/-- The first `count` lines. -/
def head (slice : HistorySlice) (count : Nat) : HistorySlice :=
  { slice with lines := slice.lines.take count }

/-- The last `count` lines. -/
def tail (slice : HistorySlice) (count : Nat) : HistorySlice :=
  let skipped := slice.lines.length - count
  ⟨slice.start + skipped, slice.lines.drop skipped⟩

/-- The lines of a range, which counts the lines of the slice from zero. -/
def select? (slice : HistorySlice) (range : LineRange) : Option HistorySlice :=
  (range.clamp slice.lines.length .zero).map fun span =>
    ⟨slice.start + span.first, span.of slice.lines⟩

/-- The lines that a test holds for, with their numbers. -/
def grep (slice : HistorySlice) (test : String → Bool) : List (Nat × String) :=
  slice.entries.filter fun (_, line) => test line

/-- The lines as a text to be entered again. -/
def joined (slice : HistorySlice) : String := joinWith "\n" slice.lines ++ "\n"

end HistorySlice

/-- The lines entered so far, oldest first; the first `saved` of them need no saving. -/
structure History where
  entries : List String := []
  saved : Nat := 0
  deriving DecidableEq, Repr

/-- Why a history was not saved. -/
inductive SaveError where
  /-- The file could not be looked at. -/
  | unread (cause : IoCause)
  /-- The file, which has that many lines, could not be appended to. -/
  | unwritten (onDisk : Nat) (cause : IoCause)
  deriving DecidableEq, Repr

namespace SaveError

/-- The cause of the failure. -/
def cause : SaveError → IoCause
  | unread cause => cause
  | unwritten _ cause => cause

end SaveError

/-- What a save found and did: the lines the file had and the lines written to it. -/
structure Saved where
  onDisk : Nat
  written : Nat
  deriving DecidableEq, Repr

namespace History

/-- The number of lines. -/
def size (history : History) : Nat := history.entries.length

/-- Adds a line; its number is the size before. -/
def push (history : History) (line : String) : History :=
  { history with entries := history.entries ++ [line] }

/-- The line with a number. -/
def get? (history : History) (number : Nat) : Option String := history.entries[number]?

/-- The lines before a number. -/
def upTo (history : History) (number : Nat) : HistorySlice :=
  ⟨0, history.entries.take number⟩

/-- All lines. -/
def all (history : History) : HistorySlice := history.upTo history.size

/-- The lines of a range as a text to be entered again. -/
def replay? (history : History) (range : LineRange) : Option String :=
  (history.all.select? range).map HistorySlice.joined

/-- Forgets all lines.  The history file is left alone. -/
def clear (_ : History) : History := {}

/-- The lines that the next save writes. -/
def pending (history : History) : List String := history.entries.drop history.saved

/-- The lines in the bytes of a history file; what is not valid is replaced. -/
def linesOfFile (bytes : Utf8.Bytes) : List String := linesOf (Utf8.toTextLossy bytes)

/-- The bytes that a save appends for lines. -/
def bytesOf (lines : List String) : Utf8.Bytes :=
  lines.flatMap fun line => Utf8.ofText line ++ [0x0A]

/-- Adds the lines of a history file, all of which count as saved, and says how many there are;
`none` if there is no file. -/
def load (history : History) (path : String) (storage : Storage) :
    Except IoCause (Option Nat) × History × Storage :=
  match storage.read (.path path) with
  | (.ok bytes, storage) =>
      let lines := linesOfFile bytes
      let entries := history.entries ++ lines
      (.ok (some lines.length), ⟨entries, entries.length⟩, storage)
  | (.error .notFound, storage) => (.ok none, history, storage)
  | (.error cause, storage) => (.error cause, history, storage)

/-- The number of lines that a file has, as far as newlines end them; zero if it is missing. -/
def linesOnDisk (path : String) (storage : Storage) : Except IoCause Nat × Storage :=
  match storage.read (.path path) with
  | (.ok bytes, storage) => (.ok (bytes.count 0x0A), storage)
  | (.error .notFound, storage) => (.ok 0, storage)
  | (.error cause, storage) => (.error cause, storage)

/-- Appends the pending lines to a file that has been opened, in one piece. -/
def writePending (history : History) (path : String) (storage : Storage) :
    Except IoCause Unit × Storage :=
  if history.pending.isEmpty then (.ok (), storage)
  else storage.append (.path path) (bytesOf history.pending)

/-- Opens a file and appends the pending lines to it. -/
def appendPending (history : History) (path : String) (storage : Storage) :
    Except IoCause Unit × Storage :=
  match storage.openAppend (.path path) with
  | (.error cause, storage) => (.error cause, storage)
  | (.ok (), storage) => history.writePending path storage

/-- All lines count as saved. -/
def flushed (history : History) : History := { history with saved := history.size }

/-- Appends the lines added since the last save to a file. -/
def save (history : History) (path : String) (storage : Storage) :
    Except SaveError Saved × History × Storage :=
  match linesOnDisk path storage with
  | (.error cause, storage) => (.error (.unread cause), history, storage)
  | (.ok onDisk, storage) =>
      match history.appendPending path storage with
      | (.error cause, storage) => (.error (.unwritten onDisk cause), history, storage)
      | (.ok (), storage) => (.ok ⟨onDisk, history.pending.length⟩, history.flushed, storage)

end History

end Console
