import Console.CommandLine.Files
import Console.Shell.Run

/-!
# The program

Reads the standard input and the files that the run may ask for, runs, and writes down what has
changed.
-/

open Console

/-- All bytes of a stream. -/
partial def readAll (stream : IO.FS.Stream) (before : ByteArray) : IO ByteArray := do
  let piece ← stream.read 65536
  if piece.isEmpty then pure before else readAll stream (before ++ piece)

/-- Adds what a name leads to, which is a directory if it is there and has no bytes to read. -/
def loadFile (storage : Storage) (name : String) : IO Storage := do
  if storage.holds name then return storage
  try
    let content ← IO.FS.readBinFile name
    return storage.place name (.file content.toList)
  catch
    | .noFileOrDirectory .. => return storage
    | _ => return storage.place name .directory

/-- Adds what the given names lead to. -/
def loadFiles (storage : Storage) (names : List String) : IO Storage :=
  (names.flatMap fun name => CommandLine.ancestors name ++ [name]).foldlM loadFile storage

/-- Runs the program. -/
def main (arguments : List String) : IO UInt32 := do
  let names := ["XDG_CONFIG_HOME", "HOME", "APPDATA", "VISUAL", "EDITOR"]
  let environment ← names.filterMapM fun name => do
    return (← IO.getEnv name).map fun value => (name, value)
  let input ← readAll (← IO.getStdin) .empty
  let invocation : CommandLine.Invocation :=
    { host := Shell.host, arguments, environment, input := input.toList }
  let storage ← loadFiles {} (CommandLine.namesGiven invocation)
  let storage ← loadFiles storage (CommandLine.namesHeld storage)
  let storage ← loadFiles storage (CommandLine.namesHeld storage)
  match CommandLine.run 0x4000000000000000 { invocation with storage } with
  | none => return 1
  | some report => do
      for (path, content) in CommandLine.written storage report.storage do
        IO.FS.writeBinFile path ⟨content.toArray⟩
      for path in CommandLine.removed storage report.storage do
        IO.FS.removeFile path
      (← IO.getStdout).putStr report.output
      (← IO.getStderr).putStr report.errors
      return report.code.toUInt32
