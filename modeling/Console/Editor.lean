import Console.Error

/-!
# Editors

An editor is opened on a file at a line and has changed the file when it comes back.  What it does
may depend on how often it has been opened before.
-/

namespace Console

/-- What an edit comes to: whether it succeeds, the files after it, and what the editor shows and
complains about. -/
structure Edited where
  result : Except EditorError Unit := .ok ()
  storage : Storage
  shown : Utf8.Bytes := []
  complaints : Utf8.Bytes := []

/-- An editor. -/
structure Editor where
  /-- The command line it is logged as; `none` if openings are not logged. -/
  command : Option String := none
  /-- Edits a file; the first argument is the number of openings before. -/
  edit : Nat → Location → Nat → Storage → Edited

/-- An opening of the editor: on which file, at which line, with which bytes in it. -/
structure Opening where
  location : Location
  line : Nat
  content : Option Utf8.Bytes
  deriving DecidableEq, Repr

/-- What a scripted editor does to the file when it is opened. -/
inductive EditAction where
  | fail (text : String)
  /-- Removes the file, overwrites it, and appends to it, as far as wanted. -/
  | change (remove : Bool) (replacement : Option Utf8.Bytes) (addition : Option Utf8.Bytes)
  deriving DecidableEq, Repr

namespace EditAction

/-- The storage after an action; what cannot be done to the file is left undone. -/
def run : EditAction → Location → Storage → Edited
  | fail text, _, storage => { result := .error (.stated text), storage }
  | change remove replacement addition, location, storage =>
      let storage := if remove then (storage.remove location).2 else storage
      let storage :=
        match replacement with
        | some bytes => (storage.overwrite location bytes).2
        | none => storage
      let storage :=
        match addition with
        | some bytes => (storage.append location bytes).2
        | none => storage
      { storage }

end EditAction

namespace Editor

/-- The editor that does one action per opening, the last one over and over. -/
def scripted (actions : List EditAction) : Editor where
  edit count location _ storage :=
    match actions[min count (actions.length - 1)]? with
    | some action => action.run location storage
    | none => { storage }

end Editor

end Console
