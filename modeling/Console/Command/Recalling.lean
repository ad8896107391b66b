import Console.Command.Registry
import Console.Numbering

/-!
# The history command

Showing, replaying and forgetting lines of the history.
-/

namespace Console.Commands

/-- The options of `hist`. -/
def histSpec : Flags.Spec where
  name := "hist"
  about := "Show and replay input history. History indices start at 0"
  options :=
    [{ long := "grep", short := some 'g', takes := .value "PATTERN" .text
       help := "Show lines matching this regex" },
     { long := "replay", short := some 'r', takes := .value "RANGE" .text, hyphenValues := true
       help := "Replay a line or range of lines, e.g. 3..5" },
     { long := "clear", short := some 'c', help := "Forget the history of this session" },
     { long := "head", takes := .optional "N" .count "10", help := "Show the first N lines" },
     { long := "tail", short := some 't', takes := .optional "N" .count "10"
       help := "Show the last N lines" },
     { long := "show", short := some 's', takes := .value "RANGE" .text, hyphenValues := true
       help := "Show a line or range of lines" },
     { long := "exclude", short := some 'e', help := "Hide lines that invoke commands" },
     Flags.helpOption]

/-- Replays the lines of a range. -/
def replayLines (around : Surroundings) (text : String) : Action Unit := do
  let range ← Action.readRange text
  let desk ← get
  match (around.past desk.history).select? range with
  | some slice => Action.inject slice.joined
  | none => throw (.noHistoryLines range)

/-- The pattern that lines have to match. -/
def grepPattern (given : Flags.Given) : Action (Option Pattern) :=
  match given.text? "grep" with
  | none => pure none
  | some source =>
      match Pattern.read source with
      | .ok pattern => pure (some pattern)
      | .error error => throw (.grepPattern error)

/-- The window on the history that is shown. -/
def shownSlice (past : HistorySlice) (given : Flags.Given) : Action HistorySlice :=
  match given.count? "head", given.count? "tail", given.text? "show" with
  | some count, _, _ => pure (past.head count)
  | none, some count, _ => pure (past.tail count)
  | none, none, some text => do
      let range ← Action.readRange text
      match past.select? range with
      | some slice => pure slice
      | none => throw (.noHistoryLines range)
  | none, none, none => pure past

/-- The lines of a window that are shown, with their numbers. -/
def shownEntries (catalogue : Catalogue) (pattern : Option Pattern) (exclude : Bool)
    (slice : HistorySlice) : List (Nat × String) :=
  let entries :=
    match pattern with
    | some pattern => slice.grep pattern.isMatch
    | none => slice.entries
  if exclude then entries.filter fun (_, line) => !catalogue.invokes line else entries

/-- Shows lines of the history. -/
def showHistory (around : Surroundings) (given : Flags.Given) : Action Unit := do
  let pattern ← grepPattern given
  let desk ← get
  let slice ← shownSlice (around.past desk.history) given
  let listing := numberedLines around.settings.colours
    (shownEntries around.catalogue pattern (given.has "exclude") slice)
  if !listing.isEmpty then Action.say listing

/-- Clears, replays or shows the history; the first of these that is wanted is done. -/
def hist : Handler := fun around arguments => do
  match ← Action.readFlags histSpec arguments with
  | none => pure .next
  | some given => do
      if given.has "clear" then
        modify fun desk => { desk with history := desk.history.clear }
        Action.say "History cleared."
      else match given.text? "replay" with
        | some range => replayLines around range
        | none => showHistory around given
      pure .next

/-- Registers the history command. -/
def registerRecalling (registry : Registry) : Registry :=
  registry.register <| .named "hist"
    "Show and replay input history. Type `hist --help` for more info." .variadic hist

end Console.Commands
