import Console.Pattern.Meaning
import Console.Pattern.Reader
import Console.Pattern.Search
import Console.Pattern.Threads
import Console.Pattern.Weight

/-!
# Patterns

A pattern is a regular expression as a text.  The groups of a match are numbered from one in the
order of their opening parentheses; a group that took no part in the match has no text.
-/

namespace Console

/-- Why a pattern cannot be used. -/
inductive PatternError where
  | mistake (source : String) (mistake : PatternMistake)
  | tooLarge
  deriving Repr

namespace PatternError

/-- The wording of the error. -/
def message : PatternError → String
  | mistake source found => found.message source
  | tooLarge =>
      "Compiled regex exceeds size limit of " ++ natText Load.limit ++ " bytes."

end PatternError

/-- How the first match of a pattern is found; both ways find the same. -/
inductive Finder where
  /-- Way by way: simple, but slow for a pattern that can match a text in many ways. -/
  | ways
  /-- All ways at once, along a net of states. -/
  | threads (net : Net)
  deriving Repr

/-- A pattern: its text, what it says, how many groups it has, and how its matches are found. -/
structure Pattern where
  source : String
  regex : Regex
  groups : Nat
  finder : Finder
  deriving Repr

namespace Pattern

/-- The expression that a pattern stands for. -/
def regex? (source : String) : Except PatternError Regex :=
  let read : Reading Regex := do
    let piece ← Piece.read source.toList
    let (regexes, _) ← piece.meaning {}
    return .sequence regexes
  match read with
  | .error mistake => .error (.mistake source mistake)
  | .ok regex => if regex.isTooLarge then .error .tooLarge else .ok regex

/-- Reads a pattern of which nothing is known. -/
def read (source : String) : Except PatternError Pattern := do
  let regex ← regex? source
  return ⟨source, regex, regex.groupCount, .threads (.ofRegex regex)⟩

/-- Reads a pattern that is known to match any text in few ways. -/
def readSimple (source : String) : Except PatternError Pattern := do
  let regex ← regex? source
  return ⟨source, regex, regex.groupCount, .ways⟩

/-- The texts of the groups in the first match; a group that took no part has none. -/
def captures? (pattern : Pattern) (text : String) : Option (List (Option String)) :=
  let indices := (List.range pattern.groups).map (· + 1)
  match pattern.finder with
  | .ways =>
      (pattern.regex.groupsByWays? text.toList).map fun groups =>
        indices.map fun index => (groups.lookup index).map .ofList
  | .threads net =>
      (net.search text.toList).map fun notes =>
        let characters := text.toList.toArray
        indices.map fun index => (Net.group? characters notes index).map .ofList

/-- Whether a pattern matches somewhere in a text. -/
def isMatch (pattern : Pattern) (text : String) : Bool := (pattern.captures? text).isSome

end Pattern

end Console
