import Console.Command.Builtin
import Console.Proofs.Pattern.Weight

/-!
# The patterns of the built-in commands

The weight of a pattern is summed up in hashed tables, which proofs cannot compute.  The three
patterns among the matchers of the built-in commands are shown to be small enough to be used, so
that the registry can be written out: what decides on who gets a line, and on what it is given,
stands in a list of all commands.
-/

namespace Console

namespace Pattern

/-- What a pattern says, whatever it weighs. -/
def reading (source : String) : Reading Regex := do
  let piece ← Piece.read source.toList
  let (regexes, _) ← piece.meaning {}
  return .sequence regexes

theorem regex?_of_reading {source : String} {regex : Regex} (read : reading source = .ok regex) :
    regex? source = if regex.isTooLarge then .error .tooLarge else .ok regex := by
  unfold reading at read
  unfold regex?
  dsimp only
  rw [read]

end Pattern

namespace Matcher

/-- The matcher of a simple pattern that says what an expression says. -/
def ofRegex (name source : String) (regex : Regex) : Matcher :=
  ⟨name, .pattern ⟨source, regex, regex.groupCount, .ways⟩⟩

theorem ofSimplePattern_eq_ofRegex (name : String) {source : String} {regex : Regex}
    (read : (Pattern.reading source).toOption = some regex)
    (light : ∀ isBackward, (regex.outline isBackward false).cost + 256 ≤ Load.limit) :
    ofSimplePattern name source = .ok (ofRegex name source regex) := by
  cases known : Pattern.reading source with
  | error mistake =>
      rw [known] at read
      cases read
  | ok found =>
      rw [known] at read
      cases read
      have simple : Pattern.readSimple source = .ok ⟨source, regex, regex.groupCount, .ways⟩ := by
        rw [Pattern.readSimple, Pattern.regex?_of_reading known, Regex.isTooLarge_of_cost light]
        rfl
      rw [ofSimplePattern, simple]
      rfl

end Matcher

namespace Commands

/-- A blank character. -/
def blank : Regex := .set Text.blanks false

/-- A character that does not end a line. -/
def inLine : Regex := .set [(0, 0x9), (0xB, 0xD7FF), (0xE000, 0x10FFFF)] false

def decimals : Regex := .times (.set EscapeClass.digits false) 1 none true

/-- A number, with a sign or without. -/
def lineNumber : Regex := .seq (.times (.literal ['-']) 0 (some 1) true) decimals

/-- The second number of a range. -/
def secondNumber : Regex := .seq (.literal ['.', '.']) (.capture 2 lineNumber)

/-- The number of a line, or two of them. -/
def range : Regex := .seq (.capture 1 lineNumber) (.times secondNumber 0 (some 1) true)

/-- The lines that are amended. -/
def lineNumbers : Regex := .seq (.times blank 0 none true) range

/-- The text that takes the place of lines. -/
def newText : Regex := .capture 3 (.times inLine 1 none true)

/-- What comes after blank characters, up to the end of the line. -/
def replacement : Regex := .seq (.times blank 1 none true) newText

/-- What `amendPattern` says behind the start of the text. -/
def amendBody (name : String) : Regex :=
  .seq (.literal name.toList) <| .seq (.times lineNumbers 0 (some 1) true) <|
    .seq (.times replacement 0 (some 1) true) (.look .finish)

/-- As little of a line as possible. -/
def expression : Regex := .capture 1 (.times inLine 1 none false)

/-- What comes after blank characters. -/
def target : Regex := .seq (.times blank 1 none true) expression

/-- What the pattern of `cd` says behind the start of the text. -/
def cdBody : Regex :=
  .seq (.literal ['c', 'd']) <| .seq (.times target 0 (some 1) true) <|
    .seq (.times blank 0 none true) (.look .finish)

def amendMatcher (name : String) : Matcher :=
  .ofRegex name (amendPattern name) (.seq (.look .start) (amendBody name))

def cdMatcher : Matcher := .ofRegex "cd" "^cd(?:\\s+(.+?))?\\s*$" (.seq (.look .start) cdBody)

theorem ofSimplePattern_amend :
    Matcher.ofSimplePattern "amend-line" (amendPattern "amend-line") =
      .ok (amendMatcher "amend-line") :=
  Matcher.ofSimplePattern_eq_ofRegex _ (by decide +kernel) (by decide +kernel)

theorem ofSimplePattern_percent :
    Matcher.ofSimplePattern "%" (amendPattern "%") = .ok (amendMatcher "%") :=
  Matcher.ofSimplePattern_eq_ofRegex _ (by decide +kernel) (by decide +kernel)

theorem ofSimplePattern_cd :
    Matcher.ofSimplePattern "cd" "^cd(?:\\s+(.+?))?\\s*$" = .ok cdMatcher :=
  Matcher.ofSimplePattern_eq_ofRegex _ (by decide +kernel) (by decide +kernel)

/-! The three patterns are read where their commands are registered. -/

section

variable (registry : Registry) (help : String) (arity : Arity) (handler : Handler)

theorem registerPattern_amend :
    let command := Command.named "amend-line" help arity handler
    registerPattern registry command (amendPattern "amend-line") =
      registry.register (command.withMatcher (amendMatcher "amend-line")) := by
  unfold registerPattern
  dsimp only [Command.named, Command.name, Matcher.ofName]
  rw [ofSimplePattern_amend]

theorem registerPattern_cd :
    let command := Command.named "cd" help arity handler
    registerPattern registry command "^cd(?:\\s+(.+?))?\\s*$" =
      registry.register (command.withMatcher cdMatcher) := by
  unfold registerPattern
  dsimp only [Command.named, Command.name, Matcher.ofName]
  rw [ofSimplePattern_cd]

end

end Commands

/-- What of a command decides on the lines it is given, and on what becomes of them. -/
structure Command.Working where
  matcher : Matcher
  arity : Arity
  interpolate : Bool
  handler : Handler

namespace Command

def working (command : Command) : Working :=
  ⟨command.matcher, command.arity, command.interpolate, command.handler⟩

end Command

namespace Registry

open Commands

/-- The built-in commands, in the order in which they are tried. -/
def listed : List Command.Working :=
  [⟨.ofName "!", .fixed 0, true, clearBuffer⟩,
   ⟨.ofName "show-input", .fixed 0, true, showInput⟩,
   ⟨amendMatcher "amend-line", .fixed 3, false, amendLine⟩,
   ⟨amendMatcher "%", .fixed 3, false, amendLine⟩,
   ⟨.ofName "play", .variadic, true, play⟩,
   ⟨.ofName "edit", .variadic, true, edit⟩,
   ⟨.ofName "hist", .variadic, true, hist⟩,
   ⟨cdMatcher, .fixed 1, false, changeSession⟩,
   ⟨.ofName "nesting", .fixed 0, true, nesting⟩,
   ⟨.ofName "jump-to", .fixed 1, true, jumpTo⟩,
   ⟨.ofName "exit", .fixed 0, true, exit⟩,
   ⟨.ofName "exit-all", .fixed 0, true, exitAll⟩,
   ⟨.ofName "!!!", .fixed 0, true, exitAll⟩,
   ⟨.ofName "show-method", .variadic, true, showMethod⟩,
   ⟨.ofName "show-source", .variadic, true, showMethod⟩,
   ⟨.ofName "$", .variadic, true, showMethod⟩,
   ⟨.ofName "help", .fixed 1, true, help⟩,
   ⟨.ofName "show-command", .fixed 1, true, showCommand⟩]

theorem working_builtin : builtin.commands.map Command.working = listed := by
  simp [builtin, registerBuffering, registerPlaying, registerRecalling, registerNesting,
    registerHelp, registerPattern, registerAlias, ofSimplePattern_amend, ofSimplePattern_percent,
    ofSimplePattern_cd, Command.name, Command.named, Matcher.ofName, register, insert, empty,
    addAlias, get?, Command.withMatcher, aliasFor, Command.working, listed, amendMatcher, cdMatcher,
    Matcher.ofRegex, Matcher.isPattern]

end Registry

end Console
