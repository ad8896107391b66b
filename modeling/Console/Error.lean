import Console.Buffer
import Console.Calculator.Token
import Console.Flags.Reader
import Console.Pattern
import Console.Process
import Console.Session

/-!
# Errors of the console

Everything that can go wrong with a line.  None of it ends a session: the error is reported, and
reading goes on.
-/

namespace Console

/-- Why an edit failed. -/
inductive EditorError where
  /-- The editor's command line has a quote that is not closed. -/
  | unmatchedQuote (quote : Char)
  | notConfigured
  | notStarted (program : String) (cause : IoCause)
  | exitStatus (program : String) (status : Nat)
  | killed (program : String) (signal : Nat)
  /-- A failure stated in words of its own. -/
  | stated (text : String)
  deriving DecidableEq, Repr

/-- The wording of a quote that is not closed. -/
def unmatchedQuoteMessage (quote : Char) : String :=
  "Unmatched " ++ String.singleton quote ++ " in arguments"

namespace EditorError

/-- The wording of the failure. -/
def message : EditorError → String
  | unmatchedQuote quote => "cannot parse editor command: " ++ unmatchedQuoteMessage quote
  | notConfigured => "no editor configured"
  | notStarted program cause => program ++ ": " ++ cause.message
  | exitStatus program status => program ++ " exited with exit status: " ++ natText status
  | killed program signal =>
      program ++ " exited with signal: " ++ signalText signal
  | stated text => text

end EditorError

/-- What can go wrong with a line. -/
inductive Error where
  | unmatchedQuote (quote : Char)
  | invalidRange (text : String)
  | invalidLineNumber (text : String)
  | missingReplacement
  | flags (failure : Flags.Failure)
  | noSource (name : String)
  | unreadable (path : String) (cause : IoCause)
  | noLines (range : LineRange)
  | noHistoryLine (number : Int64)
  | noHistoryLines (range : LineRange)
  | grepPattern (error : PatternError)
  | commandPattern (error : PatternError)
  | missingLevel
  | invalidLevel (text : String)
  | breakout (error : BreakoutError)
  | missingCommandName
  | unknownCommand (name : String)
  | amendOutOfRange (error : OutOfRange)
  | evaluation (error : EvalError)
  | persistence (path : String) (cause : IoCause)
  | editor (error : EditorError)
  | io (cause : IoCause)
  deriving Repr

/-- The kinds of errors. -/
inductive ErrorKind where
  | malformedArguments
  | unknownCommand
  | amendOutOfRange
  | evaluation
  | persistence
  | editor
  | io
  deriving DecidableEq, Repr

namespace IoCause

/-- A cause as it is logged. -/
def debugText : IoCause → String
  | notFound =>
      "Os \x7b code: 2, kind: NotFound, message: \"No such file or directory\" \x7d"
  | permissionDenied =>
      "Os \x7b code: 13, kind: PermissionDenied, message: \"Permission denied\" \x7d"
  | notADirectory => "Os \x7b code: 20, kind: NotADirectory, message: \"Not a directory\" \x7d"
  | isADirectory => "Os \x7b code: 21, kind: IsADirectory, message: \"Is a directory\" \x7d"
  | nameTooLong =>
      "Os \x7b code: 36, kind: InvalidFilename, message: \"File name too long\" \x7d"
  | nulInName =>
      "Error \x7b kind: InvalidInput, message: \"file name contained an unexpected NUL byte\" \x7d"
  | invalidUtf8 =>
      "Error \x7b kind: InvalidData, message: \"stream did not contain valid UTF-8\" \x7d"
  | interrupted => "Kind(Interrupted)"
  | sinkClosed => "Custom \x7b kind: Other, error: \"sink closed\" \x7d"
  | other text => "Custom \x7b kind: Other, error: " ++ quotedText text ++ " \x7d"

end IoCause

namespace Error

/-- The kind of an error. -/
def kind : Error → ErrorKind
  | unmatchedQuote _ | invalidRange _ | invalidLineNumber _ | missingReplacement | flags _
  | noSource _ | unreadable .. | noLines _ | noHistoryLine _ | noHistoryLines _ | grepPattern _
  | commandPattern _ | missingLevel | invalidLevel _ | breakout _ | missingCommandName =>
      .malformedArguments
  | unknownCommand _ => .unknownCommand
  | amendOutOfRange _ => .amendOutOfRange
  | evaluation _ => .evaluation
  | persistence .. => .persistence
  | editor _ => .editor
  | io _ => .io

/-- The wording of an error. -/
def message : Error → String
  | unmatchedQuote quote => unmatchedQuoteMessage quote
  | invalidRange text => "Invalid line range: " ++ text
  | invalidLineNumber text => "Invalid line number: " ++ text
  | missingReplacement => "amend-line needs replacement text, or `!` to delete the lines"
  | flags failure => failure.message
  | noSource name => "No source found for method `" ++ name ++ "`"
  | unreadable path cause => "Cannot read " ++ path ++ ": " ++ cause.message
  | noLines range => "No lines in range " ++ range.text
  | noHistoryLine number => "No history line " ++ integerText number
  | noHistoryLines range => "No history lines in range " ++ range.text
  | grepPattern error => "Invalid --grep pattern: " ++ error.message
  | commandPattern error => "Invalid command pattern: " ++ error.message
  | missingLevel => "jump-to needs a nesting level"
  | invalidLevel text => "Invalid nest level: " ++ text
  | breakout error => error.message
  | missingCommandName => "show-command needs a command name"
  | unknownCommand name => "No such command: " ++ name
  | amendOutOfRange error =>
      "Line range " ++ error.range.text ++ " is out of range for a " ++ natText error.count ++
        "-line input buffer"
  | evaluation error => error.text
  | persistence path cause => "History file " ++ path ++ ": " ++ cause.message
  | editor error => "Editor error: " ++ error.message
  | io cause => cause.message

/-- An error as it is logged. -/
def debugText (error : Error) : String :=
  match error with
  | unknownCommand name => "UnknownCommand(" ++ quotedText name ++ ")"
  | amendOutOfRange error =>
      "AmendOutOfRange \x7b range: " ++ quotedText error.range.text ++ ", len: " ++
        natText error.count ++ " \x7d"
  | evaluation error =>
      "Evaluation(EvalError \x7b kind: " ++ quotedText error.kind ++ ", message: " ++
        quotedText error.message ++ ", location: " ++
        (match error.location with
          | some location => "Some(" ++ quotedText location ++ ")"
          | none => "None") ++ " \x7d)"
  | persistence path cause =>
      "Persistence \x7b path: " ++ quotedText path ++ ", source: " ++ cause.debugText ++ " \x7d"
  | editor error => "Editor(" ++ quotedText error.message ++ ")"
  | io cause => "Io(" ++ cause.debugText ++ ")"
  | error => "MalformedCommandArgs(" ++ quotedText error.message ++ ")"

end Error

end Console
