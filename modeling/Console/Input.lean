import Console.Storage
import Console.Text.Lines

/-!
# Input

Lines come from a base source, such as a script or a piped text.  Commands put further lines in
front of it; what was put in last is read first, and the base is asked only when no such line is
left.
-/

namespace Console

/-- What a source answers when it is asked for a line. -/
inductive Answer where
  /-- A line, perhaps with its line end. -/
  | line (text : String)
  | endOfInput
  | interrupted
  | failed (cause : IoCause)
  deriving DecidableEq, Repr

/-- The answers a source will give; after them, the input has ended. -/
abbrev Source := List Answer

namespace Source

/-- The lines of a text, without their line ends. -/
def ofScript (text : String) : Source := (linesOf text).map .line

/-- The lines of a stream of bytes, with their newlines.  A line that is not valid is used up by
the failure to read it. -/
def ofBytes (bytes : Utf8.Bytes) : Source :=
  (Utf8.pieces bytes).map fun piece =>
    match Utf8.toText? piece with
    | some line => .line line
    | none => .failed .invalidUtf8

end Source

/-- Where a line came from. -/
inductive Origin where
  /-- The base source. -/
  | interactive
  /-- A command. -/
  | injected
  deriving DecidableEq, Repr

/-- The base source, and the texts in front of it, the latest first. -/
structure InputChain where
  base : Source := []
  injected : List (List String) := []
  deriving Repr

namespace InputChain

/-- Puts the lines of a text in front of all other input. -/
def inject (chain : InputChain) (text : String) : InputChain :=
  match linesOf text with
  | [] => chain
  | lines => { chain with injected := lines :: chain.injected }

/-- Whether injected lines are left. -/
def isReplaying (chain : InputChain) : Bool := chain.injected.any fun lines => !lines.isEmpty

/-- The first line of the first text that has one, and the texts after it is read. -/
def nextInjected? : List (List String) → Option (String × List (List String))
  | [] => none
  | [] :: texts => nextInjected? texts
  | (line :: lines) :: texts => some (line, lines :: texts)

/-- Asks for a line. -/
def read (chain : InputChain) : Answer × Origin × InputChain :=
  match nextInjected? chain.injected with
  | some (line, injected) => (.line line, .injected, { chain with injected })
  | none =>
      match chain.base with
      | [] => (.endOfInput, .interactive, { chain with injected := [] })
      | answer :: base => (answer, .interactive, { base, injected := [] })

end InputChain

end Console
