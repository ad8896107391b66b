import Console.Toml.Number

/-!
# TOML strings

Between double quotes a backslash begins an escape, between single quotes it is a character like
any other.  Tripled quotes go over several lines: a line break right after the opening quotes is
dropped, and line breaks are written as one line feed.  Each reader starts behind the opening
quotes and returns what follows the closing ones.
-/

namespace Console.Toml

/-- Characters that may stand in a string or a comment as they are. -/
def isPlain (c : Char) : Bool := c = '\t' || (' ' ≤ c && c ≠ '\x7f')

/-- What an escape of one letter stands for. -/
def letterEscape? : Char → Option Char
  | 'b' => some '\x08'
  | 't' => some '\t'
  | 'n' => some '\n'
  | 'f' => some '\x0c'
  | 'r' => some '\r'
  | '"' => some '"'
  | '\\' => some '\\'
  | _ => none

/-- The character with a code in hexadecimal digits. -/
def scalar? (digits : List Char) : Option Char :=
  if digits.all (isDigitOf 16) then
    let code := numberOf 16 digits
    if code.isValidChar then some (.ofNat code) else none
  else none

/-- What a reader of strings returns: the characters of the string, and the text behind it. -/
abbrev Quoted := Option (List Char × List Char)

/-- Puts a character in front of a string. -/
def Quoted.cons (c : Char) (quoted : Quoted) : Quoted :=
  quoted.map fun (text, rest) => (c :: text, rest)

/-- Reads a string between double quotes. -/
def basicString : List Char → Quoted
  | [] => none
  | '"' :: rest => some ([], rest)
  | '\\' :: 'u' :: a :: b :: c :: d :: rest =>
      match scalar? [a, b, c, d] with
      | some c => (basicString rest).cons c
      | none => none
  | '\\' :: 'U' :: a :: b :: c :: d :: e :: f :: g :: h :: rest =>
      match scalar? [a, b, c, d, e, f, g, h] with
      | some c => (basicString rest).cons c
      | none => none
  | '\\' :: letter :: rest =>
      match letterEscape? letter with
      | some c => (basicString rest).cons c
      | none => none
  | c :: rest => if isPlain c && c ≠ '\\' then (basicString rest).cons c else none

/-- Reads a string between single quotes. -/
def literalString : List Char → Quoted
  | [] => none
  | '\'' :: rest => some ([], rest)
  | c :: rest => if isPlain c then (literalString rest).cons c else none

/-- Reads a string between tripled single quotes.  Up to two quotes may stand right before the
closing ones. -/
def literalText : List Char → Quoted
  | [] => none
  | '\'' :: '\'' :: '\'' :: '\'' :: '\'' :: rest => some (['\'', '\''], rest)
  | '\'' :: '\'' :: '\'' :: '\'' :: rest => some (['\''], rest)
  | '\'' :: '\'' :: '\'' :: rest => some ([], rest)
  | '\r' :: '\n' :: rest => (literalText rest).cons '\n'
  | c :: rest => if isPlain c || c = '\n' then (literalText rest).cons c else none

/-- Whether a line ends after nothing but blanks. -/
def endsLine : List Char → Bool
  | [] => false
  | '\n' :: _ => true
  | '\r' :: '\n' :: _ => true
  | c :: rest => (c = ' ' || c = '\t') && endsLine rest

/-- Reads a string between tripled double quotes; a backslash at the end of a line drops all blanks
and line breaks up to the next character, which is what the first argument is about. -/
def basicText : Bool → List Char → Quoted
  | _, [] => none
  | _, '"' :: '"' :: '"' :: '"' :: '"' :: rest => some (['"', '"'], rest)
  | _, '"' :: '"' :: '"' :: '"' :: rest => some (['"'], rest)
  | _, '"' :: '"' :: '"' :: rest => some ([], rest)
  | dropping, '\r' :: '\n' :: rest =>
      if dropping then basicText true rest else (basicText false rest).cons '\n'
  | _, '\\' :: 'u' :: a :: b :: c :: d :: rest =>
      match scalar? [a, b, c, d] with
      | some c => (basicText false rest).cons c
      | none => none
  | _, '\\' :: 'U' :: a :: b :: c :: d :: e :: f :: g :: h :: rest =>
      match scalar? [a, b, c, d, e, f, g, h] with
      | some c => (basicText false rest).cons c
      | none => none
  | dropping, c :: rest =>
      if c = '\\' then
        if endsLine rest then basicText true rest
        else match rest with
          | [] => none
          | letter :: rest =>
              match letterEscape? letter with
              | some c => (basicText false rest).cons c
              | none => none
      else if dropping && (c = ' ' || c = '\t' || c = '\n') then basicText true rest
      else if isPlain c || c = '\n' then (basicText false rest).cons c
      else none

/-- The text behind a line break at its beginning. -/
def withoutLineBreak : List Char → List Char
  | '\n' :: rest => rest
  | '\r' :: '\n' :: rest => rest
  | text => text

/-- Reads a string that starts with a quote. -/
def string? : List Char → Quoted
  | '"' :: '"' :: '"' :: rest => basicText false (withoutLineBreak rest)
  | '"' :: rest => basicString rest
  | '\'' :: '\'' :: '\'' :: rest => literalText (withoutLineBreak rest)
  | '\'' :: rest => literalString rest
  | _ => none

end Console.Toml
