import Console.Text.Octets

/-!
# Name patterns

A pattern for names: a star for any text, a question mark for one character, and brackets for one
of several.  Characters from between quotes mean only themselves, and so does a character after a
backslash that is not quoted.
-/

namespace Console.Shell

/-- A character of a field: whether it was between quotes, and whether fields may be cut at it. -/
structure Glyph where
  char : Char
  isQuoted : Bool := false
  isCut : Bool := false
  deriving DecidableEq, Repr

/-- An end of a text. -/
inductive Side where
  | front
  | back
  deriving DecidableEq, Repr

/-- A member of a bracket. -/
inductive GlobItem where
  | range (low high : Char)
  | named (name : String)
  deriving DecidableEq, Repr

/-- What one place of a pattern matches. -/
inductive GlobPart where
  | char (c : Char)
  | any
  | anyText
  | oneOf (isNegated : Bool) (items : List GlobItem)
  deriving DecidableEq, Repr

/-- A pattern for names. -/
abbrev Glob := List GlobPart

/-- Whether an ASCII character is in a class with a name. -/
def isInClass (name : String) (c : Char) : Bool :=
  let upper := 'A' ≤ c && c ≤ 'Z'
  let lower := 'a' ≤ c && c ≤ 'z'
  let digit := '0' ≤ c && c ≤ '9'
  let graph := '!' ≤ c && c ≤ '~'
  match name with
  | "alpha" => upper || lower
  | "upper" => upper
  | "lower" => lower
  | "digit" => digit
  | "alnum" => upper || lower || digit
  | "xdigit" => digit || ('a' ≤ c && c ≤ 'f') || ('A' ≤ c && c ≤ 'F')
  | "space" => c = ' ' || ('\t' ≤ c && c ≤ '\r')
  | "blank" => c = ' ' || c = '\t'
  | "punct" => graph && !(upper || lower || digit)
  | "graph" => graph
  | "print" => graph || c = ' '
  | "cntrl" => c < ' ' || c = '\x7f'
  | _ => false

namespace GlobItem

/-- Whether a character is meant. -/
def has (c : Char) : GlobItem → Bool
  | range low high => low ≤ c && c ≤ high
  | named name => isInClass name c

end GlobItem

namespace Glob

/-- The name of a class and what follows it, after its opening. -/
def class? (glyphs : List Glyph) : Option (String × List Glyph) :=
  let name := glyphs.takeWhile fun glyph => 'a' ≤ glyph.char && glyph.char ≤ 'z'
  match glyphs.drop name.length with
  | ⟨':', _, _⟩ :: ⟨']', _, _⟩ :: rest => some (.ofList (name.map (·.char)), rest)
  | _ => none

/-- The members of a bracket and what follows it; none if it is not closed.  A closing bracket in
front is a member. -/
def items : Nat → (isFirst : Bool) → List Glyph → Option (List GlobItem × List Glyph)
  | 0, _, _ | _, _, [] => none
  | fuel + 1, isFirst, glyph :: rest =>
      if glyph.char = ']' && !glyph.isQuoted && !isFirst then some ([], rest)
      else
        let found : Option (GlobItem × List Glyph) :=
          match glyph.char, glyph.isQuoted, rest with
          | '[', false, ⟨':', false, _⟩ :: after =>
              (class? after).map fun (name, rest) => (.named name, rest)
          | _, _, _ => none
        match found with
        | some (item, rest) =>
            (items fuel false rest).map fun (others, rest) => (item :: others, rest)
        | none =>
            match rest with
            | ⟨'-', false, _⟩ :: high :: after =>
                if high.char = ']' && !high.isQuoted then
                  (items fuel false rest).map fun (others, rest) =>
                    (.range glyph.char glyph.char :: others, rest)
                else
                  (items fuel false after).map fun (others, rest) =>
                    (.range glyph.char high.char :: others, rest)
            | rest =>
                (items fuel false rest).map fun (others, rest) =>
                  (.range glyph.char glyph.char :: others, rest)

/-- A bracket and what follows it, after its opening. -/
def bracket? (glyphs : List Glyph) : Option (GlobPart × List Glyph) :=
  match glyphs with
  | ⟨'!', false, _⟩ :: rest =>
      (items (rest.length + 1) true rest).map fun (items, rest) => (.oneOf true items, rest)
  | rest =>
      (items (rest.length + 1) true rest).map fun (items, rest) => (.oneOf false items, rest)

/-- The pattern that characters spell; the first argument is their number. -/
def spelled : Nat → List Glyph → Glob
  | 0, _ | _, [] => []
  | fuel + 1, glyph :: rest =>
      if glyph.isQuoted then .char glyph.char :: spelled fuel rest
      else if glyph.char = '*' then .anyText :: spelled fuel rest
      else if glyph.char = '?' then .any :: spelled fuel rest
      else if glyph.char = '[' then
        match bracket? rest with
        | some (part, rest) => part :: spelled fuel rest
        | none => .char '[' :: spelled fuel rest
      else .char glyph.char :: spelled fuel rest

/-- Whether quotes are remembered for a character: it could mean something else without them. -/
def isGuarded (c : Char) : Bool := "!*?[=~:/-]\\".toList.contains c

/-- Characters with the meaning taken from those after a backslash that is not quoted.  Where quotes
take the meaning too, the backslash takes it from the quotes.  The first argument says whether there
is such a backslash in front. -/
def escaped : Bool → List Glyph → List Glyph
  | false, [] => []
  | true, [] => [⟨'\\', true, false⟩]
  | false, glyph :: rest =>
      if glyph.char = '\\' && !glyph.isQuoted then escaped true rest
      else glyph :: escaped false rest
  | true, glyph :: rest =>
      if glyph.isQuoted && isGuarded glyph.char then
        ⟨'\\', true, false⟩ ::
          (if glyph.char = '\\' then escaped true rest
          else { glyph with isQuoted := false } :: escaped false rest)
      else { glyph with isQuoted := true } :: escaped false rest

/-- The pattern that the characters of a field spell. -/
def ofGlyphs (glyphs : List Glyph) : Glob :=
  let glyphs := escaped false glyphs
  spelled glyphs.length glyphs

/-- The pattern that matches only a text. -/
def ofText (text : Octets) : Glob := text.map .char

/-- Whether a pattern is more than a text. -/
def isOpen (glob : Glob) : Bool :=
  glob.any fun part => match part with | .char _ => false | _ => true

/-- Whether a pattern matches a text: the text ends where the pattern does. -/
def covers : Glob → Octets → Bool
  | [], text => text.isEmpty
  | .anyText :: glob, text =>
      (List.range (text.length + 1)).any fun count => covers glob (text.drop count)
  | .char c :: glob, d :: text => c = d && covers glob text
  | .any :: glob, _ :: text => covers glob text
  | .oneOf isNegated items :: glob, c :: text =>
      items.any (·.has c) != isNegated && covers glob text
  | _ :: _, [] => false

/-- A text without what a pattern matches in front, the most of it or the least. -/
def trimFront (glob : Glob) (longest : Bool) (text : Octets) : Octets :=
  let prefixes := (List.range (text.length + 1)).filter fun count => glob.covers (text.take count)
  match if longest then prefixes.getLast? else prefixes.head? with
  | some count => text.drop count
  | none => text

/-- A text without what a pattern matches at its end, the most of it or the least. -/
def trimBack (glob : Glob) (longest : Bool) (text : Octets) : Octets :=
  let starts := (List.range (text.length + 1)).filter fun count => glob.covers (text.drop count)
  match if longest then starts.head? else starts.getLast? with
  | some count => text.take count
  | none => text

/-! ## Several texts at once -/

/-- Texts, the last one first, without what a pattern matches at the end of the nearest one where it
matches something; those after it go too.  None if it matches nothing. -/
def trimNearest? (glob : Glob) : List Octets → Option (List Octets)
  | [] => none
  | text :: before =>
      let trimmed := glob.trimBack false text
      if trimmed != text || glob.covers [] then some (trimmed :: before)
      else glob.trimNearest? before

/-- Texts without what a pattern matches on a side of them.  They are looked at as one text in which
matches do not go beyond the first end: what is found at the end takes all that follows with it, and
so does a longest match of the whole first text. -/
def trimAll (glob : Glob) (side : Side) (longest : Bool) (texts : List Octets) : List Octets :=
  match side, longest, texts with
  | _, _, [] => []
  | .front, true, first :: rest =>
      if glob.covers first then [[]] else glob.trimFront true first :: rest
  | .front, false, first :: rest => glob.trimFront false first :: rest
  | .back, true, first :: rest =>
      let trimmed := glob.trimBack true first
      if trimmed != first || glob.covers [] then [trimmed] else first :: rest
  | .back, false, texts => ((glob.trimNearest? texts.reverse).map List.reverse).getD texts

end Glob

end Console.Shell
