import Console.Text.Ranges

/-!
# Blank characters

Blank characters separate words and are cut from the ends of a line.  They are the
characters with the Unicode property White_Space.
-/

namespace Console.Text

/-- The characters with the property White_Space. -/
def blanks : Ranges :=
  [(0x9, 0xD), (0x20, 0x20), (0x85, 0x85), (0xA0, 0xA0), (0x1680, 0x1680), (0x2000, 0x200A),
   (0x2028, 0x2029), (0x202F, 0x202F), (0x205F, 0x205F), (0x3000, 0x3000)]

/-- Whether a character is blank. -/
def isBlank (c : Char) : Bool := blanks.has c

/-- A text without its leading blank characters. -/
def trimStart (text : List Char) : List Char := text.dropWhile isBlank

/-- A text without its trailing blank characters. -/
def trimEnd (text : List Char) : List Char := (text.reverse.dropWhile isBlank).reverse

/-- A text without the blank characters at both ends. -/
def trim (text : List Char) : List Char := trimEnd (trimStart text)

/-- Whether a text holds nothing but blank characters. -/
def allBlank (text : List Char) : Bool := text.all isBlank

@[simp] theorem allBlank_nil : allBlank [] = true := rfl

@[simp] theorem allBlank_cons (c : Char) (rest : List Char) :
    allBlank (c :: rest) = (isBlank c && allBlank rest) := rfl

theorem trimStart_eq_nil_iff {text : List Char} : trimStart text = [] ↔ allBlank text = true := by
  induction text with
  | nil => simp [trimStart]
  | cons c rest ih =>
    by_cases blank : isBlank c
    · simpa [trimStart, blank] using ih
    · simp [trimStart, blank]

end Console.Text

namespace Console

/-- A text without the blank characters at both ends. -/
def trimmed (text : String) : String := .ofList (Text.trim text.toList)

/-- A text without its trailing blank characters. -/
def trimmedEnd (text : String) : String := .ofList (Text.trimEnd text.toList)

/-- Whether a text holds nothing but blank characters. -/
def isBlankText (text : String) : Bool := Text.allBlank text.toList

end Console
