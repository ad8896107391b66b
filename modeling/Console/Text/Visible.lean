/-!
# Visible texts

What is left of a text when the sequences that control a terminal are taken out of it, together
with the control characters that are no line breaks, tabs or form feeds.
-/

namespace Console.Text

/-- Where a place in a text stands with respect to control sequences. -/
inductive ControlState where
  | plain
  /-- Behind an escape character. -/
  | escape
  /-- Behind an escape character and characters that only lead over to the last one. -/
  | intermediate
  /-- Behind an escape character and a bracket. -/
  | sequence
  /-- In a string for the terminal; some strings may end with a bell. -/
  | string (endsWithBell : Bool)
  deriving DecidableEq, Repr

namespace ControlState

/-- Whether a control character is shown, because it is a kind of blank. -/
def isShownControl (c : Char) : Bool := c = '\t' || c = '\n' || c = '\x0c' || c = '\r'

/-- Where a text stands behind a character, and whether the character is shown.  A blank control
character is shown even inside a control sequence, which it ends; in a string it is not. -/
def next (state : ControlState) (c : Char) : ControlState × Bool :=
  if c = '\x1b' then (escape, false)
  else if c = '\x18' || c = '\x1a' || 0x80 ≤ c.toNat then (plain, state = plain && 0x80 ≤ c.toNat)
  else
    match state with
    | string endsWithBell => (if endsWithBell && c = '\x07' then plain else state, false)
    | plain => (plain, isShownControl c || (0x20 ≤ c.toNat && c ≠ '\x7f'))
    | _ =>
        if c.toNat < 0x20 then if isShownControl c then (plain, true) else (state, false)
        else if c = '\x7f' then (state, false)
        else
          match state, c with
          | escape, '[' => (sequence, false)
          | escape, ']' => (string true, false)
          | escape, 'P' | escape, 'X' | escape, '^' | escape, '_' => (string false, false)
          | escape, _ | intermediate, _ =>
              (if c.toNat < 0x30 then intermediate else plain, false)
          | _, _ => (if c.toNat < 0x40 then sequence else plain, false)

/-- The characters of a text that are shown. -/
def shown (state : ControlState) : List Char → List Char
  | [] => []
  | c :: rest =>
      match state.next c with
      | (state, true) => c :: shown state rest
      | (state, false) => shown state rest

end ControlState

end Console.Text

namespace Console

/-- A text without what controls a terminal. -/
def visibleText (text : String) : String := .ofList (Text.ControlState.plain.shown text.toList)

end Console
