import Console.Text.Blank

/-!
# Complete expressions

A text is complete unless more lines are needed: an open bracket, parenthesis or string, or an
operator, a comma or an equals sign at its end.  A bracket that closes nothing also makes it
complete, since no further line can mend that.
-/

namespace Console

/-- What is still open in a text. -/
structure Open where
  brackets : Nat := 0
  parens : Nat := 0
  inString : Bool := false
  /-- A backslash was read in a string. -/
  escaped : Bool := false
  deriving DecidableEq, Repr

namespace Open

/-- What is open after one more character; `none` if the character closes nothing. -/
def step (now : Open) (c : Char) : Option Open :=
  if now.escaped then some { now with escaped := false }
  else if now.inString then
    if c = '\\' then some { now with escaped := true }
    else if c = '"' then some { now with inString := false }
    else some now
  else match c with
    | '"' => some { now with inString := true }
    | '[' => some { now with brackets := now.brackets + 1 }
    | '(' => some { now with parens := now.parens + 1 }
    | ']' =>
        if now.brackets = 0 then none else some { now with brackets := now.brackets - 1 }
    | ')' => if now.parens = 0 then none else some { now with parens := now.parens - 1 }
    | _ => some now

/-- What is open after a text; `none` if something in it closes nothing. -/
def run : Open → List Char → Option Open
  | now, [] => some now
  | now, c :: rest => (now.step c).bind fun next => next.run rest

/-- Whether anything is open. -/
def any (now : Open) : Bool := 0 < now.brackets || 0 < now.parens || now.inString

end Open

/-- Whether a text that ends in this character goes on in the next line. -/
def continues (c : Char) : Bool := ['+', '-', '*', '/', '=', ','].contains c

/-- Whether the last character that is not blank calls for another line. -/
def endsOpen (source : List Char) : Bool :=
  match (Text.trimEnd source).getLast? with
  | some c => continues c
  | none => false

/-- Whether a text needs no further lines. -/
def isComplete (source : List Char) : Bool :=
  match Open.run {} source with
  | none => true
  | some now => !now.any && !endsOpen source

end Console
