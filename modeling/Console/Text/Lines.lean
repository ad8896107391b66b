/-!
# Lines of a text

A text is cut after every newline.  The pieces keep their newline, so they put the text
together again; the lines of the text are the pieces without their line ends.
-/

namespace Console.Text

/-- The pieces of a text, each but perhaps the last ended by a newline. -/
def pieces : List Char → List (List Char)
  | [] => []
  | c :: rest =>
      if c = '\n' then [c] :: pieces rest
      else match pieces rest with
        | [] => [[c]]
        | piece :: more => (c :: piece) :: more

/-- A piece without its line end, which is a newline or a carriage return and a newline. -/
def withoutLineEnd (piece : List Char) : List Char :=
  match piece.reverse with
  | '\n' :: '\r' :: rest => rest.reverse
  | '\n' :: rest => rest.reverse
  | _ => piece

/-- The lines of a text, without their line ends.  A text that ends in a newline has no empty
line after it. -/
def lines (text : List Char) : List (List Char) := (pieces text).map withoutLineEnd

/-- A text without the given characters at its end. -/
def trimEndWhere (drop : Char → Bool) (text : List Char) : List Char :=
  (text.reverse.dropWhile drop).reverse

/-- Lines with a separator between each two of them. -/
def joinWith (separator : List Char) : List (List Char) → List Char
  | [] => []
  | [line] => line
  | line :: rest => line ++ separator ++ joinWith separator rest

@[simp] theorem pieces_nil : pieces [] = [] := rfl

theorem pieces_newline (rest : List Char) : pieces ('\n' :: rest) = ['\n'] :: pieces rest := by
  simp [pieces]

/-- The pieces put the text together again. -/
theorem flatten_pieces (text : List Char) : (pieces text).flatten = text := by
  induction text with
  | nil => rfl
  | cons c rest ih =>
    by_cases h : c = '\n'
    · simp [pieces, h, ih]
    · cases more : pieces rest with
      | nil => simp [pieces, h, more] at ih ⊢; simpa [more] using ih
      | cons piece others => simp [pieces, h, more] at ih ⊢; simpa using ih

@[simp] theorem lines_nil : lines [] = [] := rfl

@[simp] theorem joinWith_nil (separator : List Char) : joinWith separator [] = [] := rfl

@[simp] theorem joinWith_singleton (separator line : List Char) :
    joinWith separator [line] = line := rfl

end Console.Text

namespace Console

/-- The lines of a text, without their line ends. -/
def linesOf (text : String) : List String := (Text.lines text.toList).map .ofList

/-- Texts with a separator between each two of them. -/
def joinWith (separator : String) (texts : List String) : String :=
  .ofList (Text.joinWith separator.toList (texts.map String.toList))

/-- A text without the newlines at its end. -/
def withoutFinalNewlines (text : String) : String :=
  .ofList (Text.trimEndWhere (· == '\n') text.toList)

/-- A line as it was read, without the newlines and carriage returns at its end. -/
def withoutFinalBreaks (text : String) : String :=
  .ofList (Text.trimEndWhere (fun c => c == '\n' || c == '\r') text.toList)

end Console
