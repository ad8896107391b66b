import Console.Proofs.Calculator.Unfinished
import Console.Proofs.Text.Decimal
import Console.Proofs.Text.Lines
import Mathlib.Data.List.TakeDrop
import Mathlib.Data.List.TakeWhile

/-!
# Printed values are read back

The text that a value is inspected as is an expression of the grammar, and its tree evaluates to the
value whatever the names in scope stand for.  Printing and reading know nothing of each other, so
they are compared token by token: a printed text is scanned as its tokens whatever follows it, as
long as no number or name goes on there.  A list is scanned item by item, each of which is followed
by a comma or by the bracket that closes the list.
-/

namespace Console

/-- A character is shown in a quoted text as it is or as one of the escapes that the calculator
reads. -/
def Text.Legible (c : Char) : Prop := escaped c = [c] ∨ c ∈ ['"', '\\', '\n', '\t']

instance (c : Char) : Decidable (Text.Legible c) := inferInstanceAs (Decidable (_ ∨ _))

/-- The values whose printed text is an expression: no floating point numbers and no objects, no
integer whose magnitude is no integer, and no string with other escapes. -/
inductive Value.Readable : Value → Prop
  | nil : Readable .nil
  | bool (value : Bool) : Readable (.bool value)
  | int {value : Int64} (above : Int64.minValue < value) : Readable (.int value)
  | string {text : String} (legible : ∀ c ∈ text.toList, Text.Legible c) : Readable (.string text)
  | list {items : List Value} (readable : ∀ item ∈ items, Readable item) : Readable (.list items)

/-! ## Scanning -/

namespace Scanner

variable {state next : Scanner} {c : Char} {read word rest : List Char} {token : Token}
  {tokens more : List Token}

theorem run_cons (stepped : state.step c = .ok (tokens, next)) (ran : next.run rest = .ok more) :
    state.run (c :: rest) = .ok (tokens ++ more) := by
  rw [run, stepped]
  change (next.run rest >>= fun more => .ok (tokens ++ more)) = _
  rw [ran]
  rfl

theorem run_of_silent (stepped : state.step c = .ok ([], next)) :
    state.run (c :: rest) = next.run rest := by
  rw [run, stepped]
  exact bind_pure (next.run rest)

/-- No number and no name goes on with a text. -/
def Apart (text : List Char) : Prop :=
  ∀ c ∈ text.head?, continuesNumber c = false ∧ continuesName c = false

theorem apart_symbol (symbol : Symbol) (rest : List Char) : Apart (symbol.char :: rest) := by
  rintro c ⟨⟩
  exact symbol.not_continues_char

/-- A text is scanned as some tokens, whatever follows apart from it. -/
def Scans (text : List Char) (tokens : List Token) : Prop :=
  ∀ rest more, Apart rest → between.run rest = .ok more →
    between.run (text ++ rest) = .ok (tokens ++ more)

namespace Scans

variable {text other : List Char} {others : List Token}

theorem symbol (symbol : Symbol) (scans : Scans text tokens) :
    Scans (symbol.char :: text) (.symbol symbol :: tokens) := by
  intro rest more apart ran
  have stepped : between.step symbol.char = .ok ([.symbol symbol], between) := symbol.start_char
  apply run_cons stepped (scans rest more apart ran)

theorem space (scans : Scans text tokens) : Scans (' ' :: text) tokens := by
  intro rest more apart ran
  have stepped : between.step ' ' = .ok ([], between) := rfl
  apply run_cons stepped (scans rest more apart ran)

theorem nil : Scans [] [] := fun _ _ _ ran => ran

theorem append (first : Scans text tokens) (second : Scans other others)
    (apart : ∀ rest, Apart (other ++ rest)) : Scans (text ++ other) (tokens ++ others) := by
  intro rest more apartRest ran
  rw [List.append_assoc, List.append_assoc]
  exact first _ _ (apart rest) (second rest more apartRest ran)

end Scans

/-- A token that a character ends comes before what is read from that character on. -/
theorem run_of_ends
    (ends : state.step c = start c >>= fun started => .ok (token :: started.1, started.2)) :
    state.run (c :: rest) = between.run (c :: rest) >>= fun more => .ok (token :: more) := by
  rw [run, run, ends]
  simp only [step, bind_assoc]
  rfl

/-! ## Names -/

theorem run_name (continued : ∀ c ∈ word, continuesName c = true) (apart : Apart rest)
    (ran : between.run rest = .ok more) :
    (name read).run (word ++ rest) = .ok (.name (.ofList (read.reverse ++ word)) :: more) := by
  induction word generalizing read with
  | nil =>
      rw [List.nil_append, List.append_nil]
      cases rest with
      | nil =>
          cases ran
          rfl
      | cons c rest =>
          have ends : (name read).step c = start c >>= fun started =>
              .ok (.name (.ofList read.reverse) :: started.1, started.2) := by
            simp only [step, (apart c rfl).2, Bool.false_eq_true, if_false]
          rw [run_of_ends ends, ran]
          rfl
  | cons c word ih =>
      rw [List.forall_mem_cons] at continued
      have stepped : (name read).step c = .ok ([], name (c :: read)) := by
        simp only [step, continued.1, if_true]
      rw [List.append_cons read.reverse, ← List.reverse_cons]
      apply run_cons stepped (ih continued.2)

theorem scans_name (started : start c = .ok ([], name [c]))
    (continued : ∀ c ∈ word, continuesName c = true) :
    Scans (c :: word) [.name (.ofList (c :: word))] := by
  intro rest more apart ran
  have stepped : between.step c = .ok ([], name [c]) := started
  apply run_cons stepped (run_name continued apart ran)

/-! ## Numbers -/

/-- A text does not go on with a number. -/
def EndsNumber (text : List Char) : Prop := ∀ c ∈ text.head?, continuesNumber c = false

/-- A number ends where nothing goes on with it: it is an error, or it comes before what is read
from there on. -/
theorem run_number_append (continued : ∀ c ∈ word, continuesNumber c = true)
    (ends : EndsNumber rest) :
    (Scanner.number read).run (word ++ rest) =
      numberToken (read.reverse ++ word) >>= fun token =>
        between.run rest >>= fun more => .ok (token :: more) := by
  induction word generalizing read with
  | nil =>
      rw [List.nil_append, List.append_nil]
      cases rest with
      | nil => rfl
      | cons c rest =>
          have noNumber := ends c rfl
          simp only [run, step, noNumber, Bool.false_eq_true, if_false, bind_assoc]
          rfl
  | cons c word ih =>
      rw [List.forall_mem_cons] at continued
      have stepped : (Scanner.number read).step c = .ok ([], Scanner.number (c :: read)) := by
        simp only [step, continued.1, if_true]
      rw [List.cons_append, run_of_silent stepped, ih continued.2, List.reverse_cons,
        List.append_assoc, List.singleton_append]

theorem run_number (continued : ∀ c ∈ word, continuesNumber c = true)
    (number : numberToken (read.reverse ++ word) = .ok token) (apart : Apart rest)
    (ran : between.run rest = .ok more) :
    (Scanner.number read).run (word ++ rest) = .ok (token :: more) := by
  rw [run_number_append continued (fun c head => (apart c head).1), number, ran]
  rfl

theorem numberToken_natDigits {n : Nat} (small : n ≤ Text.largestInteger) :
    numberToken (Text.natDigits n) = .ok (.int (.ofInt n)) := by
  have others {d : Char} (noDigit : Text.isDigit d = false) :
      ∀ c ∈ Text.natDigits n, (c != d) = true := by
    intro c member
    rw [bne_iff_ne]
    rintro rfl
    rw [Text.isDigit_of_mem_natDigits member] at noDigit
    cases noDigit
  have kept : (Text.natDigits n).filter (· != '_') = Text.natDigits n :=
    List.filter_eq_self.mpr (others rfl)
  have whole : (Text.natDigits n).span (· != '.') = (Text.natDigits n, []) := by
    rw [List.span_eq_takeWhile_dropWhile, List.takeWhile_eq_self_iff.mpr (others rfl),
      List.dropWhile_eq_nil_iff.mpr (others rfl)]
  simp only [numberToken, kept, whole, Text.readInteger_natDigits small]

/-- The digits of an integer are scanned as that integer. -/
theorem scans_natDigits {n : Nat} (small : n ≤ Text.largestInteger) :
    Scans (Text.natDigits n) [.int (.ofInt n)] := by
  intro rest more apart ran
  obtain ⟨c, digits, split⟩ := List.exists_cons_of_ne_nil (Text.natDigits_ne_nil n)
  have isDigit : ∀ d ∈ Text.natDigits n, Text.isDigit d = true :=
    fun d => Text.isDigit_of_mem_natDigits
  rw [split, List.forall_mem_cons] at isDigit
  obtain ⟨first, others⟩ := isDigit
  have started : between.step c = .ok ([], Scanner.number [c]) := by
    simp only [step, start, Text.isBlank_of_isDigit first, first, Bool.false_eq_true, if_false,
      if_true]
  have continued : ∀ d ∈ digits, continuesNumber d = true := by
    intro d member
    simp [continuesNumber, others d member]
  have number : numberToken ([c].reverse ++ digits) = .ok (.int (.ofInt n)) := by
    rw [List.reverse_singleton, List.singleton_append, ← split]
    exact numberToken_natDigits small
  rw [split]
  apply run_cons started (run_number continued number apart ran)

/-! ## Strings -/

theorem run_escaped (legible : Text.Legible c) (ran : (string (c :: read)).run rest = .ok more) :
    (string read).run (Text.escaped c ++ rest) = .ok more := by
  rcases legible with verbatim | escaped
  · have quote : c ≠ '"' := by
      rintro rfl
      cases verbatim
    have backslash : c ≠ '\\' := by
      rintro rfl
      cases verbatim
    have stepped : (string read).step c = .ok ([], string (c :: read)) := by
      simp only [step, quote, backslash, if_false]
    rw [verbatim]
    exact run_cons stepped ran
  · have backslash : (string read).step '\\' = .ok ([], escape read) := rfl
    have letter (c : Char) : (escape read).step c = .ok ([], string (unescape c :: read)) := rfl
    simp only [List.mem_cons, List.not_mem_nil, or_false] at escaped
    rcases escaped with rfl | rfl | rfl | rfl
    · exact run_cons backslash (run_cons (letter '"') ran)
    · exact run_cons backslash (run_cons (letter '\\') ran)
    · exact run_cons backslash (run_cons (letter 'n') ran)
    · exact run_cons backslash (run_cons (letter 't') ran)

theorem run_string {text : List Char} (legible : ∀ c ∈ text, Text.Legible c)
    (ran : between.run rest = .ok more) :
    (string read).run (text.flatMap Text.escaped ++ '"' :: rest) =
      .ok (.string (.ofList (read.reverse ++ text)) :: more) := by
  induction text generalizing read with
  | nil =>
      rw [List.append_nil]
      have stepped : (string read).step '"' = .ok ([.string (.ofList read.reverse)], between) := rfl
      exact run_cons stepped ran
  | cons c text ih =>
      rw [List.forall_mem_cons] at legible
      rw [List.flatMap_cons, List.append_assoc]
      apply run_escaped legible.1
      rw [List.append_cons read.reverse, ← List.reverse_cons]
      exact ih legible.2

/-- A quoted text is scanned as the string that it quotes. -/
theorem scans_quoted {text : List Char} (legible : ∀ c ∈ text, Text.Legible c) :
    Scans (Text.quoted text) [.string (.ofList text)] := by
  intro rest more _ ran
  have stepped : between.step '"' = .ok ([], string []) := start_quote
  have ran := run_cons stepped (run_string legible ran)
  simpa [Text.quoted] using ran

end Scanner

/-! ## Values -/

/-- Equals signs and semicolons stand between expressions, not in them. -/
theorem Derives.not_mem {phrase : Phrase} {tree : Expression} {tokens : List Token}
    (derives : Derives phrase tree tokens) :
    .symbol .equals ∉ tokens ∧ .symbol .semicolon ∉ tokens := by
  induction derives with
  | @further _ _ _ _ operator => cases operator <;> simp_all [Operator.symbol]
  | @literal token value isLiteral =>
      cases token with
      | int | float | string | name => simp
      | symbol => cases isLiteral
  | _ => simp_all

/-- A text is an operand that evaluates to a value in every scope. -/
structure ReadBack (text : List Char) (value : Value) (tree : Expression) (tokens : List Token) :
    Prop where
  scans : Scanner.Scans text tokens
  derives : Derives .unary tree tokens
  evaluates : ∀ scope, tree.evaluate scope = .ok value

namespace ReadBack

open Scanner

theorem nil : ReadBack "nil".toList .nil (.name "nil") [.name "nil"] where
  scans := scans_name rfl (List.all_eq_true.mp rfl)
  derives := .unsigned .name
  evaluates _ := rfl

theorem bool_true : ReadBack "true".toList (.bool true) (.name "true") [.name "true"] where
  scans := scans_name rfl (List.all_eq_true.mp rfl)
  derives := .unsigned .name
  evaluates _ := rfl

theorem bool_false : ReadBack "false".toList (.bool false) (.name "false") [.name "false"] where
  scans := scans_name rfl (List.all_eq_true.mp rfl)
  derives := .unsigned .name
  evaluates _ := rfl

theorem quoted {text : List Char} (legible : ∀ c ∈ text, Text.Legible c) :
    ReadBack (Text.quoted text) (.string (.ofList text)) (.literal (.string (.ofList text)))
      [.string (.ofList text)] where
  scans := scans_quoted legible
  derives := .unsigned (.literal rfl)
  evaluates _ := rfl

theorem natural {n : Nat} (small : n ≤ Text.largestInteger) :
    ReadBack (Text.natDigits n) (.int (.ofInt n)) (.literal (.int (.ofInt n)))
      [.int (.ofInt n)] where
  scans := scans_natDigits small
  derives := .unsigned (.literal rfl)
  evaluates _ := rfl

theorem negative {n : Nat} (small : n ≤ Text.largestInteger) :
    ReadBack ('-' :: Text.natDigits n) (.int (.ofInt (-n))) (.negative (.literal (.int (.ofInt n))))
      [.symbol .minus, .int (.ofInt n)] where
  scans := (scans_natDigits small).symbol .minus
  derives := .sign (natural small).derives
  evaluates scope := by
    unfold Text.largestInteger at small
    have exact : (Int64.ofInt n).toInt = n := by
      apply Int64.toInt_ofInt_of_le
      · omega
      · omega
    have bounds : Int64.minValue.toInt ≤ -n ∧ -n ≤ Int64.maxValue.toInt := by
      rw [Int64.toInt_minValue, Int64.toInt_maxValue]
      omega
    have word : word? (-n) = some (.ofInt (-n)) := by
      rw [word?, if_pos bounds]
    change Value.ofInt (-(Int64.ofInt n).toInt) = _
    rw [exact, Value.ofInt, word]

/-- The printed text of a list behind its first item. -/
def behindFirst (values : List Value) : List Char :=
  values.flatMap (fun value => [',', ' '] ++ value.inspect.toList) ++ [']']

/-- No number and no name goes on behind an item. -/
theorem apart_behindFirst (values : List Value) (rest : List Char) :
    Apart (behindFirst values ++ rest) := by
  cases values with
  | nil => exact apart_symbol .closeBracket rest
  | cons => exact apart_symbol .comma _

theorem items {values : List Value}
    (readBack : ∀ value ∈ values, ∃ tree tokens, ReadBack value.inspect.toList value tree tokens)
    (read : List Expression) (item : Expression) :
    ∃ trees tokens, Scans (behindFirst values) tokens ∧
      Derives (.items read item) (.list (read ++ item :: trees)) tokens ∧
      ∀ scope, Expression.evaluateAll scope trees = .ok values := by
  induction values generalizing read item with
  | nil =>
      exact ⟨[], [.symbol .closeBracket], Scans.nil.symbol .closeBracket, .lastItem, fun _ => rfl⟩
  | cons value values ih =>
      rw [List.forall_mem_cons] at readBack
      obtain ⟨⟨tree, tokens, first⟩, readBack⟩ := readBack
      obtain ⟨trees, others, scans, derives, evaluates⟩ := ih readBack (read ++ [item]) tree
      refine ⟨tree :: trees, .symbol .comma :: (tokens ++ others), ?_, ?_, ?_⟩
      · have scanned := first.scans.append scans (apart_behindFirst values)
        simpa [behindFirst, Symbol.char] using scanned.space.symbol .comma
      · rw [List.append_cons]
        exact .nextItem (.single (.single first.derives)) derives
      · intro scope
        simp only [Expression.evaluateAll, first.evaluates, evaluates]
        rfl

theorem list {values : List Value}
    (readBack : ∀ value ∈ values, ∃ tree tokens, ReadBack value.inspect.toList value tree tokens) :
    ∃ tree tokens, ReadBack (Value.list values).inspect.toList (.list values) tree tokens := by
  cases values with
  | nil =>
      refine ⟨.list [], [.symbol .openBracket, .symbol .closeBracket], ?_, .unsigned .emptyList,
        fun _ => rfl⟩
      simpa [joinWith, Symbol.char] using (Scans.nil.symbol .closeBracket).symbol .openBracket
  | cons value values =>
      rw [List.forall_mem_cons] at readBack
      obtain ⟨⟨tree, tokens, first⟩, readBack⟩ := readBack
      obtain ⟨trees, others, scans, derives, evaluates⟩ := items readBack [] tree
      refine ⟨.list (tree :: trees), .symbol .openBracket :: (tokens ++ others), ?_, ?_, ?_⟩
      · have printed : (Value.list (value :: values)).inspect.toList =
            '[' :: (value.inspect.toList ++ behindFirst values) := by
          simp [joinWith, Text.joinWith_cons, behindFirst, List.flatMap_map]
        rw [printed]
        exact (first.scans.append scans (apart_behindFirst values)).symbol .openBracket
      · exact .unsigned (.list (.single (.single first.derives)) derives)
      · intro scope
        simp only [Expression.evaluate, Expression.evaluateAll, first.evaluates, evaluates]
        rfl

theorem integer {value : Int64} (above : Int64.minValue < value) :
    ∃ tree tokens, ReadBack (integerText value).toList (.int value) tree tokens := by
  have least : Int64.minValue.toInt < value.toInt := Int64.lt_iff_toInt_lt.mp above
  have greatest := Int64.toInt_le value
  rw [Int64.toInt_minValue] at least
  rw [Int64.toInt_maxValue] at greatest
  have small : value.toInt.natAbs ≤ Text.largestInteger := by
    unfold Text.largestInteger
    omega
  rw [integerText, String.toList_ofList, Text.intDigits]
  split
  · have same : -(value.toInt.natAbs : Int) = value.toInt := by omega
    have readBack := negative small
    rw [same, Int64.ofInt_toInt] at readBack
    exact ⟨_, _, readBack⟩
  · have same : (value.toInt.natAbs : Int) = value.toInt := by omega
    have readBack := natural small
    rw [same, Int64.ofInt_toInt] at readBack
    exact ⟨_, _, readBack⟩

end ReadBack

theorem Value.Readable.exists_readBack {value : Value} (readable : value.Readable) :
    ∃ tree tokens, ReadBack value.inspect.toList value tree tokens := by
  induction readable with
  | nil =>
      rw [inspect_nil]
      exact ⟨_, _, .nil⟩
  | bool value =>
      rw [inspect]
      cases value with
      | true => exact ⟨_, _, .bool_true⟩
      | false => exact ⟨_, _, .bool_false⟩
  | int above =>
      rw [inspect_int]
      exact ReadBack.integer above
  | @string text legible =>
      have readBack := ReadBack.quoted legible
      rw [String.ofList_toList] at readBack
      rw [inspect_string, quotedText, String.toList_ofList]
      exact ⟨_, _, readBack⟩
  | list readable ih => exact ReadBack.list ih

namespace Calculator

variable {calculator : Calculator} {source : String} {target last : Value} {tree : Expression}
  {found : List Token}

/-- An expression of the grammar is evaluated as its tree is, and nothing is bound by it. -/
theorem evaluate_of_derives (read : tokens source.toList = .ok found)
    (derives : Derives .expression tree found) :
    calculator.evaluate source target last =
      (tree.evaluate ⟨calculator.bindings, target, last⟩, calculator) := by
  obtain ⟨noEquals, noSemicolon⟩ := derives.not_mem
  obtain ⟨token, rest, rfl, _⟩ := derives.exists_cons_of_chain
  have evaluated : calculator.evaluateStatement (trimmedEnd source) target last (token :: rest) =
      (tree.evaluate ⟨calculator.bindings, target, last⟩, calculator) := by
    unfold evaluateStatement
    split
    · rename_i statement
      rw [statement] at noEquals
      simp at noEquals
    · dsimp only
      rw [Scope.evaluate_of_derives _ derives]
  unfold evaluate
  rw [read]
  simp only [statements_of_single noSemicolon, evaluateStatements, evaluated]
  cases tree.evaluate ⟨calculator.bindings, target, last⟩ <;> rfl

theorem isComplete_of_derives (read : tokens source.toList = .ok found)
    (derives : Derives .expression tree found) : isComplete source = true := by
  have plain : Open.Plain {} := ⟨rfl, rfl⟩
  have closed : Open.run {} source.toList = some {} :=
    (plain.run_of_tokens read).trans (derives.run_marks 0 0)
  simp [isComplete, Console.isComplete, closed, Open.any, endsOpen_of_tokens read derives.concluded]

/-- A printed value evaluates to itself and is complete, whatever the calculator holds and whatever
the session is about, and the calculator is left as it is. -/
theorem evaluate_inspect (calculator : Calculator) (target last value : Value)
    (readable : value.Readable) :
    calculator.evaluate value.inspect target last = (.ok value, calculator) ∧
      isComplete value.inspect = true := by
  obtain ⟨tree, found, readBack⟩ := readable.exists_readBack
  have derives : Derives .expression tree found := .single (.single readBack.derives)
  have read : tokens value.inspect.toList = .ok found := by
    have scanned := readBack.scans [] [] nofun rfl
    rwa [List.append_nil, List.append_nil] at scanned
  constructor
  · rw [evaluate_of_derives read derives, readBack.evaluates]
  · exact isComplete_of_derives read derives

/-- The list `[-7, "]\"\\, é", []]` holds a sign, all that a list is written with inside a string,
and an empty list. -/
theorem evaluate_inspect_nested :
    Calculator.evaluate {}
        (Value.list [.int (-7), .string "]\"\\, é\n", .list []]).inspect .nil .nil =
        (.ok (.list [.int (-7), .string "]\"\\, é\n", .list []]), {}) ∧
      isComplete (Value.list [.int (-7), .string "]\"\\, é\n", .list []]).inspect = true := by
  apply evaluate_inspect
  apply Value.Readable.list
  simp only [List.forall_mem_cons]
  refine ⟨.int ?_, .string ?_, .list nofun, nofun⟩
  · decide
  · have legible : "]\"\\, é\n".toList.all (fun c => decide (Text.Legible c)) = true := by
      decide +kernel
    simpa only [List.all_eq_true, decide_eq_true_eq] using legible

end Calculator

end Console
