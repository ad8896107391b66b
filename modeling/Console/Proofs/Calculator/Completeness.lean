import Console.Calculator.Basic
import Console.Proofs.Calculator.Evaluation

/-!
# Complete texts

Whether a text needs further lines is judged by its characters, while it is evaluated by its
tokens.  Both see the same brackets: what is open after a text is what is open after the symbols
among its tokens.  An expression of the grammar closes what it opens and does not end in a symbol
that calls for more, so a text with a value is never held back.
-/

namespace Console

namespace Symbol

theorem char_of_ofChar? {c : Char} {symbol : Symbol} (read : ofChar? c = some symbol) :
    c = symbol.char := by
  unfold ofChar? at read
  split at read <;> cases read <;> rfl

/-- No blank, digit or letter is written as a symbol is. -/
theorem start_char (symbol : Symbol) :
    Scanner.start symbol.char = .ok ([.symbol symbol], .between) := by
  have blank : Text.isBlank symbol.char = false := by cases symbol <;> rfl
  have digit : Text.isDigit symbol.char = false := by cases symbol <;> rfl
  have name : Scanner.startsName symbol.char = false := by cases symbol <;> rfl
  have quote : symbol.char ≠ '"' := by cases symbol <;> decide
  simp only [Scanner.start, blank, digit, name, quote, ofChar?_char, Bool.false_eq_true, if_false]

/-- Neither numbers nor names go on with a symbol. -/
theorem not_continues_char (symbol : Symbol) :
    Scanner.continuesNumber symbol.char = false ∧ Scanner.continuesName symbol.char = false := by
  cases symbol <;> exact ⟨rfl, rfl⟩

end Symbol

/-- The characters of the symbols among some tokens. -/
def marks : List Token → List Char
  | [] => []
  | .symbol symbol :: rest => symbol.char :: marks rest
  | _ :: rest => marks rest

theorem marks_append (tokens more : List Token) :
    marks (tokens ++ more) = marks tokens ++ marks more := by
  induction tokens with
  | nil => rfl
  | cons token tokens ih =>
      cases token with
      | symbol symbol => exact congrArg (symbol.char :: ·) ih
      | _ => exact ih

namespace Open

/-- Reading is not inside a string. -/
def Plain (now : Open) : Prop := now.inString = false ∧ now.escaped = false

/-- What is open while a token is being read. -/
def inside (now : Open) : Scanner → Open
  | .string _ => { now with inString := true }
  | .escape _ => { now with inString := true, escaped := true }
  | .between | .number _ | .name _ => now

variable {now later : Open} {tokens : List Token}

theorem run_append (now : Open) (text more : List Char) :
    run now (text ++ more) = (run now text).bind (run · more) := by
  induction text generalizing now with
  | nil => rfl
  | cons c text ih =>
      cases stepped : now.step c with
      | none => simp only [List.cons_append, run, stepped, Option.bind_none]
      | some next => simp only [List.cons_append, run, stepped, Option.bind_some, ih]

/-- A symbol neither begins nor ends a string. -/
theorem Plain.step_char {symbol : Symbol} (plain : now.Plain)
    (stepped : now.step symbol.char = some later) : later.Plain := by
  obtain ⟨brackets, parens, inString, escaped⟩ := now
  obtain ⟨rfl, rfl⟩ := plain
  cases symbol with
  | closeParen | closeBracket =>
      obtain ⟨_, closed⟩ := Option.ite_none_left_eq_some.mp stepped
      cases closed
      exact ⟨rfl, rfl⟩
  | _ =>
      cases stepped
      exact ⟨rfl, rfl⟩

theorem Plain.run_marks (plain : now.Plain) (ran : run now (marks tokens) = some later) :
    later.Plain := by
  induction tokens generalizing now with
  | nil =>
      cases ran
      exact plain
  | cons token tokens ih =>
      cases token with
      | symbol symbol =>
          obtain ⟨next, stepped, ran⟩ := Option.bind_eq_some_iff.mp ran
          exact ih (plain.step_char stepped) ran
      | _ => exact ih plain ran

/-- Outside of strings only quotes and symbols matter. -/
theorem Plain.step_of_not_symbol {c : Char} (plain : now.Plain) (quote : c ≠ '"')
    (noSymbol : Symbol.ofChar? c = none) : now.step c = some now := by
  simp only [step, plain.1, plain.2, Bool.false_eq_true, if_false]
  split <;> first | rfl | exact absurd rfl quote | exact absurd noSymbol (by decide)

end Open

namespace Scanner

variable {state next : Scanner} {now : Open} {c : Char} {tokens : List Token}

/-- A character that goes on with a token is not seen where brackets are counted. -/
theorem step_open_of_continues (plain : now.Plain)
    (continued : continuesNumber c ∨ continuesName c) :
    now.step c = some now := by
  refine plain.step_of_not_symbol ?_ ?_
  · rintro rfl
    rcases continued with impossible | impossible <;> cases impossible
  · cases read : Symbol.ofChar? c with
    | none => rfl
    | some symbol =>
        rw [Symbol.char_of_ofChar? read, symbol.not_continues_char.1, symbol.not_continues_char.2]
          at continued
        rcases continued with impossible | impossible <;> cases impossible

theorem start_quote : start '"' = .ok ([], .string []) := by
  have blank : Text.isBlank '"' = false := rfl
  have name : startsName '"' = false := rfl
  simp only [start, blank, name, Bool.false_eq_true, if_false, if_true]
  rfl

/-- What a character can do where a token may start. -/
theorem start_cases (started : start c = .ok (tokens, next)) :
    (∃ symbol : Symbol, c = symbol.char ∧ tokens = [.symbol symbol] ∧ next = .between) ∨
    (c = '"' ∧ tokens = [] ∧ next = .string []) ∨
    (c ≠ '"' ∧ Symbol.ofChar? c = none ∧ tokens = [] ∧ ∀ now : Open, now.inside next = now) := by
  cases read : Symbol.ofChar? c with
  | some symbol =>
      obtain rfl := Symbol.char_of_ofChar? read
      rw [symbol.start_char] at started
      cases started
      exact .inl ⟨symbol, rfl, rfl, rfl⟩
  | none =>
      by_cases quote : c = '"'
      · subst quote
        rw [start_quote] at started
        cases started
        exact .inr (.inl ⟨rfl, rfl, rfl⟩)
      · simp only [start, quote, read, if_false] at started
        refine .inr (.inr ⟨quote, rfl, ?_⟩)
        split at started
        · cases started
          exact ⟨rfl, fun _ => rfl⟩
        split at started
        · cases started
          exact ⟨rfl, fun _ => rfl⟩
        split at started
        · cases started
          exact ⟨rfl, fun _ => rfl⟩
        · cases started

/-- What is open after a character where a token may start. -/
theorem step_open_of_start (plain : now.Plain) (started : start c = .ok (tokens, next)) :
    now.step c = (Open.run now (marks tokens)).map (·.inside next) := by
  obtain ⟨symbol, rfl, rfl, rfl⟩ | ⟨rfl, rfl, rfl⟩ | ⟨quote, noSymbol, rfl, outside⟩ :=
    start_cases started
  · simp only [marks, Open.run, Open.inside, Option.map_id', Option.bind_fun_some]
  · obtain ⟨brackets, parens, inString, escaped⟩ := now
    obtain ⟨rfl, rfl⟩ := plain
    rfl
  · rw [plain.step_of_not_symbol quote noSymbol]
    simp only [marks, Open.run, Option.map_some, outside]

theorem marks_numberToken {digits : List Char} {token : Token}
    (read : numberToken digits = .ok token) : marks [token] = [] := by
  dsimp only [numberToken] at read
  split at read
  · split at read <;> cases read
    rfl
  · split at read <;> cases read
    rfl

/-- What is open after a character is what the symbols open that it ends. -/
theorem step_open (plain : now.Plain) (stepped : state.step c = .ok (tokens, next)) :
    (now.inside state).step c = (Open.run now (marks tokens)).map (·.inside next) := by
  cases state with
  | between => exact step_open_of_start plain stepped
  | number read =>
      by_cases continued : continuesNumber c
      · simp only [step, continued, if_true] at stepped
        cases stepped
        exact step_open_of_continues plain (.inl continued)
      · simp only [step, continued, Bool.false_eq_true, if_false] at stepped
        obtain ⟨token, number, stepped⟩ := exists_of_bind_eq_ok stepped
        obtain ⟨⟨more, next⟩, started, stepped⟩ := exists_of_bind_eq_ok stepped
        cases stepped
        rw [← List.singleton_append, marks_append, marks_numberToken number]
        exact step_open_of_start plain started
  | name read =>
      by_cases continued : continuesName c
      · simp only [step, continued, if_true] at stepped
        cases stepped
        exact step_open_of_continues plain (.inr continued)
      · simp only [step, continued, Bool.false_eq_true, if_false] at stepped
        obtain ⟨⟨more, next⟩, started, stepped⟩ := exists_of_bind_eq_ok stepped
        cases stepped
        have opened := step_open_of_start plain started
        exact opened
  | string read =>
      obtain ⟨brackets, parens, inString, escaped⟩ := now
      obtain ⟨rfl, rfl⟩ := plain
      by_cases quote : c = '"'
      · simp only [step, quote, if_true] at stepped
        cases stepped
        rw [quote]
        rfl
      by_cases backslash : c = '\\'
      · simp only [step, backslash, if_true] at stepped
        cases stepped
        rw [backslash]
        rfl
      · simp only [step, quote, backslash, if_false] at stepped
        cases stepped
        simp only [Open.step, Open.inside, quote, backslash, Bool.false_eq_true, if_false, if_true]
        rfl
  | escape read =>
      obtain ⟨brackets, parens, inString, escaped⟩ := now
      obtain ⟨rfl, rfl⟩ := plain
      cases stepped
      rfl

theorem run_open {source : List Char} (plain : now.Plain) (ran : state.run source = .ok tokens) :
    Open.run (now.inside state) source = Open.run now (marks tokens) := by
  induction source generalizing now state tokens with
  | nil =>
      cases state with
      | between | name =>
          cases ran
          rfl
      | number =>
          obtain ⟨token, number, ran⟩ := exists_of_bind_eq_ok ran
          cases ran
          rw [marks_numberToken number]
          rfl
      | string | escape => cases ran
  | cons c source ih =>
      obtain ⟨⟨ended, next⟩, stepped, ran⟩ := exists_of_bind_eq_ok ran
      obtain ⟨more, ranMore, joined⟩ := exists_of_bind_eq_ok ran
      cases joined
      rw [marks_append, Open.run_append, Open.run, step_open plain stepped]
      cases opened : Open.run now (marks ended) with
      | none => rfl
      | some later => exact ih (plain.run_marks opened) ranMore

end Scanner

/-- What is open after a text is what the symbols among its tokens open. -/
theorem Open.Plain.run_of_tokens {now : Open} {source : List Char} {found : List Token}
    (plain : now.Plain) (read : tokens source = .ok found) :
    now.run source = now.run (marks found) :=
  Scanner.run_open plain read

/-! ## Brackets -/

theorem Open.run_marks_append {now between later : Open} {tokens more : List Token}
    (first : now.run (marks tokens) = some between) (rest : between.run (marks more) = some later) :
    now.run (marks (tokens ++ more)) = some later := by
  rw [marks_append, run_append, first, Option.bind_some, rest]

/-- The number of brackets that a phrase closes without having opened them. -/
def Phrase.closes : Phrase → Nat
  | items .. => 1
  | _ => 0

@[simp] theorem Rank.closes_operand (rank : Rank) : rank.operand.closes = 0 := by
  cases rank <;> rfl

namespace Derives

/-- A phrase closes what it opens. -/
theorem run_marks {phrase : Phrase} {tree : Expression} {tokens : List Token}
    (derives : Derives phrase tree tokens) (brackets parens : Nat) :
    Open.run ⟨brackets + phrase.closes, parens, false, false⟩ (marks tokens) =
      some ⟨brackets, parens, false, false⟩ := by
  induction derives generalizing brackets parens with
  | @chain rank _ _ _ _ operand rest operandCloses restCloses =>
      rw [rank.closes_operand] at operandCloses
      exact Open.run_marks_append (operandCloses brackets parens) (restCloses brackets parens)
  | done => rfl
  | @further rank _ _ _ operator _ _ ranked operand rest operandCloses restCloses =>
      rw [rank.closes_operand] at operandCloses
      have sign : Open.run ⟨brackets, parens, false, false⟩ (marks [.symbol operator.symbol]) =
          some ⟨brackets, parens, false, false⟩ := by cases operator <;> rfl
      exact Open.run_marks_append sign
        (Open.run_marks_append (operandCloses brackets parens) (restCloses brackets parens))
  | sign _ ih => exact ih brackets parens
  | unsigned _ ih => exact ih brackets parens
  | @literal token value isLiteral =>
      cases token with
      | int | float | string | name => rfl
      | symbol => cases isLiteral
  | name => rfl
  | group inner ih => exact Open.run_marks_append (ih brackets (parens + 1)) rfl
  | emptyList => rfl
  | list begun rest begunCloses restCloses =>
      exact Open.run_marks_append (begunCloses (brackets + 1) parens) (restCloses brackets parens)
  | lastItem => rfl
  | nextItem begun rest begunCloses restCloses =>
      exact Open.run_marks_append (begunCloses (brackets + 1) parens) (restCloses brackets parens)

end Derives

/-! ## The last token -/

/-- Whether a text that ends in a token goes on in the next line. -/
def Token.goesOn : Token → Bool
  | .symbol sign => continues sign.char
  | _ => false

/-- Tokens do not end in one that calls for more. -/
def Concluded (tokens : List Token) : Prop := ∀ token ∈ tokens.getLast?, token.goesOn = false

namespace Concluded

variable {tokens more : List Token} {token : Token}

theorem append (first : Concluded tokens) (rest : Concluded more) : Concluded (tokens ++ more) := by
  intro token last
  rw [List.getLast?_append, Option.mem_def, Option.or_eq_some_iff] at last
  rcases last with last | ⟨_, last⟩
  · exact rest token last
  · exact first token last

theorem cons (nonempty : tokens ≠ []) (rest : Concluded tokens) :
    Concluded (token :: tokens) := by
  intro other last
  obtain ⟨first, tokens, rfl⟩ := List.exists_cons_of_ne_nil nonempty
  exact rest other last

end Concluded

namespace Derives

/-- Only what may follow an operand is possibly empty. -/
theorem ne_nil {rank : Rank} {tree : Expression} {tokens : List Token}
    (derives : Derives rank.operand tree tokens) : tokens ≠ [] := by
  cases rank with
  | sum =>
      obtain ⟨token, rest, rfl, _⟩ := derives.exists_cons_of_chain
      exact nofun
  | product =>
      obtain ⟨token, rest, rfl, _⟩ := derives.exists_cons_of_unary
      exact nofun

/-- A phrase does not end in a token that calls for more. -/
theorem concluded {phrase : Phrase} {tree : Expression} {tokens : List Token}
    (derives : Derives phrase tree tokens) : Concluded tokens := by
  have single {token : Token} (ends : token.goesOn = false) : Concluded [token] := by
    rintro other ⟨⟩
    exact ends
  induction derives with
  | chain _ _ first rest => exact first.append rest
  | done => exact nofun
  | further _ operand _ first rest =>
      refine Concluded.cons ?_ (first.append rest)
      exact List.append_ne_nil_of_left_ne_nil operand.ne_nil _
  | sign unary ih =>
      obtain ⟨token, tokens, rfl, _⟩ := unary.exists_cons_of_unary
      exact ih.cons nofun
  | unsigned _ ih => exact ih
  | @literal token value isLiteral =>
      cases token with
      | int | float | string | name => exact single rfl
      | symbol => cases isLiteral
  | name => exact single rfl
  | group _ ih => exact Concluded.cons (by simp) (ih.append (single rfl))
  | emptyList => exact Concluded.cons nofun (single rfl)
  | list begun _ first rest =>
      obtain ⟨token, tokens, rfl, _⟩ := begun.exists_cons_of_chain
      exact Concluded.cons nofun (first.append rest)
  | lastItem => exact single rfl
  | nextItem begun _ first rest =>
      obtain ⟨token, tokens, rfl, _⟩ := begun.exists_cons_of_chain
      exact Concluded.cons nofun (first.append rest)

end Derives

namespace Scanner

variable {state : Scanner} {tokens : List Token} {symbol : Symbol}

theorem getLast?_trimEnd_cons (c : Char) (text : List Char) :
    (Text.trimEnd (c :: text)).getLast? =
      (Text.trimEnd text).getLast?.or (if Text.isBlank c then none else some c) := by
  simp only [Text.trimEnd, List.getLast?_reverse, List.reverse_cons, List.dropWhile_append]
  cases kept : text.reverse.dropWhile Text.isBlank with
  | nil =>
      by_cases blank : Text.isBlank c <;> simp [blank]
  | cons first rest => rfl

/-- Blank characters are no tokens, and they do not end a string. -/
theorem run_blank {text : List Char} (blank : (Text.trimEnd text).getLast? = none) :
    Scanner.between.run text = .ok [] ∧
      ∀ read, (Scanner.string read).run text = .error .unterminatedString := by
  induction text with
  | nil => exact ⟨rfl, fun _ => rfl⟩
  | cons c text ih =>
      rw [getLast?_trimEnd_cons, Option.or_eq_none_iff] at blank
      obtain ⟨outside, inString⟩ := ih blank.1
      have isBlank : Text.isBlank c := by
        cases visible : Text.isBlank c with
        | true => rfl
        | false => simp [visible] at blank
      have quote : c ≠ '"' := by
        rintro rfl
        cases isBlank
      have backslash : c ≠ '\\' := by
        rintro rfl
        cases isBlank
      constructor
      · simp only [run, step, start, isBlank, if_true]
        change (Scanner.between.run text >>= fun more => _) = _
        rw [outside]
        rfl
      · intro read
        simp only [run, step, quote, backslash, if_false]
        change ((Scanner.string (c :: read)).run text >>= fun more => _) = _
        rw [inString]
        rfl

/-- A symbol is a token of its own, but in a string. -/
theorem step_char {ended : List Token} {next : Scanner}
    (stepped : state.step symbol.char = .ok (ended, next)) :
    (ended.getLast? = some (.symbol symbol) ∧ next = .between) ∨ ∃ read, next = .string read := by
  obtain ⟨number, name⟩ := symbol.not_continues_char
  cases state with
  | between =>
      rw [step, symbol.start_char] at stepped
      cases stepped
      exact .inl ⟨rfl, rfl⟩
  | number read =>
      simp only [step, number, Bool.false_eq_true, if_false, symbol.start_char] at stepped
      obtain ⟨token, _, stepped⟩ := exists_of_bind_eq_ok stepped
      cases stepped
      exact .inl ⟨rfl, rfl⟩
  | name read =>
      simp only [step, name, Bool.false_eq_true, if_false, symbol.start_char] at stepped
      cases stepped
      exact .inl ⟨rfl, rfl⟩
  | string read =>
      have quote : symbol.char ≠ '"' := by cases symbol <;> decide
      have backslash : symbol.char ≠ '\\' := by cases symbol <;> decide
      simp only [step, quote, backslash, if_false] at stepped
      cases stepped
      exact .inr ⟨_, rfl⟩
  | escape read =>
      cases stepped
      exact .inr ⟨_, rfl⟩

/-- A symbol at the end of a text is the last of its tokens. -/
theorem getLast?_of_run {source : List Char}
    (last : (Text.trimEnd source).getLast? = some symbol.char)
    (ran : state.run source = .ok tokens) :
    tokens.getLast? = some (.symbol symbol) := by
  induction source generalizing state tokens with
  | nil => cases last
  | cons c source ih =>
      obtain ⟨⟨ended, next⟩, stepped, ran⟩ := exists_of_bind_eq_ok ran
      obtain ⟨more, ranMore, joined⟩ := exists_of_bind_eq_ok ran
      cases joined
      rw [getLast?_trimEnd_cons, Option.or_eq_some_iff] at last
      rcases last with last | ⟨blank, last⟩
      · rw [List.getLast?_append, ih last ranMore]
        rfl
      · obtain ⟨_, visible⟩ := Option.ite_none_left_eq_some.mp last
        cases visible
        obtain ⟨ended, rfl⟩ | ⟨read, rfl⟩ := step_char stepped
        · rw [(run_blank blank).1] at ranMore
          cases ranMore
          rw [List.append_nil, ended]
        · rw [(run_blank blank).2] at ranMore
          cases ranMore

end Scanner

/-- A text that ends open has a last token that calls for more. -/
theorem endsOpen_of_tokens {source : List Char} {found : List Token}
    (read : tokens source = .ok found) (concluded : Concluded found) : endsOpen source = false := by
  unfold endsOpen
  cases last : (Text.trimEnd source).getLast? with
  | none => rfl
  | some c =>
      cases symbol : Symbol.ofChar? c with
      | none =>
          cases continued : continues c with
          | false => exact continued
          | true =>
              have member : c ∈ ['+', '-', '*', '/', '=', ','] := List.contains_iff_mem.mp continued
              simp only [List.mem_cons, List.not_mem_nil, or_false] at member
              rcases member with rfl | rfl | rfl | rfl | rfl | rfl <;> cases symbol
      | some sign =>
          obtain rfl := Symbol.char_of_ofChar? symbol
          exact concluded _ (Scanner.getLast?_of_run last read)

namespace Calculator

/-- There is a statement before the first semicolon. -/
theorem exists_statements (found : List Token) :
    ∃ statement more, statements found = statement :: more := by
  cases found with
  | nil => exact ⟨[], [], rfl⟩
  | cons token rest =>
      unfold statements
      split
      · exact ⟨_, _, rfl⟩
      · split <;> exact ⟨_, _, rfl⟩

/-- Statements are what stands between semicolons. -/
theorem intercalate_statements (found : List Token) :
    List.intercalate [.symbol .semicolon] (statements found) = found := by
  induction found with
  | nil => rfl
  | cons token rest ih =>
      obtain ⟨statement, more, split⟩ := exists_statements rest
      rw [split] at ih
      cases semicolon : token.isSemicolon with
      | true =>
          obtain rfl : token = .symbol .semicolon := by
            unfold Token.isSemicolon at semicolon
            split at semicolon
            · rfl
            · cases semicolon
          simp only [statements, semicolon, if_true, split]
          rw [List.intercalate_cons_cons, ih]
          rfl
      | false =>
          simp only [statements, semicolon, Bool.false_eq_true, if_false, split]
          rw [← ih]
          cases more with
          | nil => simp only [List.intercalate_singleton]
          | cons next more => simp only [List.intercalate_cons_cons, List.cons_append]

/-- The tokens of a statement that can have a value. -/
def Accepted (statement : List Token) : Prop :=
  ∃ tree expression, Derives .expression tree expression ∧ (statement = expression ∨
    ∃ name, statement = .name "let" :: .name name :: .symbol .equals :: expression)

variable {calculator next : Calculator} {source : String} {target last before value : Value}
  {statement : List Token}

theorem accepted_of_evaluateStatement
    (evaluated : calculator.evaluateStatement source target last statement = (.ok value, next)) :
    Accepted statement := by
  unfold evaluateStatement at evaluated
  dsimp only at evaluated
  split at evaluated
  · split at evaluated
    · obtain ⟨tree, derives⟩ := Scope.exists_derives_of_evaluate ‹_›
      exact ⟨tree, _, derives, .inr ⟨_, rfl⟩⟩
    · cases evaluated
  · obtain ⟨tree, derives⟩ := Scope.exists_derives_of_evaluate (congrArg Prod.fst evaluated)
    exact ⟨tree, _, derives, .inl rfl⟩

theorem accepted_of_evaluateStatements {found : List (List Token)}
    (evaluated :
      evaluateStatements source target last calculator before found = (.ok value, next)) :
    ∀ statement ∈ found, statement = [] ∨ Accepted statement := by
  induction found generalizing calculator before with
  | nil => exact nofun
  | cons statement found ih =>
      cases statement with
      | nil =>
          rw [List.forall_mem_cons]
          exact ⟨.inl rfl, ih evaluated⟩
      | cons token rest =>
          simp only [evaluateStatements] at evaluated
          split at evaluated
          · rw [List.forall_mem_cons]
            exact ⟨.inr (accepted_of_evaluateStatement ‹_›), ih evaluated⟩
          · cases evaluated

/-- An accepted statement closes what it opens. -/
theorem Accepted.run_marks (accepted : Accepted statement) :
    Open.run {} (marks statement) = some {} := by
  obtain ⟨tree, expression, derives, rfl | ⟨name, rfl⟩⟩ := accepted
  · exact derives.run_marks 0 0
  · exact derives.run_marks 0 0

theorem Accepted.concluded (accepted : Accepted statement) : Concluded statement := by
  obtain ⟨tree, expression, derives, rfl | ⟨name, rfl⟩⟩ := accepted
  · exact derives.concluded
  · obtain ⟨token, rest, rfl, _⟩ := derives.exists_cons_of_chain
    exact derives.concluded

/-- What holds of the statements holds of all tokens, with the semicolons between them. -/
theorem tokens_of_statements {found : List Token}
    (accepted : ∀ statement ∈ statements found, statement = [] ∨ Accepted statement) :
    Open.run {} (marks found) = some {} ∧ Concluded found := by
  rw [← intercalate_statements found]
  generalize statements found = split at accepted
  induction split with
  | nil => exact ⟨rfl, nofun⟩
  | cons statement more ih =>
      rw [List.forall_mem_cons] at accepted
      obtain ⟨first, rest⟩ := accepted
      have statementFine : Open.run {} (marks statement) = some {} ∧ Concluded statement := by
        rcases first with rfl | accepted
        · exact ⟨rfl, nofun⟩
        · exact ⟨accepted.run_marks, accepted.concluded⟩
      obtain ⟨moreClosed, moreConcluded⟩ := ih rest
      cases more with
      | nil =>
          rw [List.intercalate_singleton]
          exact statementFine
      | cons next more =>
          rw [List.intercalate_cons_cons, List.append_assoc]
          exact ⟨Open.run_marks_append statementFine.1 moreClosed,
            statementFine.2.append (.append (by rintro token ⟨⟩; rfl) moreConcluded)⟩

/-- A text that has a value needs no further lines. -/
theorem isComplete_of_evaluate
    (evaluated : calculator.evaluate source target last = (.ok value, next)) :
    isComplete source = true := by
  unfold evaluate at evaluated
  split at evaluated
  · cases evaluated
  · rename_i found read
    obtain ⟨closed, concluded⟩ := tokens_of_statements (accepted_of_evaluateStatements evaluated)
    have opened : Open.run {} source.toList = some {} := by
      rw [← closed]
      have plain : Open.Plain {} := ⟨rfl, rfl⟩
      exact plain.run_of_tokens read
    simp only [isComplete, Console.isComplete, opened, endsOpen_of_tokens read concluded]
    rfl

/-- Brackets in a string and a line break within parentheses hold nothing back. -/
theorem isComplete_of_evaluate_brackets :
    isComplete "let x = (1 +\n2); [x, \"(\"]" = true := by
  have evaluated : evaluate {} "let x = (1 +\n2); [x, \"(\"]" .nil .nil =
      (.ok (.list [.int 3, .string "("]), _) := rfl
  exact isComplete_of_evaluate evaluated

end Calculator

end Console
