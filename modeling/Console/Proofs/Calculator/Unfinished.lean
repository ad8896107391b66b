import Console.Engine.Basic
import Console.Proofs.Calculator.Completeness
import Console.Proofs.Text.Blank

/-!
# Texts that end too early

An evaluation that fails because the tokens have ended was right in all that it has read.  What
it has read then leads to frames that wait for more: a group or a list that is open, or an operand
after the last token.  Either can be seen in the characters, so such a text is never taken to be
complete, and the console asks for another line.
-/

namespace Console

/-! ## Errors at the end of the input -/

namespace EvalError

/-- An error says that the input has ended where more was needed. -/
def RanOut (error : EvalError) : Prop :=
  error.kind = "SyntaxError" ∧
    (error.message = "unexpected end of input" ∨
      ∃ wanted, error.message = "expected " ++ wanted ++ ", found end of input")

theorem RanOut.getLast?_message {error : EvalError} (ranOut : error.RanOut) :
    error.message.toList.getLast? = some 't' := by
  rcases ranOut with ⟨_, same | ⟨wanted, same⟩⟩
  · rw [same]
    rfl
  · rw [same, String.toList_append, List.getLast?_append]
    rfl

end EvalError

theorem Token.getLast?_text (token : Token) : token.text.toList.getLast? = some '\x60' := by
  cases token <;> simp only [Token.text, String.toList_append, List.getLast?_append] <;> rfl

/-- An error about a token that is there is not about the end of the input. -/
theorem EvalError.not_ranOut_of_token {error : EvalError} {before : String} {token : Token}
    (same : error.message = before ++ token.text) : ¬error.RanOut := by
  intro ranOut
  have last := ranOut.getLast?_message
  rw [same, String.toList_append, List.getLast?_append, token.getLast?_text] at last
  cases last

/-- A computation does not fail for want of further input. -/
def Supplied {α : Type} (result : Except EvalError α) : Prop :=
  ∀ error, result = .error error → ¬error.RanOut

namespace Supplied

variable {α β : Type}

theorem ok (value : α) : Supplied (.ok value) := nofun

theorem error {error : EvalError} (other : ¬error.RanOut) :
    Supplied (.error error : Except EvalError α) := by
  rintro _ ⟨⟩
  exact other

/-- An error of another kind is not about the end of the input. -/
theorem of_kind {error : EvalError} (other : error.kind ≠ "SyntaxError") :
    Supplied (.error error : Except EvalError α) := .error fun ranOut => other ranOut.1

theorem of_token {error : EvalError} {before : String} {token : Token}
    (same : error.message = before ++ token.text) :
    Supplied (.error error : Except EvalError α) := .error (EvalError.not_ranOut_of_token same)

theorem unexpected (token : Token) :
    Supplied (.error (.unexpectedToken token) : Except EvalError α) := .of_token rfl

theorem expected (symbol : Symbol) (token : Token) :
    Supplied (.error (.expected symbol (some token)) : Except EvalError α) := .of_token rfl

theorem bind {first : Except EvalError α} {next : α → Except EvalError β}
    (begun : Supplied first) (continued : ∀ value, Supplied (next value)) :
    Supplied (first >>= next) := by
  cases first with
  | ok value => exact continued value
  | error error =>
      rintro _ ⟨⟩
      exact begun error rfl

end Supplied

/-! ## The machine -/

theorem Value.supplied_ofInt (i : Int) : Supplied (ofInt i) := by
  unfold ofInt
  split
  · exact .ok _
  · exact .of_kind (by simp [EvalError.kind])

theorem Value.supplied_negate (value : Value) : Supplied value.negate := by
  cases value with
  | int value => exact supplied_ofInt _
  | float value => exact .ok _
  | _ => exact .of_kind (by simp [EvalError.kind])

theorem Operator.supplied_onInts (operator : Operator) (left right : Int) :
    Supplied (operator.onInts left right) := by
  cases operator with
  | divide =>
      simp only [onInts]
      split
      · exact .of_kind (by simp [EvalError.kind])
      · exact Value.supplied_ofInt _
  | _ => exact Value.supplied_ofInt _

theorem Operator.supplied_apply (operator : Operator) (left right : Value) :
    Supplied (operator.apply left right) := by
  unfold apply
  split
  · exact operator.supplied_onInts _ _
  · exact .ok _
  · exact .ok _
  · exact .ok _
  · exact .ok _
  · exact .ok _
  · exact .of_kind (by simp [EvalError.kind])

theorem Scope.supplied_lookup (scope : Scope) (name : String) : Supplied (scope.lookup name) := by
  unfold lookup
  repeat' split
  all_goals first | exact .ok _ | exact .of_kind (by simp [EvalError.kind])

namespace Machine

variable {scope : Scope} {frames : List Frame}

theorem supplied_settle (value : Value) (frames : List Frame) : Supplied (settle value frames) := by
  induction frames generalizing value with
  | nil => exact .ok _
  | cons frame frames ih =>
      cases frame with
      | sign => exact value.supplied_negate.bind ih
      | product left operator => exact (operator.supplied_apply left value).bind fun _ => .ok _
      | _ => exact .ok _

theorem supplied_reduce (value : Value) (frames : List Frame) : Supplied (reduce value frames) := by
  unfold reduce
  split
  · exact (Operator.supplied_apply _ _ _).bind fun _ => .ok _
  · exact .ok _

theorem supplied_operand (scope : Scope) (frames : List Frame) (token : Token) :
    Supplied (operand scope frames token) := by
  cases token with
  | int | float | string => exact supplied_settle _ _
  | name name => exact (scope.supplied_lookup name).bind fun value => supplied_settle value frames
  | symbol sign =>
      cases sign with
      | minus | openParen | openBracket => exact .ok _
      | closeBracket =>
          unfold operand
          dsimp only
          split
          · exact supplied_settle _ _
          · exact .unexpected _
      | _ => exact .unexpected _

theorem supplied_close (value : Value) (frames : List Frame) (token : Token) :
    Supplied (close value frames token) := by
  unfold close
  split
  · split
    · exact supplied_settle _ _
    · exact .expected _ _
  · split
    · exact .ok _
    · exact supplied_settle _ _
    · exact .expected _ _
  · exact .unexpected _

theorem supplied_operation (value : Value) (frames : List Frame) (token : Token) :
    Supplied (operation value frames token) := by
  unfold operation
  split
  · exact .ok _
  · exact .ok _
  · apply (supplied_reduce value frames).bind
    rintro ⟨value, frames⟩
    dsimp only
    split
    · exact .ok _
    · exact .ok _
    · exact supplied_close _ _ _

/-- As long as there is a token, the machine does not fail for want of one. -/
theorem supplied_step (scope : Scope) (machine : Machine) (token : Token) :
    Supplied (machine.step scope token) := by
  unfold step
  split
  · exact supplied_operand _ _ _
  · exact supplied_operation _ _ _

/-- A run that fails for want of a token has read all tokens, and fails at their end. -/
theorem exists_of_run {machine : Machine} {read rest : List Token} {error : EvalError}
    (reads : Reads machine read) (failed : run scope machine rest = .error error)
    (ranOut : error.RanOut) :
    ∃ last : Machine, Reads last (read ++ rest) ∧ last.finish = .error error := by
  induction rest generalizing machine read with
  | nil =>
      refine ⟨machine, ?_, failed⟩
      rwa [List.append_nil]
  | cons token rest ih =>
      unfold run at failed
      cases stepped : machine.step scope token with
      | ok next =>
          rw [stepped] at failed
          rw [List.append_cons]
          exact ih (reads_step reads stepped) failed
      | error other =>
          rw [stepped] at failed
          cases failed
          exact absurd ranOut (supplied_step scope machine token error stepped)

/-! ## Frames that wait -/

/-- The number of lists that frames are in. -/
def brackets : List Frame → Nat
  | [] => 0
  | .items _ :: frames => brackets frames + 1
  | _ :: frames => brackets frames

/-- The number of groups that frames are in. -/
def parens : List Frame → Nat
  | [] => 0
  | .group :: frames => parens frames + 1
  | _ :: frames => parens frames

/-- What is open after the tokens that lead to some frames are the lists and groups among them. -/
theorem Leads.run_marks {before : List Token} (leads : Leads frames before) :
    Open.run {} (marks before) = some ⟨brackets frames, parens frames, false, false⟩ := by
  have operated (operator : Operator) (brackets parens : Nat) :
      Open.run ⟨brackets, parens, false, false⟩ (marks [.symbol operator.symbol]) =
        some ⟨brackets, parens, false, false⟩ := by cases operator <;> rfl
  induction leads with
  | nothing => rfl
  | sign _ ih | group _ ih | list _ ih => exact Open.run_marks_append ih rfl
  | sum _ _ _ derives ih | product _ _ _ derives ih =>
      exact Open.run_marks_append ih
        (Open.run_marks_append (derives.run_marks _ _) (operated _ _ _))
  | item _ derives ih =>
      exact Open.run_marks_append ih (Open.run_marks_append (derives.run_marks _ _) rfl)

end Machine

/-- More is needed behind some tokens: something is open, or the last one calls for more. -/
def CallsForMore (tokens : List Token) : Prop :=
  ∃ now, Open.run {} (marks tokens) = some now ∧
    (now.any ∨ ∃ symbol : Symbol, tokens.getLast? = some (.symbol symbol) ∧ continues symbol.char)

namespace Machine

variable {scope : Scope} {frames : List Frame} {before tokens : List Token}

/-- Tokens call for more if they lead to frames that are in a group or in a list. -/
theorem Leads.callsForMore_of_open (leads : Leads frames before) {more : List Token}
    (closed : Open.run ⟨brackets frames, parens frames, false, false⟩ (marks more) =
      some ⟨brackets frames, parens frames, false, false⟩)
    (isOpen : 0 < brackets frames ∨ 0 < parens frames) : CallsForMore (before ++ more) := by
  refine ⟨_, Open.run_marks_append leads.run_marks closed, .inl ?_⟩
  simp only [Open.any, Bool.or_false, Bool.or_eq_true, decide_eq_true_eq]
  exact isOpen

/-- All frames wait for something, so tokens that lead to any call for more. -/
theorem Leads.callsForMore (leads : Leads frames before) : before = [] ∨ CallsForMore before := by
  have ends (operator : Operator) : continues operator.symbol.char = true := by
    cases operator <;> decide
  have opened : 0 < brackets frames ∨ 0 < parens frames → CallsForMore before := by
    intro isOpen
    rw [← List.append_nil before]
    exact leads.callsForMore_of_open rfl isOpen
  have run := leads.run_marks
  cases leads with
  | nothing => exact .inl rfl
  | sign => exact .inr ⟨_, run, .inr ⟨.minus, List.getLast?_concat, by decide⟩⟩
  | sum | product =>
      rw [← List.append_assoc] at run ⊢
      exact .inr ⟨_, run, .inr ⟨_, List.getLast?_concat, ends _⟩⟩
  | group => exact .inr (opened (.inr (Nat.succ_pos _)))
  | list | item => exact .inr (opened (.inl (Nat.succ_pos _)))

/-- Tokens at whose end the machine fails for want of another one call for more. -/
theorem callsForMore_of_finish {machine : Machine} {error : EvalError}
    (reads : Reads machine tokens) (failed : machine.finish = .error error)
    (ranOut : error.RanOut) : tokens = [] ∨ CallsForMore tokens := by
  obtain ⟨frames, value⟩ := machine
  cases value with
  | none => exact Leads.callsForMore reads
  | some value =>
      obtain ⟨before, term, tree, rfl, leads, free, derives⟩ := reads
      unfold finish at failed
      cases reduced : reduce value frames with
      | error other =>
          dsimp only at failed
          rw [reduced] at failed
          cases failed
          exact absurd ranOut (supplied_reduce value frames error reduced)
      | ok result =>
          obtain ⟨result, rest⟩ := result
          obtain ⟨outer, expression, tree, split, leads, free, derives⟩ :=
            exists_of_reduce leads free derives reduced
          dsimp only at failed
          rw [reduced] at failed
          rw [split]
          right
          apply leads.callsForMore_of_open (derives.run_marks _ _)
          -- With no group and no list around it, the value would be that of the whole expression.
          cases leads with
          | nothing => cases failed
          | sign | sum | product => exact free.elim
          | group => exact .inr (Nat.succ_pos _)
          | list | item => exact .inl (Nat.succ_pos _)

end Machine

/-- An expression whose evaluation fails for want of another token calls for more. -/
theorem Scope.callsForMore_of_evaluate {scope : Scope} {tokens : List Token} {error : EvalError}
    (failed : scope.evaluate tokens = .error error) (ranOut : error.RanOut) :
    tokens = [] ∨ CallsForMore tokens := by
  have begun : Machine.Reads {} [] := Machine.Leads.nothing
  obtain ⟨last, reads, finished⟩ := Machine.exists_of_run begun failed ranOut
  exact Machine.callsForMore_of_finish reads finished ranOut

/-! ## The characters -/

theorem Symbol.isBlank_char (symbol : Symbol) : Text.isBlank symbol.char = false := by
  cases symbol <;> rfl

namespace Scanner

variable {state next : Scanner} {c : Char} {ended : List Token} {symbol : Symbol}

/-- Between two tokens only a blank character is no part of a token. -/
theorem blank_of_step (stepped : state.step c = .ok ([], .between)) :
    state = .between ∧ Text.isBlank c := by
  cases state with
  | between =>
      simp only [step, start] at stepped
      split at stepped
      · exact ⟨rfl, ‹_›⟩
      · split at stepped
        · cases stepped
        split at stepped
        · cases stepped
        split at stepped
        · cases stepped
        split at stepped <;> cases stepped
  | number read =>
      simp only [step] at stepped
      split at stepped
      · cases stepped
      · obtain ⟨token, _, stepped⟩ := exists_of_bind_eq_ok stepped
        obtain ⟨_, _, stepped⟩ := exists_of_bind_eq_ok stepped
        cases stepped
  | name read =>
      simp only [step] at stepped
      split at stepped
      · cases stepped
      · obtain ⟨_, _, stepped⟩ := exists_of_bind_eq_ok stepped
        cases stepped
  | string read =>
      simp only [step] at stepped
      split at stepped
      · cases stepped
      · split at stepped <;> cases stepped
  | escape read => cases stepped

/-- A text without tokens is blank. -/
theorem blank_of_run {source : List Char} (ran : state.run source = .ok []) :
    state = .between ∧ (Text.trimEnd source).getLast? = none := by
  induction source generalizing state with
  | nil =>
      cases state with
      | between => exact ⟨rfl, rfl⟩
      | number read =>
          obtain ⟨token, _, ran⟩ := exists_of_bind_eq_ok ran
          cases ran
      | name | string | escape => cases ran
  | cons c source ih =>
      obtain ⟨⟨ended, next⟩, stepped, ran⟩ := exists_of_bind_eq_ok ran
      obtain ⟨more, ranMore, joined⟩ := exists_of_bind_eq_ok ran
      obtain ⟨rfl, rfl⟩ := List.append_eq_nil_iff.mp (Except.ok.inj joined)
      obtain ⟨rfl, blank⟩ := ih ranMore
      obtain ⟨rfl, isBlank⟩ := blank_of_step stepped
      refine ⟨rfl, ?_⟩
      rw [getLast?_trimEnd_cons, blank, Option.none_or, if_pos isBlank]

/-- The character that ends a symbol is the symbol. -/
theorem eq_char_of_step (stepped : state.step c = .ok (ended, next))
    (last : ended.getLast? = some (.symbol symbol)) : c = symbol.char := by
  have started (before : List Token) {found : List Token} {next : Scanner}
      (start : start c = .ok (found, next)) (other : before.getLast? ≠ some (.symbol symbol))
      (last : (before ++ found).getLast? = some (.symbol symbol)) : c = symbol.char := by
    obtain ⟨sign, rfl, rfl, _⟩ | ⟨_, rfl, _⟩ | ⟨_, _, rfl, _⟩ := start_cases start
    · rw [List.getLast?_concat] at last
      cases last
      rfl
    · rw [List.append_nil] at last
      exact absurd last other
    · rw [List.append_nil] at last
      exact absurd last other
  cases state with
  | between => exact started [] stepped (by simp) last
  | number read =>
      simp only [step] at stepped
      split at stepped
      · cases stepped
        cases last
      · obtain ⟨token, number, stepped⟩ := exists_of_bind_eq_ok stepped
        obtain ⟨_, start, stepped⟩ := exists_of_bind_eq_ok stepped
        cases stepped
        refine started [token] start ?_ last
        rintro ⟨⟩
        cases marks_numberToken number
  | name read =>
      simp only [step] at stepped
      split at stepped
      · cases stepped
        cases last
      · obtain ⟨_, start, stepped⟩ := exists_of_bind_eq_ok stepped
        cases stepped
        exact started [.name _] start (by simp) last
  | string read =>
      simp only [step] at stepped
      split at stepped
      · cases stepped
        cases last
      · split at stepped <;> cases stepped <;> cases last
  | escape read =>
      cases stepped
      cases last

/-- A symbol that is the last token is the last character that is not blank. -/
theorem getLast?_of_getLast? {source : List Char} {found : List Token}
    (ran : state.run source = .ok found) (last : found.getLast? = some (.symbol symbol)) :
    (Text.trimEnd source).getLast? = some symbol.char := by
  induction source generalizing state found with
  | nil =>
      cases state with
      | between =>
          cases ran
          cases last
      | number read =>
          obtain ⟨token, number, ran⟩ := exists_of_bind_eq_ok ran
          cases ran
          cases last
          cases marks_numberToken number
      | name =>
          cases ran
          cases last
      | string | escape => cases ran
  | cons c source ih =>
      obtain ⟨⟨ended, next⟩, stepped, ran⟩ := exists_of_bind_eq_ok ran
      obtain ⟨more, ranMore, joined⟩ := exists_of_bind_eq_ok ran
      cases joined
      rw [getLast?_trimEnd_cons]
      rw [List.getLast?_append, Option.or_eq_some_iff] at last
      rcases last with last | ⟨none, last⟩
      · rw [ih ranMore last, Option.some_or]
      · obtain rfl := List.getLast?_eq_none_iff.mp none
        obtain rfl := eq_char_of_step stepped last
        rw [(blank_of_run ranMore).2, symbol.isBlank_char]
        rfl

end Scanner

/-- A text whose tokens call for more is not blank. -/
theorem CallsForMore.not_allBlank {source : List Char} {found : List Token}
    (calls : CallsForMore found) (read : tokens source = .ok found) :
    Text.allBlank source = false := by
  rw [← Bool.not_eq_true]
  intro blank
  have nothing : tokens source = .ok [] := by
    refine (Scanner.run_blank ?_).1
    rw [Text.trimEnd_eq_nil_iff.mpr blank]
    rfl
  rw [nothing] at read
  cases read
  obtain ⟨_, ⟨⟩, isOpen | ⟨_, last, _⟩⟩ := calls
  · cases isOpen
  · cases last

/-- A text whose tokens call for more is not complete. -/
theorem CallsForMore.isComplete {source : List Char} {found : List Token}
    (calls : CallsForMore found) (read : tokens source = .ok found) :
    isComplete source = false := by
  obtain ⟨now, run, isOpen | ⟨symbol, last, goesOn⟩⟩ := calls
  all_goals
    have plain : Open.Plain {} := ⟨rfl, rfl⟩
    rw [← plain.run_of_tokens read] at run
  · simp only [Console.isComplete, run, isOpen, Bool.not_true, Bool.false_and]
  · have visible := Scanner.getLast?_of_getLast? read last
    simp only [Console.isComplete, run, endsOpen, visible, goesOn, Bool.not_true, Bool.and_false]

namespace Calculator

variable {calculator next : Calculator} {source : String} {target last value : Value}
  {found : List Token} {error : EvalError}

/-- Tokens without a semicolon are one statement. -/
theorem statements_of_single (single : .symbol .semicolon ∉ found) :
    statements found = [found] := by
  induction found with
  | nil => rfl
  | cons token rest ih =>
      rw [List.mem_cons, not_or] at single
      have semicolon : token.isSemicolon = false := by
        unfold Token.isSemicolon
        split
        · exact absurd rfl single.1
        · rfl
      simp only [statements, semicolon, ih single.2, Bool.false_eq_true, if_false]

/-- A statement whose evaluation fails for want of another token calls for more. -/
theorem callsForMore_of_evaluateStatement {statement : List Token} (nonempty : statement ≠ [])
    (failed : calculator.evaluateStatement source target last statement = (.error error, next))
    (ranOut : error.RanOut) : CallsForMore statement := by
  unfold evaluateStatement at failed
  dsimp only at failed
  split at failed
  · split at failed
    · cases failed
    · cases failed
      rename_i expression _ evaluated
      rcases Scope.callsForMore_of_evaluate evaluated ranOut with rfl | calls
      · exact ⟨_, rfl, .inr ⟨.equals, rfl, by decide⟩⟩
      · obtain ⟨now, run, isOpen | ⟨symbol, ends, goesOn⟩⟩ := calls
        · exact ⟨now, run, .inl isOpen⟩
        · refine ⟨now, run, .inr ⟨symbol, ?_, goesOn⟩⟩
          simp only [List.getLast?_cons, ends, Option.getD_some]
  · have evaluated := congrArg Prod.fst failed
    exact (Scope.callsForMore_of_evaluate evaluated ranOut).resolve_left nonempty

theorem callsForMore_of_evaluate (read : tokens source.toList = .ok found)
    (single : .symbol .semicolon ∉ found)
    (failed : calculator.evaluate source target last = (.error error, next))
    (ranOut : error.RanOut) : CallsForMore found := by
  unfold evaluate at failed
  rw [read] at failed
  dsimp only at failed
  rw [statements_of_single single] at failed
  cases found with
  | nil => cases failed
  | cons token rest =>
      simp only [evaluateStatements] at failed
      split at failed
      · cases failed
      · cases failed
        exact callsForMore_of_evaluateStatement (List.cons_ne_nil _ _) ‹_› ranOut

/-- An evaluation of a single statement that fails because the input has ended is of a text that is
not complete: where it waits in the buffer, it is not evaluated, and the next line is asked for with
the prompt of a continuation. -/
theorem isComplete_of_ranOut (calculator : Calculator) (source : String) (target last : Value)
    (found : List Token) (read : tokens source.toList = .ok found)
    (single : .symbol .semicolon ∉ found) (error : EvalError) (next : Calculator)
    (failed : calculator.evaluate source target last = (.error error, next))
    (ranOut : error.RanOut) :
    isComplete source = false ∧
      ∀ engine : Engine, engine.desk.buffer.text = source →
        engine.settle = engine ∧
          engine.prompt =
            engine.prompts.continuation engine.sessions.target engine.sessions.level := by
  have calls := callsForMore_of_evaluate read single failed ranOut
  have incomplete : isComplete source = false := calls.isComplete read
  refine ⟨incomplete, ?_⟩
  rintro engine rfl
  have visible : engine.desk.buffer.isBlank = false := calls.not_allBlank read
  have nonempty : engine.desk.buffer.isEmpty = false := by
    rw [← Bool.not_eq_true]
    intro isEmpty
    rw [Buffer.isBlank, String.isEmpty_iff.mp isEmpty] at visible
    cases visible
  constructor
  · simp only [Engine.settle, visible, incomplete, Bool.false_eq_true, if_false]
  · simp only [Engine.prompt, nonempty, Bool.false_eq_true, if_false]

/-- A parenthesis is open in a list, behind a bracket that is in a string. -/
theorem isComplete_of_ranOut_parenthesis : isComplete "let x = [\"]\", -(2\n" = false := by
  refine (isComplete_of_ranOut {} "let x = [\"]\", -(2\n" .nil .nil _ rfl ?_
    (.expected .closeParen none) {} rfl ⟨rfl, .inr ⟨"`)`", rfl⟩⟩).1
  simp

end Calculator

end Console
