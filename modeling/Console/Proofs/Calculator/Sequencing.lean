import Console.Proofs.Calculator.Printing

/-!
# Statements one after the other

Two texts with a blank character between them are read as the tokens of the one and then those of
the other.  Two texts with a semicolon between them are evaluated as the first text and then, unless
that fails, the second one.  What statements do to a calculator is told apart from the text that is
remembered as the source of what they bind: they come to a value or an error, and to some names with
their values, and both depend on what is bound before but not on any source.
-/

namespace Console

/-! ## The tokens of two texts -/

namespace Scanner

variable {state : Scanner} {text rest : List Char} {read : List Token}

/-- What is behind a text is read as if nothing were before it, unless a number or a name goes on
there. -/
theorem run_append (ran : state.run text = .ok read) (apart : Apart rest) :
    state.run (text ++ rest) = between.run rest >>= fun more => .ok (read ++ more) := by
  induction text generalizing state read with
  | nil =>
      cases rest with
      | nil =>
          have finished : state.finish = .ok read := ran
          change state.finish = .ok (read ++ [])
          rw [finished, List.append_nil]
      | cons c rest =>
          obtain ⟨noNumber, noName⟩ := apart c rfl
          cases state with
          | between =>
              cases ran
              exact (bind_pure (between.run (c :: rest))).symm
          | number digits =>
              obtain ⟨token, isNumber, same⟩ := exists_of_bind_eq_ok ran
              cases same
              apply run_of_ends
              simp only [step, noNumber, isNumber, Bool.false_eq_true, if_false]
              rfl
          | name letters =>
              cases ran
              apply run_of_ends
              simp only [step, noName, Bool.false_eq_true, if_false]
          | string | escape => cases ran
  | cons c text ih =>
      obtain ⟨⟨ended, next⟩, stepped, ran⟩ := exists_of_bind_eq_ok ran
      obtain ⟨more, ranRest, same⟩ := exists_of_bind_eq_ok ran
      cases same
      rw [List.cons_append, run, stepped]
      change (next.run (text ++ rest) >>= fun more => .ok (ended ++ more)) = _
      rw [ih ranRest, bind_assoc]
      simp only [List.append_assoc]
      rfl

theorem run_blanks {blanks : List Char} (blank : Text.allBlank blanks) (rest : List Char) :
    between.run (blanks ++ rest) = between.run rest := by
  induction blanks with
  | nil => rfl
  | cons c blanks ih =>
      rw [Text.allBlank_cons, Bool.and_eq_true] at blank
      have stepped : between.step c = .ok ([], between) := by
        simp only [step, start, blank.1, if_true]
      rw [List.cons_append, run_of_silent stepped, ih blank.2]

/-- No number and no name goes on with a blank character. -/
theorem not_continues_of_isBlank {c : Char} (blank : Text.isBlank c = true) :
    continuesNumber c = false ∧ continuesName c = false := by
  have other (d : Char) (visible : Text.isBlank d = false) : (c == d) = false := by
    rw [beq_eq_false_iff_ne]
    rintro rfl
    rw [visible] at blank
    cases blank
  have noDigit : Text.isDigit c = false := by
    rw [← Bool.not_eq_true]
    intro digit
    rw [Text.isBlank_of_isDigit digit] at blank
    cases blank
  simp only [continuesNumber, continuesName, noDigit, other '.' rfl, other '_' rfl,
    Text.not_isAlphanumeric_of_isBlank blank, Bool.or_self, and_self]

/-- Behind a blank character a text is read as if nothing were before it. -/
theorem run_append_blank {c : Char} (ran : state.run text = .ok read)
    (blank : Text.isBlank c = true) (rest : List Char) :
    state.run (text ++ c :: rest) = (between.run rest).map (read ++ ·) := by
  have apart : Apart (c :: rest) := by
    rintro d ⟨⟩
    exact not_continues_of_isBlank blank
  have isGap : Text.allBlank [c] := by simp [blank]
  have behind : between.run (c :: rest) = between.run rest := run_blanks isGap rest
  rw [run_append ran apart, behind]
  cases between.run rest <;> rfl

end Scanner

/-- The tokens of texts with a blank character between each two of them. -/
theorem tokens_joinWith_blank {c : Char} (blank : Text.isBlank c = true) {texts : List (List Char)}
    {found : List (List Token)} (read : texts.mapM tokens = .ok found) :
    tokens (Text.joinWith [c] texts) = .ok found.flatten := by
  induction texts generalizing found with
  | nil =>
      cases read
      rfl
  | cons first rest ih =>
      rw [List.mapM_cons] at read
      obtain ⟨tokensOfFirst, readFirst, read⟩ := exists_of_bind_eq_ok read
      obtain ⟨others, readRest, same⟩ := exists_of_bind_eq_ok read
      cases same
      have readOthers := ih readRest
      cases rest with
      | nil =>
          cases readRest
          exact readFirst.trans (congrArg Except.ok (List.append_nil tokensOfFirst).symm)
      | cons next rest =>
          have joined : Text.joinWith [c] (first :: next :: rest) =
              first ++ c :: Text.joinWith [c] (next :: rest) := by simp [Text.joinWith]
          have behind := Scanner.run_append_blank readFirst blank (Text.joinWith [c] (next :: rest))
          change _ = (tokens (Text.joinWith [c] (next :: rest))).map _ at behind
          rw [joined, tokens, behind, readOthers, List.flatten_cons]
          rfl

/-- Reading tokens is a homomorphism over blank characters.  Behind a text that reads as tokens and
a blank character, whichever it is, come the tokens of what is behind it, or the error in that.  So
texts that read as tokens are read line by line when they are joined by line breaks; and where no
number or name goes on, it makes no difference whether there is a line break. -/
theorem blanks_keep_tokens_apart {c : Char} (blank : Text.isBlank c = true) :
    (∀ (first second : List Char) (found : List Token), tokens first = .ok found →
      tokens (first ++ c :: second) = (tokens second).map (found ++ ·) ∧
        (Scanner.Apart second → tokens (first ++ c :: second) = tokens (first ++ second))) ∧
    ∀ (texts : List (List Char)) (found : List (List Token)), texts.mapM tokens = .ok found →
      tokens (Text.joinWith [c] texts) = .ok found.flatten := by
  refine ⟨?_, fun texts found read => tokens_joinWith_blank blank read⟩
  intro first second found read
  have behind : tokens (first ++ c :: second) = (tokens second).map (found ++ ·) :=
    Scanner.run_append_blank read blank second
  refine ⟨behind, fun apart => ?_⟩
  rw [behind, tokens, tokens, Scanner.run_append read apart]
  cases Scanner.between.run second <;> rfl

/-- Each of the line breaks stands where a number or a name would go on without it, and the number
behind the last one is an error of its own. -/
theorem blanks_keep_tokens_apart_at_seams :
    tokens "1_0.\n5\na_\n_b".toList =
        .ok [.float (.ofScientific 10 true 0), .int 5, .name "a_", .name "_b"] ∧
      tokens "a_\n1.5.0 \"open".toList = .error (.invalidNumber "1.5.0") := by
  have blank : Text.isBlank '\n' = true := rfl
  obtain ⟨append, join⟩ := blanks_keep_tokens_apart blank
  have name : tokens "a_".toList = .ok [.name "a_"] := rfl
  have joined := join ["1_0.".toList, "5".toList, "a_".toList, "_b".toList]
    [[.float (.ofScientific 10 true 0)], [.int 5], [.name "a_"], [.name "_b"]] rfl
  have failed : tokens "1.5.0 \"open".toList = .error (.invalidNumber "1.5.0") := rfl
  have behind := (append _ "1.5.0 \"open".toList _ name).1
  rw [failed] at behind
  exact ⟨joined, behind⟩

/-- The tokens of two texts with a symbol between them. -/
theorem tokens_append_symbol {first second : List Char} {found foundToo : List Token}
    (read : tokens first = .ok found) (readToo : tokens second = .ok foundToo) (symbol : Symbol) :
    tokens (first ++ symbol.char :: second) = .ok (found ++ .symbol symbol :: foundToo) := by
  have stepped : Scanner.between.step symbol.char = .ok ([.symbol symbol], .between) :=
    symbol.start_char
  have behind := Scanner.run_cons stepped readToo
  rw [tokens, Scanner.run_append read (Scanner.apart_symbol symbol second), behind]
  rfl

/-! ## What statements do -/

/-- Binds names one after the other. -/
def Bindings.insertAll {α : Type} (bindings : Bindings α) (bound : List (String × α)) :
    Bindings α :=
  bound.foldl (fun bindings entry => bindings.insert entry.1 entry.2) bindings

namespace Calculator

/-- The name that a statement binds, if it is one that binds, and the expression behind it. -/
def letOf? : List Token → Option (String × List Token)
  | .name "let" :: .name name :: .symbol .equals :: expression => some (name, expression)
  | _ => none

/-- The value of a statement, and what it binds. -/
def effect (scope : Scope) (statement : List Token) :
    Except EvalError (Value × List (String × Value)) :=
  match letOf? statement with
  | some (name, expression) =>
      (scope.evaluate expression).map fun value => (value, [(name, value)])
  | none => (scope.evaluate statement).map fun value => (value, [])

/-- What statements come to: the value of the last one or the first error, and all that is bound on
the way. -/
def effects (target last : Value) : Bindings Value → Value → List (List Token) →
    Except EvalError Value × List (String × Value)
  | _, value, [] => (.ok value, [])
  | bindings, value, [] :: rest => effects target last bindings value rest
  | bindings, _, statement :: rest =>
      match effect ⟨bindings, target, last⟩ statement with
      | .ok (value, bound) =>
          let (result, more) := effects target last (bindings.insertAll bound) value rest
          (result, bound ++ more)
      | .error error => (.error error, [])

/-- Binds names one after the other, all with one text as their source. -/
def bindAll (calculator : Calculator) (source : String) (bound : List (String × Value)) :
    Calculator :=
  bound.foldl (fun calculator entry => calculator.bind entry.1 entry.2 source) calculator

variable {calculator after : Calculator} {source : String} {target last value : Value}
  {error : EvalError} {bound : List (String × Value)}

theorem bindings_bindAll (calculator : Calculator) (source : String)
    (bound : List (String × Value)) :
    (calculator.bindAll source bound).bindings = calculator.bindings.insertAll bound := by
  induction bound generalizing calculator with
  | nil => rfl
  | cons entry bound ih => exact ih _

/-- The names that are bound get the source, and no others. -/
theorem source?_bindAll (calculator : Calculator) (source : String)
    (bound : List (String × Value)) (name : String) :
    (calculator.bindAll source bound).source? name =
      if name ∈ bound.map Prod.fst then some source else calculator.source? name := by
  induction bound generalizing calculator with
  | nil => rfl
  | cons entry bound ih =>
      have first : (calculator.bind entry.1 entry.2 source).source? name =
          if name = entry.1 then some source else calculator.source? name :=
        Bindings.get?_insert calculator.sources entry.1 name source
      change ((calculator.bind entry.1 entry.2 source).bindAll source bound).source? name = _
      rw [ih, first, List.map_cons]
      by_cases later : name ∈ bound.map Prod.fst
      · rw [if_pos later, if_pos (List.mem_cons_of_mem _ later)]
      · rw [if_neg later]
        simp only [List.mem_cons, later, or_false]

theorem evaluateStatement_eq (calculator : Calculator) (source : String) (target last : Value)
    (statement : List Token) :
    calculator.evaluateStatement source target last statement =
      match effect ⟨calculator.bindings, target, last⟩ statement with
      | .ok (value, bound) => (.ok value, calculator.bindAll source bound)
      | .error error => (.error error, calculator) := by
  unfold evaluateStatement effect
  split
  next name expression =>
    have isLet : letOf? (.name "let" :: .name name :: .symbol .equals :: expression) =
      some (name, expression) := by simp only [letOf?]
    rw [isLet]
    dsimp only
    cases Scope.evaluate ⟨calculator.bindings, target, last⟩ expression <;> rfl
  next noLet =>
    have plain : letOf? statement = none := by
      unfold letOf?
      split
      next name expression => exact absurd rfl (noLet name expression)
      next => rfl
    rw [plain]
    dsimp only
    cases Scope.evaluate ⟨calculator.bindings, target, last⟩ statement <;> rfl

/-- The source of a text makes no difference but to what is remembered as the source. -/
theorem evaluateStatements_eq (calculator : Calculator) (source : String)
    (target last value : Value) (found : List (List Token)) :
    evaluateStatements source target last calculator value found =
      ((effects target last calculator.bindings value found).1,
        calculator.bindAll source (effects target last calculator.bindings value found).2) := by
  induction found generalizing calculator value with
  | nil => rfl
  | cons statement rest ih =>
      cases statement with
      | nil => exact ih calculator value
      | cons token tokens =>
          simp only [evaluateStatements, evaluateStatement_eq, effects]
          cases effect ⟨calculator.bindings, target, last⟩ (token :: tokens) with
          | error error => rfl
          | ok done =>
              obtain ⟨value, bound⟩ := done
              dsimp only
              rw [ih, bindings_bindAll]
              simp only [bindAll, List.foldl_append]

/-- Statements behind others do what they do on what those have bound, unless one of those fails. -/
theorem effects_append (target last : Value) (bindings : Bindings Value) (value : Value)
    (found more : List (List Token)) :
    effects target last bindings value (found ++ more) =
      match effects target last bindings value found with
      | (.ok value, bound) =>
          let (result, boundLater) := effects target last (bindings.insertAll bound) value more
          (result, bound ++ boundLater)
      | (.error error, bound) => (.error error, bound) := by
  induction found generalizing bindings value with
  | nil => rfl
  | cons statement rest ih =>
      cases statement with
      | nil => exact ih bindings value
      | cons token tokens =>
          simp only [List.cons_append, effects]
          cases effect ⟨bindings, target, last⟩ (token :: tokens) with
          | error error => rfl
          | ok done =>
              obtain ⟨value, bound⟩ := done
              dsimp only
              rw [ih]
              obtain ⟨result, later⟩ :=
                effects target last (bindings.insertAll bound) value rest
              cases result with
              | error error => rfl
              | ok value =>
                  simp only [Bindings.insertAll, List.foldl_append, List.append_assoc]

/-- Where there is a statement, nothing is left of the value before it. -/
theorem effects_of_statement {found : List (List Token)}
    (furnished : ∃ statement ∈ found, statement ≠ [])
    (target last : Value) (bindings : Bindings Value) (value other : Value) :
    effects target last bindings value found = effects target last bindings other found := by
  induction found with
  | nil =>
      obtain ⟨_, member, _⟩ := furnished
      cases member
  | cons statement rest ih =>
      cases statement with
      | nil =>
          obtain ⟨statement, member, some⟩ := furnished
          rcases List.mem_cons.mp member with rfl | member
          · exact absurd rfl some
          · exact ih ⟨statement, member, some⟩
      | cons token tokens => rfl

theorem statements_append_semicolon (found more : List Token) :
    statements (found ++ .symbol .semicolon :: more) = statements found ++ statements more := by
  induction found with
  | nil => rfl
  | cons token rest ih =>
      obtain ⟨statement, others, split⟩ := exists_statements rest
      rw [List.cons_append, statements, statements, ih, split]
      cases token.isSemicolon <;> rfl

theorem evaluate_of_tokens {found : List Token} (read : tokens source.toList = .ok found)
    (calculator : Calculator) (target last : Value) :
    calculator.evaluate source target last =
      ((effects target last calculator.bindings .nil (statements found)).1,
        calculator.bindAll (trimmedEnd source)
          (effects target last calculator.bindings .nil (statements found)).2) := by
  rw [evaluate, read]
  exact evaluateStatements_eq calculator (trimmedEnd source) target last .nil (statements found)

theorem evaluateStatements_append (found more : List (List Token)) :
    evaluateStatements source target last calculator value (found ++ more) =
      match evaluateStatements source target last calculator value found with
      | (.ok value, after) => evaluateStatements source target last after value more
      | (.error error, after) => (.error error, after) := by
  induction found generalizing calculator value with
  | nil => rfl
  | cons statement rest ih =>
      cases statement with
      | nil => exact ih
      | cons token tokens =>
          simp only [List.cons_append, evaluateStatements]
          split
          · exact ih
          · rfl

/-- A statement that fails changes nothing. -/
theorem eq_of_evaluateStatement_eq_error {statement : List Token}
    (failed : calculator.evaluateStatement source target last statement = (.error error, after)) :
    after = calculator := by
  rw [evaluateStatement_eq] at failed
  split at failed
  · cases failed
  · cases failed
    rfl

/-- The first error is that of a statement behind others that succeed, and it leaves the calculator
as those have left it. -/
theorem evaluateStatements_eq_error_iff {found : List (List Token)} :
    evaluateStatements source target last calculator value found = (.error error, after) ↔
      ∃ before failing rest later, found = before ++ failing :: rest ∧ failing ≠ [] ∧
        evaluateStatements source target last calculator value before = (.ok later, after) ∧
        after.evaluateStatement source target last failing = (.error error, after) := by
  constructor
  · intro failed
    induction found generalizing calculator value with
    | nil => cases failed
    | cons statement rest ih =>
        cases statement with
        | nil =>
            obtain ⟨before, failing, behind, later, rfl, some, succeeded, fails⟩ := ih failed
            exact ⟨[] :: before, failing, behind, later, rfl, some, succeeded, fails⟩
        | cons token tokens =>
            simp only [evaluateStatements] at failed
            split at failed
            next value next done =>
              obtain ⟨before, failing, behind, later, rfl, some, succeeded, fails⟩ := ih failed
              refine ⟨(token :: tokens) :: before, failing, behind, later, rfl, some, ?_, fails⟩
              simp only [evaluateStatements, done, succeeded]
            next firstError next fails =>
              cases failed
              obtain rfl := eq_of_evaluateStatement_eq_error fails
              exact ⟨[], token :: tokens, rest, value, rfl, List.cons_ne_nil _ _, rfl, fails⟩
  · rintro ⟨before, failing, rest, later, rfl, some, succeeded, fails⟩
    obtain ⟨token, tokens, rfl⟩ := List.exists_cons_of_ne_nil some
    simp only [evaluateStatements_append, succeeded, evaluateStatements, fails]

/-- Evaluates a text and then, unless that fails, another one. -/
def evaluateBoth (calculator : Calculator) (first second : String) (target last : Value) :
    Evaluated :=
  match calculator.evaluate first target last with
  | (.ok _, after) => after.evaluate second target last
  | (.error error, after) => (.error error, after)

/-- Names that are bound before others have one of the two sources. -/
theorem source?_bindAll_bindAll (calculator : Calculator) (source other : String)
    (bound later : List (String × Value)) {name : String}
    (among : name ∈ (bound ++ later).map Prod.fst) :
    ((calculator.bindAll source bound).bindAll other later).source? name = some source ∨
      ((calculator.bindAll source bound).bindAll other later).source? name = some other := by
  rw [source?_bindAll, source?_bindAll]
  by_cases isLater : name ∈ later.map Prod.fst
  · exact .inr (if_pos isLater)
  · rw [List.map_append, List.mem_append] at among
    exact .inl (by rw [if_neg isLater, if_pos (among.resolve_right isLater)])

/-- Two texts with a semicolon between them come to what they come to one after the other, and bind
the same values to the same names. -/
theorem evaluate_append_semicolon {first second : String} {found foundToo : List Token}
    (read : tokens first.toList = .ok found) (readToo : tokens second.toList = .ok foundToo)
    (furnished : ∃ statement ∈ statements foundToo, statement ≠ []) (calculator : Calculator)
    (target last : Value) :
    ∃ result bound later,
      calculator.evaluate (first ++ ";" ++ second) target last =
        (result, calculator.bindAll (trimmedEnd (first ++ ";" ++ second)) (bound ++ later)) ∧
      calculator.evaluateBoth first second target last =
        (result,
          (calculator.bindAll (trimmedEnd first) bound).bindAll (trimmedEnd second) later) := by
  have readBoth : tokens (first ++ ";" ++ second).toList =
      .ok (found ++ .symbol .semicolon :: foundToo) := by
    have split : (first ++ ";" ++ second).toList =
        first.toList ++ Symbol.semicolon.char :: second.toList := by
      simp [String.toList_append, Symbol.char]
    rw [split]
    exact tokens_append_symbol read readToo .semicolon
  rw [evaluateBoth, evaluate_of_tokens readBoth, evaluate_of_tokens read,
    statements_append_semicolon, effects_append]
  cases effects target last calculator.bindings .nil (statements found) with
  | mk result bound =>
      cases result with
      | error error => exact ⟨.error error, bound, [], by rw [List.append_nil], rfl⟩
      | ok value =>
          dsimp only
          rw [evaluate_of_tokens readToo, bindings_bindAll,
            effects_of_statement furnished target last _ value .nil]
          exact ⟨_, bound, _, rfl, rfl⟩

/-- A semicolon between two texts sequences them.  Both of them read as tokens, and the second has a
statement: then the value or the error and all variables are those of evaluating the first text and,
unless it fails, the second one with the same target and last result, and the same names get a
source.  Where a text that reads as tokens fails, all statements before the one that fails have done
what they do, and that one and those behind it have done nothing.  A text that does not read as
tokens does nothing. -/
theorem semicolons_sequence (calculator : Calculator) (target last : Value) :
    (∀ (first second : String) (found foundToo : List Token),
      tokens first.toList = .ok found → tokens second.toList = .ok foundToo →
      (∃ statement ∈ statements foundToo, statement ≠ []) →
        let joined := calculator.evaluate (first ++ ";" ++ second) target last
        let both := calculator.evaluateBoth first second target last
        joined.1 = both.1 ∧ joined.2.bindings = both.2.bindings ∧
          ∃ names : List String,
            (∀ name ∈ names,
              joined.2.source? name = some (trimmedEnd (first ++ ";" ++ second)) ∧
                (both.2.source? name = some (trimmedEnd first) ∨
                  both.2.source? name = some (trimmedEnd second))) ∧
            ∀ name, name ∉ names →
              joined.2.source? name = calculator.source? name ∧
                both.2.source? name = calculator.source? name) ∧
    (∀ (source : String) (found : List Token), tokens source.toList = .ok found →
      ∀ error after, calculator.evaluate source target last = (.error error, after) ↔
        ∃ before failing rest value, statements found = before ++ failing :: rest ∧ failing ≠ [] ∧
          evaluateStatements (trimmedEnd source) target last calculator .nil before =
            (.ok value, after) ∧
          after.evaluateStatement (trimmedEnd source) target last failing =
            (.error error, after)) ∧
    ∀ (source : String) (error : EvalError), tokens source.toList = .error error →
      calculator.evaluate source target last = (.error error, calculator) := by
  refine ⟨?_, ?_, ?_⟩
  · intro first second found foundToo read readToo furnished joined both
    obtain ⟨result, bound, later, whole, parts⟩ :=
      evaluate_append_semicolon read readToo furnished calculator target last
    have joined_eq : joined = _ := whole
    have both_eq : both = _ := parts
    rw [joined_eq, both_eq]
    refine ⟨rfl, ?_, (bound ++ later).map Prod.fst, ?_, ?_⟩
    · simp only [bindings_bindAll, Bindings.insertAll, List.foldl_append]
    · intro name among
      exact ⟨by rw [source?_bindAll, if_pos among], source?_bindAll_bindAll _ _ _ _ _ among⟩
    · intro name unbound
      have apart := unbound
      rw [List.map_append, List.mem_append, not_or] at apart
      simp only [source?_bindAll, if_neg unbound, if_neg apart.1, if_neg apart.2, and_self]
  · intro source found read error after
    rw [evaluate, read]
    exact evaluateStatements_eq_error_iff
  · intro source error failed
    rw [evaluate, failed]

/-- The semicolon in the string separates nothing, the one behind it an empty statement, and what
has been bound stays bound when the second `let` fails. -/
theorem semicolons_sequence_around_failing_let :
    (evaluate {} ("let x = \"a;b\"" ++ ";" ++ "; let x = x * 2") .nil .nil).1 =
        .error (.operandTypes .multiply "string" "int") ∧
      (evaluate {} ("let x = \"a;b\"" ++ ";" ++ "; let x = x * 2") .nil .nil).2.binding? "x" =
        some (.string "a;b") := by
  have read : tokens "let x = \"a;b\"".toList =
      .ok [.name "let", .name "x", .symbol .equals, .string "a;b"] := rfl
  have readToo : tokens "; let x = x * 2".toList =
      .ok [.symbol .semicolon, .name "let", .name "x", .symbol .equals, .name "x", .symbol .times,
        .int 2] := rfl
  have furnished : ∃ statement ∈ statements [.symbol .semicolon, .name "let", .name "x",
      .symbol .equals, .name "x", .symbol .times, .int 2], statement ≠ [] :=
    ⟨_, List.mem_cons_of_mem _ List.mem_cons_self, List.cons_ne_nil _ _⟩
  obtain ⟨result, bindings, _⟩ :=
    (semicolons_sequence {} .nil .nil).1 _ _ _ _ read readToo furnished
  exact ⟨result, congrArg (Bindings.get? · "x") bindings⟩

end Calculator

end Console
