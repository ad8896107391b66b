import Console.Proofs.Calculator.Grammar

/-!
# Evaluation and the grammar

The machine evaluates while it reads and knows nothing of trees.  It gives a value to exactly the
tokens that are an expression, and that value is the tree's.  One half follows the derivation: what
the machine makes of a phrase is what it makes of the value of its tree, whatever frames are
around the phrase and whatever comes next.  The other half follows the run: the frames tell what has
been read, and each token is read behind the others.
-/

namespace Console

/-- A computation has a result only if its first step has one. -/
theorem exists_of_bind_eq_ok {ε α β : Type} {first : Except ε α} {next : α → Except ε β}
    {result : β} (done : first >>= next = .ok result) :
    ∃ value, first = .ok value ∧ next value = .ok result := by
  cases first with
  | ok value => exact ⟨value, rfl, done⟩
  | error error => cases done

namespace Derives

variable {rank : Rank} {operator : Operator} {left tree right : Expression}
  {tokens more : List Token}

/-- A chain can go on with a further operand. -/
theorem concat_further (derives : Derives (.further rank left) tree tokens)
    (ranked : operator.rank = rank) (operand : Derives rank.operand right more) :
    Derives (.further rank left) (.binary operator tree right)
      (tokens ++ .symbol operator.symbol :: more) := by
  generalize same : Phrase.further rank left = phrase at derives
  induction derives generalizing left with
  | done =>
      cases same
      rw [List.nil_append, ← List.append_nil more]
      exact .further ranked operand .done
  | further rankedFirst first _ _ ih =>
      cases same
      rw [List.cons_append, List.append_assoc]
      exact .further rankedFirst first (ih rfl)
  | _ => cases same

theorem concat (derives : Derives (.chain rank) tree tokens) (ranked : operator.rank = rank)
    (operand : Derives rank.operand right more) :
    Derives (.chain rank) (.binary operator tree right)
      (tokens ++ .symbol operator.symbol :: more) := by
  cases derives with
  | chain first rest =>
      rw [List.append_assoc]
      exact .chain first (rest.concat_further ranked operand)

/-- An operand alone is a chain. -/
theorem single (operand : Derives rank.operand tree tokens) :
    Derives (.chain rank) tree tokens := by
  rw [← List.append_nil tokens]
  exact .chain operand .done

end Derives

namespace Expression

theorem evaluateAll_concat (scope : Scope) (read : List Expression) (item : Expression) :
    evaluateAll scope (read ++ [item]) =
      evaluateAll scope read >>= fun values =>
        item.evaluate scope >>= fun value => .ok (values ++ [value]) := by
  induction read with
  | nil => rfl
  | cons first read ih =>
      simp only [List.cons_append, evaluateAll, ih, bind_assoc]
      rfl

end Expression

namespace Rank

/-- No frame on top waits for an operand of the rank or of a stronger one. -/
def Free : Rank → List Frame → Prop
  | _, .sign :: _ | _, .product .. :: _ => False
  | sum, .sum .. :: _ => False
  | _, _ => True

theorem Free.product {rank : Rank} {frames : List Frame} (free : rank.Free frames) :
    Rank.product.Free frames := by
  cases frames with
  | nil => trivial
  | cons frame frames => cases frame <;> trivial

/-- The frame that waits for the right operand of an operator. -/
def frame (left : Value) (operator : Operator) : Rank → Frame
  | sum => .sum left operator
  | product => .product left operator

end Rank

namespace Machine

variable {scope : Scope} {frames : List Frame} {rank : Rank} {operator : Operator}

theorem settle_of_free (value : Value) (free : rank.Free frames) :
    settle value frames = .ok ⟨frames, some value⟩ := by
  cases frames with
  | nil => rfl
  | cons frame frames => cases frame <;> first | rfl | exact free.elim

theorem reduce_of_free (value : Value) (free : Rank.sum.Free frames) :
    reduce value frames = .ok (value, frames) := by
  cases frames with
  | nil => rfl
  | cons frame frames => cases frame <;> first | rfl | exact free.elim

/-- An operator behind an operand waits for its right operand. -/
theorem run_operator (value : Value) (free : operator.rank.Free frames) (rest : List Token) :
    run scope ⟨frames, some value⟩ (.symbol operator.symbol :: rest) =
      run scope ⟨operator.rank.frame value operator :: frames, none⟩ rest := by
  cases operator with
  | multiply | divide => rfl
  | add | subtract =>
      simp only [run, step, Operator.symbol, operation, reduce_of_free value free]
      rfl

/-- A sum that waits for its right operand is carried out, whatever comes next but an operator that
binds more strongly. -/
theorem run_sum (left value : Value) (free : Rank.sum.Free frames) {rest : List Token}
    (ends : Phrase.term.Ends rest) :
    run scope ⟨.sum left operator :: frames, some value⟩ rest =
      operator.apply left value >>= fun result => run scope ⟨frames, some result⟩ rest := by
  have reduced : reduce value (.sum left operator :: frames) =
      operator.apply left value >>= fun result => reduce result frames := by
    simp only [fun result => reduce_of_free result free]
    rfl
  cases rest with
  | nil => simp only [run, finish, reduced, bind_assoc]
  | cons token rest =>
      have operated : operation value (.sum left operator :: frames) token =
          operator.apply left value >>= fun result => operation result frames token := by
        cases token with
        | int | float | string | name => simp only [operation, reduced, bind_assoc]
        | symbol sign =>
            cases sign with
            | times => exact absurd rfl (ends .multiply (.inr rfl))
            | slash => exact absurd rfl (ends .divide (.inr rfl))
            | _ => simp only [operation, reduced, bind_assoc]
      simp only [run, step, operated, bind_assoc]

/-- What the machine makes of a phrase, whatever frames are around it and whatever comes next, is
what it makes of the value of its tree. -/
def Computes (scope : Scope) : Phrase → Expression → List Token → Prop
  | .chain rank, tree, tokens => ∀ frames rest, rank.Free frames → (Phrase.chain rank).Ends rest →
      run scope ⟨frames, none⟩ (tokens ++ rest) =
        tree.evaluate scope >>= fun value => run scope ⟨frames, some value⟩ rest
  | .further rank left, tree, tokens => ∀ frames rest, rank.Free frames →
      (Phrase.chain rank).Ends rest →
      (left.evaluate scope >>= fun value => run scope ⟨frames, some value⟩ (tokens ++ rest)) =
        tree.evaluate scope >>= fun value => run scope ⟨frames, some value⟩ rest
  | .unary, tree, tokens | .primary, tree, tokens => ∀ frames rest,
      run scope ⟨frames, none⟩ (tokens ++ rest) =
        tree.evaluate scope >>= fun value => settle value frames >>= (run scope · rest)
  | .items read item, tree, tokens => ∀ frames rest,
      (Expression.evaluateAll scope read >>= fun values => item.evaluate scope >>= fun value =>
        run scope ⟨.items values.reverse :: frames, some value⟩ (tokens ++ rest)) =
        tree.evaluate scope >>= fun value => settle value frames >>= (run scope · rest)

/-- An operand of a chain is computed where the chain begins. -/
theorem computes_operand {tree : Expression} {tokens : List Token}
    (computes : Computes scope rank.operand tree tokens) (free : rank.Free frames)
    {rest : List Token} (ends : rank.operand.Ends rest) :
    run scope ⟨frames, none⟩ (tokens ++ rest) =
      tree.evaluate scope >>= fun value => run scope ⟨frames, some value⟩ rest := by
  cases rank with
  | sum => exact computes frames rest free.product ends
  | product =>
      rw [computes frames rest]
      simp only [settle_of_free _ free]
      rfl

/-- The right operand of an operator is computed behind it, and the operation is carried out. -/
theorem computes_right {tree : Expression} {tokens : List Token}
    (computes : Computes scope operator.rank.operand tree tokens) (left : Value)
    (free : operator.rank.Free frames) {rest : List Token}
    (ends : operator.rank.operand.Ends rest) :
    run scope ⟨frames, some left⟩ (.symbol operator.symbol :: (tokens ++ rest)) =
      tree.evaluate scope >>= fun value => operator.apply left value >>= fun result =>
        run scope ⟨frames, some result⟩ rest := by
  rw [run_operator left free]
  cases ranked : operator.rank with
  | sum =>
      rw [ranked] at computes free ends
      rw [Rank.frame, computes (.sum left operator :: frames) rest trivial ends]
      simp only [run_sum left _ free ends]
  | product =>
      rw [ranked] at computes
      rw [Rank.frame, computes (.product left operator :: frames) rest]
      simp only [settle, bind_assoc]
      rfl

/-- A list ends with the item that has been read. -/
theorem run_closeBracket (values : List Value) (value : Value) (rest : List Token) :
    run scope ⟨.items values.reverse :: frames, some value⟩ (.symbol .closeBracket :: rest) =
      settle (.list (values ++ [value])) frames >>= (run scope · rest) := by
  rw [← List.reverse_reverse (values ++ [value]), List.reverse_append]
  rfl

/-- A list goes on behind the item that has been read. -/
theorem run_comma (values : List Value) (value : Value) (rest : List Token) :
    run scope ⟨.items values.reverse :: frames, some value⟩ (.symbol .comma :: rest) =
      run scope ⟨.items (values ++ [value]).reverse :: frames, none⟩ rest := by
  rw [List.reverse_append]
  rfl

theorem computes_of_derives {phrase : Phrase} {tree : Expression} {tokens : List Token}
    (derives : Derives phrase tree tokens) : Computes scope phrase tree tokens := by
  induction derives with
  | chain operand further operandComputes furtherComputes =>
      intro frames rest free ends
      rw [List.append_assoc, computes_operand operandComputes free (further.ends_operand ends)]
      exact furtherComputes frames rest free ends
  | done =>
      intro frames rest free ends
      rfl
  | further ranked operand further operandComputes furtherComputes =>
      intro frames rest free ends
      subst ranked
      rw [← furtherComputes frames rest free ends]
      simp only [List.cons_append, List.append_assoc, Expression.evaluate, bind_assoc,
        computes_right operandComputes _ free (further.ends_operand ends)]
  | sign unary ih =>
      intro frames rest
      change run scope ⟨.sign :: frames, none⟩ (_ ++ rest) = _
      rw [ih]
      simp only [Expression.evaluate, settle, bind_assoc]
  | unsigned primary ih => exact ih
  | @literal token value isLiteral =>
      intro frames rest
      cases token with
      | int | float | string =>
          cases isLiteral
          rfl
      | name | symbol => cases isLiteral
  | name =>
      intro frames rest
      simp only [List.cons_append, List.nil_append, run, step, operand, Expression.evaluate,
        bind_assoc]
  | group inner ih =>
      intro frames rest
      change run scope ⟨.group :: frames, none⟩ (_ ++ rest) = _
      rw [List.append_assoc, List.singleton_append,
        ih (.group :: frames) _ trivial (Phrase.ends_closeParen ..)]
      rfl
  | emptyList =>
      intro frames rest
      rfl
  | list begun more begunComputes moreComputes =>
      intro frames rest
      change run scope ⟨.items [] :: frames, none⟩ (_ ++ rest) = _
      rw [List.append_assoc, begunComputes (.items [] :: frames) _ trivial (more.ends_item ..)]
      exact moreComputes frames rest
  | lastItem =>
      intro frames rest
      simp only [List.cons_append, run_closeBracket, Expression.evaluate,
        Expression.evaluateAll_concat, bind_assoc]
      rfl
  | nextItem begun more begunComputes moreComputes =>
      intro frames rest
      have free (values : List Value) : Rank.sum.Free (.items values :: frames) := trivial
      rw [← moreComputes frames rest, Expression.evaluateAll_concat]
      simp only [List.cons_append, List.append_assoc, run_comma, bind_assoc,
        begunComputes _ _ (free _) (more.ends_item ..)]
      rfl

/-! ## What the frames tell -/

/-- What has been read when the machine waits for an operand in some frames. -/
inductive Leads : List Frame → List Token → Prop
  | nothing : Leads [] []
  | sign {frames : List Frame} {before : List Token} (outer : Leads frames before) :
      Leads (.sign :: frames) (before ++ [.symbol .minus])
  | sum {frames : List Frame} {before tokens : List Token} {tree : Expression} {left : Value}
      {operator : Operator} (outer : Leads frames before) (free : Rank.sum.Free frames)
      (ranked : operator.rank = .sum) (derives : Derives .expression tree tokens) :
      Leads (.sum left operator :: frames) (before ++ (tokens ++ [.symbol operator.symbol]))
  | product {frames : List Frame} {before tokens : List Token} {tree : Expression} {left : Value}
      {operator : Operator} (outer : Leads frames before) (free : Rank.product.Free frames)
      (ranked : operator.rank = .product) (derives : Derives .term tree tokens) :
      Leads (.product left operator :: frames) (before ++ (tokens ++ [.symbol operator.symbol]))
  | group {frames : List Frame} {before : List Token} (outer : Leads frames before) :
      Leads (.group :: frames) (before ++ [.symbol .openParen])
  | list {frames : List Frame} {before : List Token} (outer : Leads frames before) :
      Leads (.items [] :: frames) (before ++ [.symbol .openBracket])
  | item {frames : List Frame} {before tokens : List Token} {tree : Expression} {value : Value}
      {read : List Value} (outer : Leads (.items read :: frames) before)
      (derives : Derives .expression tree tokens) :
      Leads (.items (value :: read) :: frames) (before ++ (tokens ++ [.symbol .comma]))

/-- What has been read when the machine is in some state: a term is behind what leads to its
frames, if there is a value. -/
def Reads (machine : Machine) (tokens : List Token) : Prop :=
  match machine.value with
  | none => Leads machine.frames tokens
  | some _ => ∃ before term tree, tokens = before ++ term ∧ Leads machine.frames before ∧
      Rank.product.Free machine.frames ∧ Derives .term tree term

section

variable {value result : Value} {before term tokens : List Token} {tree : Expression}
  {machine next : Machine}

/-- An operand is read behind what leads to some frames. -/
theorem reads_settle (leads : Leads frames before) (derives : Derives .unary tree tokens)
    (settled : settle value frames = .ok machine) : Reads machine (before ++ tokens) := by
  have alone : Derives .term tree tokens := .single derives
  induction frames generalizing value before tokens tree with
  | nil =>
      cases settled
      exact ⟨before, tokens, tree, rfl, leads, trivial, alone⟩
  | cons frame frames ih =>
      cases leads with
      | sign outer =>
          obtain ⟨negative, _, settled⟩ := exists_of_bind_eq_ok settled
          rw [List.append_assoc]
          exact ih outer (.sign derives) settled (.single (.sign derives))
      | product outer free ranked derivesLeft =>
          obtain ⟨result, _, settled⟩ := exists_of_bind_eq_ok settled
          cases settled
          refine ⟨_, _, _, ?_, outer, free, derivesLeft.concat ranked derives⟩
          simp only [List.append_assoc, List.singleton_append]
      | sum outer free ranked derivesLeft =>
          cases settled
          exact ⟨_, tokens, tree, rfl, .sum outer free ranked derivesLeft, trivial, alone⟩
      | group outer =>
          cases settled
          exact ⟨_, tokens, tree, rfl, .group outer, trivial, alone⟩
      | list outer =>
          cases settled
          exact ⟨_, tokens, tree, rfl, .list outer, trivial, alone⟩
      | item outer derivesItem =>
          cases settled
          exact ⟨_, tokens, tree, rfl, .item outer derivesItem, trivial, alone⟩

/-- A sum that waits for a term becomes an expression with it. -/
theorem exists_of_reduce {rest : List Frame} (leads : Leads frames before)
    (free : Rank.product.Free frames) (derives : Derives .term tree term)
    (reduced : reduce value frames = .ok (result, rest)) :
    ∃ outer expression tree, before ++ term = outer ++ expression ∧ Leads rest outer ∧
      Rank.sum.Free rest ∧ Derives .expression tree expression := by
  have alone : Derives .expression tree term := .single derives
  cases leads with
  | nothing =>
      cases reduced
      exact ⟨_, _, _, rfl, .nothing, trivial, alone⟩
  | sign | product => exact free.elim
  | sum outer freeOuter ranked derivesLeft =>
      obtain ⟨_, _, reduced⟩ := exists_of_bind_eq_ok reduced
      cases reduced
      refine ⟨_, _, _, ?_, outer, freeOuter, derivesLeft.concat ranked derives⟩
      simp only [List.append_assoc, List.singleton_append]
  | group outer =>
      cases reduced
      exact ⟨_, _, _, rfl, .group outer, trivial, alone⟩
  | list outer =>
      cases reduced
      exact ⟨_, _, _, rfl, .list outer, trivial, alone⟩
  | item outer derivesItem =>
      cases reduced
      exact ⟨_, _, _, rfl, .item outer derivesItem, trivial, alone⟩

/-- Items that have been read become a list with what may follow them. -/
theorem Leads.exists_list {read : List Value} (leads : Leads (.items read :: frames) before) :
    ∃ outer inner items, before = outer ++ inner ∧ Leads frames outer ∧
      ∀ {item tree : Expression} {tokens more : List Token}, Derives .expression item tokens →
        Derives (.items items item) tree more →
          Derives .primary tree (inner ++ (tokens ++ more)) := by
  induction read generalizing before with
  | nil =>
      cases leads with
      | list outer => exact ⟨_, _, [], rfl, outer, .list⟩
  | cons value read ih =>
      cases leads with
      | @item _ _ separated tree _ _ begun derives =>
          obtain ⟨outer, inner, items, rfl, leads, closes⟩ := ih begun
          refine ⟨outer, inner ++ (separated ++ [.symbol .comma]), items ++ [tree], ?_, leads, ?_⟩
          · simp only [List.append_assoc]
          · intro item tree tokens more next rest
            have listed := closes derives (.nextItem next rest)
            simpa only [List.append_assoc, List.singleton_append] using listed

theorem reads_operand {token : Token} (leads : Leads frames before)
    (stepped : operand scope frames token = .ok next) : Reads next (before ++ [token]) := by
  cases token with
  | int | float | string => exact reads_settle leads (.unsigned (.literal rfl)) stepped
  | name =>
      obtain ⟨_, _, settled⟩ := exists_of_bind_eq_ok stepped
      exact reads_settle leads (.unsigned .name) settled
  | symbol sign =>
      cases sign with
      | minus =>
          cases stepped
          exact leads.sign
      | openParen =>
          cases stepped
          exact leads.group
      | openBracket =>
          cases stepped
          exact leads.list
      | closeBracket =>
          cases leads with
          | list outer =>
              rw [List.append_assoc]
              exact reads_settle outer (.unsigned .emptyList) stepped
          | _ => cases stepped
      | _ => cases stepped

theorem reads_close {token : Token} (leads : Leads frames before)
    (derives : Derives .expression tree tokens) (stepped : close value frames token = .ok next) :
    Reads next (before ++ (tokens ++ [token])) := by
  cases frames with
  | nil => cases stepped
  | cons frame frames =>
      cases frame with
      | sign | sum | product => cases stepped
      | group =>
          cases token with
          | int | float | string | name => cases stepped
          | symbol sign =>
              cases sign with
              | closeParen =>
                  cases leads with
                  | group outer =>
                      rw [List.append_assoc]
                      exact reads_settle outer (.unsigned (.group derives)) stepped
              | _ => cases stepped
      | items read =>
          cases token with
          | int | float | string | name => cases stepped
          | symbol sign =>
              cases sign with
              | comma =>
                  cases stepped
                  exact leads.item derives
              | closeBracket =>
                  obtain ⟨outer, inner, items, rfl, leads, closes⟩ := leads.exists_list
                  rw [List.append_assoc]
                  exact reads_settle leads (.unsigned (closes derives .lastItem)) stepped
              | _ => cases stepped

/-- What a token behind an operand can do: it multiplies or divides, or it adds or subtracts or
closes something once a sum that waits for the operand is carried out. -/
theorem operation_cases {token : Token} (stepped : operation value frames token = .ok next) :
    (∃ operator : Operator, operator.rank = .product ∧ token = .symbol operator.symbol ∧
      next = ⟨.product value operator :: frames, none⟩) ∨
    ∃ result rest, reduce value frames = .ok (result, rest) ∧
      ((∃ operator : Operator, operator.rank = .sum ∧ token = .symbol operator.symbol ∧
        next = ⟨.sum result operator :: rest, none⟩) ∨ close result rest token = .ok next) := by
  cases token with
  | int | float | string | name =>
      obtain ⟨⟨result, rest⟩, reduced, closed⟩ := exists_of_bind_eq_ok stepped
      exact .inr ⟨result, rest, reduced, .inr closed⟩
  | symbol sign =>
      cases sign with
      | times =>
          cases stepped
          exact .inl ⟨.multiply, rfl, rfl, rfl⟩
      | slash =>
          cases stepped
          exact .inl ⟨.divide, rfl, rfl, rfl⟩
      | plus =>
          obtain ⟨⟨result, rest⟩, reduced, added⟩ := exists_of_bind_eq_ok stepped
          cases added
          exact .inr ⟨result, rest, reduced, .inl ⟨.add, rfl, rfl, rfl⟩⟩
      | minus =>
          obtain ⟨⟨result, rest⟩, reduced, subtracted⟩ := exists_of_bind_eq_ok stepped
          cases subtracted
          exact .inr ⟨result, rest, reduced, .inl ⟨.subtract, rfl, rfl, rfl⟩⟩
      | _ =>
          obtain ⟨⟨result, rest⟩, reduced, closed⟩ := exists_of_bind_eq_ok stepped
          exact .inr ⟨result, rest, reduced, .inr closed⟩

theorem reads_operation {token : Token} (leads : Leads frames before)
    (free : Rank.product.Free frames) (derives : Derives .term tree term)
    (stepped : operation value frames token = .ok next) :
    Reads next (before ++ term ++ [token]) := by
  obtain ⟨operator, ranked, rfl, rfl⟩ | ⟨result, rest, reduced, next⟩ := operation_cases stepped
  · rw [List.append_assoc]
    exact .product leads free ranked derives
  · obtain ⟨outer, expression, tree, split, leads, free, derives⟩ :=
      exists_of_reduce leads free derives reduced
    rw [split, List.append_assoc]
    obtain ⟨operator, ranked, rfl, rfl⟩ | closed := next
    · exact .sum leads free ranked derives
    · exact reads_close leads derives closed

/-- A token is read behind the others. -/
theorem reads_step {token : Token} (reads : Reads machine tokens)
    (stepped : machine.step scope token = .ok next) : Reads next (tokens ++ [token]) := by
  obtain ⟨frames, value⟩ := machine
  cases value with
  | none => exact reads_operand reads stepped
  | some value =>
      obtain ⟨before, term, tree, rfl, leads, free, derives⟩ := reads
      exact reads_operation leads free derives stepped

/-- What has been read when the machine finishes is an expression. -/
theorem exists_derives_of_finish (reads : Reads machine tokens)
    (finished : machine.finish = .ok result) : ∃ tree, Derives .expression tree tokens := by
  obtain ⟨frames, value⟩ := machine
  cases value with
  | none => cases finished
  | some value =>
      obtain ⟨before, term, tree, rfl, leads, free, derives⟩ := reads
      obtain ⟨⟨result, rest⟩, reduced, finished⟩ := exists_of_bind_eq_ok finished
      obtain ⟨outer, expression, tree, split, leads, free, derives⟩ :=
        exists_of_reduce leads free derives reduced
      cases leads with
      | nothing => exact ⟨tree, split ▸ derives⟩
      | sign | sum | product => exact free.elim
      | group | list | item => cases finished

/-- All tokens of a run that gives a value are an expression, with those read before it. -/
theorem exists_derives_of_run {rest : List Token} (reads : Reads machine tokens)
    (ran : run scope machine rest = .ok result) :
    ∃ tree, Derives .expression tree (tokens ++ rest) := by
  induction rest generalizing machine tokens with
  | nil =>
      rw [List.append_nil]
      exact exists_derives_of_finish reads ran
  | cons token rest ih =>
      obtain ⟨next, stepped, ran⟩ := exists_of_bind_eq_ok ran
      rw [List.append_cons]
      exact ih (reads_step reads stepped) ran

end

end Machine

namespace Scope

variable {tree : Expression} {tokens : List Token}

/-- An expression is evaluated as its tree is, with its value or with its first failure. -/
theorem evaluate_of_derives (scope : Scope) (derives : Derives .expression tree tokens) :
    scope.evaluate tokens = tree.evaluate scope := by
  have computes : Machine.Computes scope .expression tree tokens :=
    Machine.computes_of_derives derives
  have computes := computes [] [] trivial (Phrase.ends_nil _)
  rw [List.append_nil] at computes
  rw [evaluate, computes]
  cases tree.evaluate scope <;> rfl

/-- Only an expression has a value. -/
theorem exists_derives_of_evaluate {scope : Scope} {value : Value}
    (evaluated : scope.evaluate tokens = .ok value) : ∃ tree, Derives .expression tree tokens :=
  have begun : Machine.Reads {} [] := Machine.Leads.nothing
  Machine.exists_derives_of_run begun evaluated

/-- Exactly the expressions of the grammar have a value: that of their only tree, computed from left
to right.  Where the tree fails, its first failure is reported, and tokens that are no expression
are answered with an error. -/
theorem evaluate_eq_grammar (scope : Scope) (tokens : List Token) :
    (∀ value, scope.evaluate tokens = .ok value ↔
      ∃ tree, Derives .expression tree tokens ∧ tree.evaluate scope = .ok value) ∧
    (∀ tree, Derives .expression tree tokens →
      (∀ other, Derives .expression other tokens → other = tree) ∧
      ∀ error, tree.evaluate scope = .error error → scope.evaluate tokens = .error error) ∧
    ((∀ tree, ¬Derives .expression tree tokens) →
      ∃ error, scope.evaluate tokens = .error error) := by
  refine ⟨fun value => ⟨fun evaluated => ?_, ?_⟩, fun tree derives => ⟨?_, ?_⟩, fun none => ?_⟩
  · obtain ⟨tree, derives⟩ := exists_derives_of_evaluate evaluated
    exact ⟨tree, derives, scope.evaluate_of_derives derives ▸ evaluated⟩
  · rintro ⟨tree, derives, evaluated⟩
    rw [scope.evaluate_of_derives derives, evaluated]
  · intro other derivesOther
    exact derivesOther.unique derives
  · intro error failed
    rw [scope.evaluate_of_derives derives, failed]
  · cases evaluated : scope.evaluate tokens with
    | ok value =>
        obtain ⟨tree, derives⟩ := exists_derives_of_evaluate evaluated
        exact absurd derives (none tree)
    | error error => exact ⟨error, rfl⟩

/-- `8 - 3 - 2` is three, `1 / 0 - x` fails at the division, and a parenthesis that closes nothing
is no expression. -/
theorem evaluate_eq_grammar_subtractions :
    Scope.evaluate ⟨.empty, .nil, .nil⟩ [.int 8, .symbol .minus, .int 3, .symbol .minus, .int 2] =
      .ok (.int 3) ∧
    Scope.evaluate ⟨.empty, .nil, .nil⟩
        [.int 1, .symbol .slash, .int 0, .symbol .minus, .name "x"] =
      .error .divisionByZero ∧
    ∃ error, Scope.evaluate ⟨.empty, .nil, .nil⟩ [.symbol .closeParen] = .error error := by
  have literal (rank : Rank) (value : Int64) :
      Derives rank.operand (.literal (.int value)) [.int value] := by
    cases rank with
    | sum => exact .single (.unsigned (.literal rfl))
    | product => exact .unsigned (.literal rfl)
  refine ⟨?_, ?_, ?_⟩
  · have eight : Derives .expression _ [.int 8] := .single (literal _ 8)
    have five : Derives .expression (.binary .subtract _ _) _ := eight.concat rfl (literal _ 3)
    have three : Derives .expression (.binary .subtract _ _) _ := five.concat rfl (literal _ 2)
    exact ((evaluate_eq_grammar _ _).1 _).2 ⟨_, three, rfl⟩
  · have one : Derives .term _ [.int 1] := .single (literal _ 1)
    have quotient : Derives .term (.binary .divide _ _) _ := one.concat rfl (literal _ 0)
    have name : Derives .term (.name "x") [.name "x"] := .single (.unsigned .name)
    have sum : Derives .expression _ _ := .single quotient
    have difference : Derives .expression (.binary .subtract _ _) _ := sum.concat rfl name
    exact ((evaluate_eq_grammar _ _).2.1 _ difference).2 _ rfl
  · refine (evaluate_eq_grammar _ _).2.2 fun tree derives => ?_
    obtain ⟨token, rest, same, begins⟩ := derives.exists_cons_of_chain
    cases same
    cases begins

end Scope

end Console
