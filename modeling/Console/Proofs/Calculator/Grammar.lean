import Console.Calculator.Machine

/-!
# The grammar of expressions

    expression := term (('+' | '-') term)*
    term       := unary (('*' | '/') unary)*
    unary      := '-' unary | primary
    primary    := literal | name | '(' expression ')' | list
    list       := '[' ']' | '[' expression (',' expression)* ']'

The grammar is stated without regard to how expressions are read.  A derivation relates a kind
of phrase to a tree and to all tokens that the tree is written with.  What follows the star of
a rule is derived behind the tree of what stands before it, so that trees lean to the left.  Tokens
have at most one tree.
-/

namespace Console

/-- The value of a token that is a literal. -/
def Token.literal? : Token → Option Value
  | .int value => some (.int value)
  | .float value => some (.float value)
  | .string text => some (.string text)
  | .name _ | .symbol _ => none

/-- How strongly an operator binds. -/
inductive Rank where
  | sum
  | product
  deriving DecidableEq, Repr

/-- The rank of an operator. -/
def Operator.rank : Operator → Rank
  | add | subtract => .sum
  | multiply | divide => .product

theorem Operator.symbol_injective {operator other : Operator}
    (same : operator.symbol = other.symbol) : operator = other := by
  cases operator <;> cases other <;> first | rfl | cases same

/-- An expression as a tree.  Parentheses leave no trace in it. -/
inductive Expression where
  | literal (value : Value)
  | name (text : String)
  | negative (operand : Expression)
  | binary (operator : Operator) (left right : Expression)
  | list (items : List Expression)

namespace Expression

mutual

/-- The value of a tree, computed from left to right; the first failure ends the computation. -/
def evaluate (scope : Scope) : Expression → Except EvalError Value
  | literal value => .ok value
  | name text => scope.lookup text
  | negative operand => do (← operand.evaluate scope).negate
  | binary operator left right => do
      operator.apply (← left.evaluate scope) (← right.evaluate scope)
  | list items => do .ok (.list (← evaluateAll scope items))

/-- The values of trees, computed from left to right. -/
def evaluateAll (scope : Scope) : List Expression → Except EvalError (List Value)
  | [] => .ok []
  | item :: items => do .ok ((← item.evaluate scope) :: (← evaluateAll scope items))

end

end Expression

/-- The kinds of phrases that the grammar has. -/
inductive Phrase where
  /-- Operands with operators of one rank between them: an expression or a term. -/
  | chain (rank : Rank)
  /-- What may follow the beginning of a chain. -/
  | further (rank : Rank) (left : Expression)
  | unary
  | primary
  /-- What follows an item of a list, after the items before it. -/
  | items (read : List Expression) (item : Expression)

namespace Phrase

abbrev expression : Phrase := chain .sum

abbrev term : Phrase := chain .product

end Phrase

/-- The operands in a chain. -/
def Rank.operand : Rank → Phrase
  | sum => .term
  | product => .unary

/-- Tokens are a phrase of a kind, with a tree. -/
inductive Derives : Phrase → Expression → List Token → Prop
  | chain {rank : Rank} {left tree : Expression} {first more : List Token}
      (operand : Derives rank.operand left first) (rest : Derives (.further rank left) tree more) :
      Derives (.chain rank) tree (first ++ more)
  | done {rank : Rank} {left : Expression} : Derives (.further rank left) left []
  | further {rank : Rank} {left right tree : Expression} {operator : Operator}
      {first more : List Token} (ranked : operator.rank = rank)
      (operand : Derives rank.operand right first)
      (rest : Derives (.further rank (.binary operator left right)) tree more) :
      Derives (.further rank left) tree (.symbol operator.symbol :: (first ++ more))
  | sign {operand : Expression} {tokens : List Token} (unary : Derives .unary operand tokens) :
      Derives .unary (.negative operand) (.symbol .minus :: tokens)
  | unsigned {tree : Expression} {tokens : List Token} (primary : Derives .primary tree tokens) :
      Derives .unary tree tokens
  | literal {token : Token} {value : Value} (isLiteral : token.literal? = some value) :
      Derives .primary (.literal value) [token]
  | name {text : String} : Derives .primary (.name text) [.name text]
  | group {tree : Expression} {tokens : List Token} (inner : Derives .expression tree tokens) :
      Derives .primary tree (.symbol .openParen :: (tokens ++ [.symbol .closeParen]))
  | emptyList : Derives .primary (.list []) [.symbol .openBracket, .symbol .closeBracket]
  | list {item tree : Expression} {first more : List Token}
      (begun : Derives .expression item first) (rest : Derives (.items [] item) tree more) :
      Derives .primary tree (.symbol .openBracket :: (first ++ more))
  | lastItem {read : List Expression} {item : Expression} :
      Derives (.items read item) (.list (read ++ [item])) [.symbol .closeBracket]
  | nextItem {read : List Expression} {item next tree : Expression} {first more : List Token}
      (begun : Derives .expression next first)
      (rest : Derives (.items (read ++ [item]) next) tree more) :
      Derives (.items read item) tree (.symbol .comma :: (first ++ more))

/-- A phrase cannot go on with some tokens: none of its operators is the first of them. -/
def Phrase.Ends : Phrase → List Token → Prop
  | chain rank, tokens | further rank _, tokens =>
      ∀ operator : Operator, rank = .sum ∨ operator.rank = .product →
        tokens.head? ≠ some (.symbol operator.symbol)
  | unary, _ | primary, _ | items .., _ => True

namespace Phrase

/-- A symbol that is no operator ends every phrase. -/
theorem ends_symbol {symbol : Symbol} (noOperator : ∀ operator : Operator, operator.symbol ≠ symbol)
    (phrase : Phrase) (tokens : List Token) : phrase.Ends (.symbol symbol :: tokens) := by
  cases phrase with
  | chain rank | further rank left =>
      intro operator _ head
      cases head
      exact noOperator operator rfl
  | unary | primary | items read item => trivial

/-- An operator of the rank goes on with a chain. -/
theorem not_ends_operator {rank : Rank} {left : Expression} {operator : Operator}
    {tokens : List Token} (ranked : operator.rank = rank) :
    ¬(further rank left).Ends (.symbol operator.symbol :: tokens) := by
  intro ends
  refine ends operator ?_ rfl
  rw [ranked]
  cases rank with
  | sum => exact .inl rfl
  | product => exact .inr rfl

theorem ends_nil (phrase : Phrase) : phrase.Ends [] := by
  cases phrase with
  | chain rank | further rank left =>
      intro operator _ head
      cases head
  | unary | primary | items read item => trivial

theorem ends_closeParen (phrase : Phrase) (tokens : List Token) :
    phrase.Ends (.symbol .closeParen :: tokens) :=
  ends_symbol (fun operator same => by cases operator <;> cases same) phrase tokens

end Phrase

/-- Whether an operand can begin with a token. -/
def Token.begins : Token → Bool
  | .symbol sign => sign == .minus || sign == .openParen || sign == .openBracket
  | _ => true

namespace Derives

variable {rank : Rank} {left tree : Expression} {tokens : List Token}

/-- A primary begins with a token that can begin an operand, but not with a sign. -/
theorem exists_cons_of_primary (derives : Derives .primary tree tokens) :
    ∃ token rest, tokens = token :: rest ∧ token.begins ∧ token ≠ .symbol .minus := by
  cases derives with
  | @literal token value isLiteral =>
      refine ⟨token, [], rfl, ?_⟩
      cases token with
      | int | float | string => exact ⟨rfl, nofun⟩
      | name | symbol => cases isLiteral
  | name | group | emptyList | list => exact ⟨_, _, rfl, rfl, nofun⟩

theorem exists_cons_of_unary (derives : Derives .unary tree tokens) :
    ∃ token rest, tokens = token :: rest ∧ token.begins := by
  cases derives with
  | sign unary => exact ⟨_, _, rfl, rfl⟩
  | unsigned primary =>
      obtain ⟨token, rest, split, begins, _⟩ := primary.exists_cons_of_primary
      exact ⟨token, rest, split, begins⟩

/-- A chain begins with a token that can begin an operand. -/
theorem exists_cons_of_chain (derives : Derives (.chain rank) tree tokens) :
    ∃ token rest, tokens = token :: rest ∧ token.begins := by
  have term {tree tokens} (derives : Derives .term tree tokens) :
      ∃ token rest, tokens = token :: rest ∧ token.begins := by
    cases derives with
    | chain operand rest =>
        obtain ⟨token, tokens, rfl, begins⟩ := operand.exists_cons_of_unary
        exact ⟨token, _, rfl, begins⟩
  cases rank with
  | product => exact term derives
  | sum =>
      cases derives with
      | chain operand rest =>
          obtain ⟨token, tokens, rfl, begins⟩ := term operand
          exact ⟨token, _, rfl, begins⟩

/-- What follows the beginning of a chain does not go on with the operand before it. -/
theorem ends_operand {rest : List Token} (derives : Derives (.further rank left) tree tokens)
    (ends : (Phrase.chain rank).Ends rest) : rank.operand.Ends (tokens ++ rest) := by
  cases rank with
  | product => trivial
  | sum =>
      cases derives with
      | done => exact fun operator _ => ends operator (.inl rfl)
      | further ranked operand more =>
          intro other isProduct head
          rcases isProduct with impossible | isProduct
          · cases impossible
          · simp only [List.cons_append, List.head?_cons, Option.some.injEq,
              Token.symbol.injEq] at head
            rw [Operator.symbol_injective head, isProduct] at ranked
            cases ranked

/-- What follows an item of a list does not go on with the item. -/
theorem ends_item {read : List Expression} {item : Expression}
    (derives : Derives (.items read item) tree tokens) (phrase : Phrase) (rest : List Token) :
    phrase.Ends (tokens ++ rest) := by
  cases derives with
  | lastItem =>
      exact Phrase.ends_symbol (fun operator same => by cases operator <;> cases same) _ _
  | nextItem =>
      exact Phrase.ends_symbol (fun operator same => by cases operator <;> cases same) _ _

/-- An expression does not begin where a list ends. -/
theorem ne_closeBracket_append (derives : Derives .expression tree tokens)
    (rest more : List Token) : Token.symbol .closeBracket :: rest ≠ tokens ++ more := by
  obtain ⟨token, tokens, rfl, begins⟩ := derives.exists_cons_of_chain
  intro same
  cases same
  cases begins

/-! ## Only one tree -/

/-- Tokens that begin with a phrase of the kind, and with these ones, begin with that phrase in this
way only, if the phrase cannot go on behind either. -/
def Determined (phrase : Phrase) (tree : Expression) (tokens : List Token) : Prop :=
  ∀ {other : Expression} {others after afterOther : List Token}, Derives phrase other others →
    tokens ++ after = others ++ afterOther → phrase.Ends after → phrase.Ends afterOther →
      tree = other ∧ tokens = others

theorem ne_symbol_of_literal {token : Token} {value : Value}
    (isLiteral : token.literal? = some value) (symbol : Symbol) : token ≠ .symbol symbol := by
  rintro rfl
  cases isLiteral

namespace Determined

variable {read : List Expression} {item left right tree : Expression}
  {first more tokens : List Token}

/-- A phrase and the one behind it are determined one after the other. -/
theorem sequence {phrase : Phrase} (next : Expression → Phrase)
    (begun : Determined phrase left first) (rest : Determined (next left) tree more)
    {leftOther other : Expression} {firstOther moreOther after afterOther : List Token}
    (begunOther : Derives phrase leftOther firstOther)
    (restOther : Derives (next leftOther) other moreOther)
    (same : first ++ (more ++ after) = firstOther ++ (moreOther ++ afterOther))
    (begunEnds : phrase.Ends (more ++ after))
    (begunEndsOther : phrase.Ends (moreOther ++ afterOther)) (ends : (next left).Ends after)
    (endsOther : (next left).Ends afterOther) :
    tree = other ∧ first = firstOther ∧ more = moreOther := by
  obtain ⟨rfl, rfl⟩ := begun begunOther same begunEnds begunEndsOther
  obtain ⟨rfl, rfl⟩ := rest restOther (List.append_cancel_left same) ends endsOther
  exact ⟨rfl, rfl, rfl⟩

theorem chain (rest : Derives (.further rank left) tree more)
    (operandDetermined : Determined rank.operand left first)
    (restDetermined : Determined (.further rank left) tree more) :
    Determined (.chain rank) tree (first ++ more) := by
  intro other others after afterOther derives same ends endsOther
  cases derives with
  | chain operandOther restOther =>
      rw [List.append_assoc, List.append_assoc] at same
      obtain ⟨rfl, rfl, rfl⟩ := operandDetermined.sequence (.further rank) restDetermined
        operandOther restOther same (rest.ends_operand ends) (restOther.ends_operand endsOther) ends
        endsOther
      exact ⟨rfl, rfl⟩

theorem done : Determined (.further rank left) left [] := by
  intro other others after afterOther derives same ends endsOther
  cases derives with
  | done => exact ⟨rfl, rfl⟩
  | further ranked operand =>
      rw [List.nil_append] at same
      subst same
      exact absurd ends (Phrase.not_ends_operator ranked)

theorem further {operator : Operator} (ranked : operator.rank = rank)
    (rest : Derives (.further rank (.binary operator left right)) tree more)
    (operandDetermined : Determined rank.operand right first)
    (restDetermined : Determined (.further rank (.binary operator left right)) tree more) :
    Determined (.further rank left) tree (.symbol operator.symbol :: (first ++ more)) := by
  intro other others after afterOther derives same ends endsOther
  cases derives with
  | done =>
      rw [List.nil_append] at same
      subst same
      exact absurd endsOther (Phrase.not_ends_operator ranked)
  | further rankedOther operandOther restOther =>
      rw [List.cons_append, List.cons_append, List.append_assoc, List.append_assoc,
        List.cons.injEq, Token.symbol.injEq] at same
      obtain ⟨sameSymbol, same⟩ := same
      obtain rfl := Operator.symbol_injective sameSymbol
      obtain ⟨rfl, rfl, rfl⟩ := operandDetermined.sequence
        (fun right => .further rank (.binary _ left right)) restDetermined operandOther restOther
        same (rest.ends_operand ends) (restOther.ends_operand endsOther) ends endsOther
      exact ⟨rfl, rfl⟩

theorem sign (determined : Determined .unary tree tokens) :
    Determined .unary (.negative tree) (.symbol .minus :: tokens) := by
  intro other others after afterOther derives same _ _
  cases derives with
  | sign unaryOther =>
      obtain ⟨rfl, rfl⟩ := determined unaryOther (List.cons.inj same).2 trivial trivial
      exact ⟨rfl, rfl⟩
  | unsigned primary =>
      obtain ⟨token, tokens, rfl, _, noSign⟩ := primary.exists_cons_of_primary
      exact absurd (List.cons.inj same).1.symm noSign

theorem unsigned (primary : Derives .primary tree tokens)
    (determined : Determined .primary tree tokens) : Determined .unary tree tokens := by
  intro other others after afterOther derives same _ _
  cases derives with
  | sign unaryOther =>
      obtain ⟨token, tokens, rfl, _, noSign⟩ := primary.exists_cons_of_primary
      exact absurd (List.cons.inj same).1 noSign
  | unsigned primaryOther => exact determined primaryOther same trivial trivial

theorem literal {token : Token} {value : Value} (isLiteral : token.literal? = some value) :
    Determined .primary (.literal value) [token] := by
  intro other others after afterOther derives same _ _
  cases derives with
  | literal isLiteralOther =>
      obtain ⟨rfl, _⟩ := List.cons.inj same
      rw [isLiteral, Option.some.injEq] at isLiteralOther
      exact ⟨congrArg _ isLiteralOther, rfl⟩
  | name =>
      obtain ⟨rfl, _⟩ := List.cons.inj same
      cases isLiteral
  | group | emptyList | list =>
      exact absurd (List.cons.inj same).1 (ne_symbol_of_literal isLiteral _)

theorem name {text : String} : Determined .primary (.name text) [.name text] := by
  intro other others after afterOther derives same _ _
  cases derives with
  | literal isLiteral =>
      obtain ⟨rfl, _⟩ := List.cons.inj same
      cases isLiteral
  | name =>
      cases same
      exact ⟨rfl, rfl⟩
  | group | emptyList | list => cases same

theorem group (determined : Determined .expression tree tokens) :
    Determined .primary tree (.symbol .openParen :: (tokens ++ [.symbol .closeParen])) := by
  intro other others after afterOther derives same _ _
  cases derives with
  | literal isLiteral =>
      exact absurd (List.cons.inj same).1.symm (ne_symbol_of_literal isLiteral _)
  | group innerOther =>
      rw [List.cons_append, List.cons_append, List.append_assoc, List.append_assoc] at same
      obtain ⟨rfl, rfl⟩ := determined innerOther (List.cons.inj same).2
        (Phrase.ends_closeParen _ _) (Phrase.ends_closeParen _ _)
      exact ⟨rfl, rfl⟩
  | name | emptyList | list => cases same

theorem emptyList :
    Determined .primary (.list []) [.symbol .openBracket, .symbol .closeBracket] := by
  intro other others after afterOther derives same _ _
  cases derives with
  | literal isLiteral =>
      exact absurd (List.cons.inj same).1.symm (ne_symbol_of_literal isLiteral _)
  | emptyList => exact ⟨rfl, rfl⟩
  | list begun =>
      simp only [List.cons_append, List.append_assoc] at same
      exact absurd (List.cons.inj same).2 (begun.ne_closeBracket_append _ _)
  | name | group => cases same

theorem list (begun : Derives .expression item first) (rest : Derives (.items [] item) tree more)
    (begunDetermined : Determined .expression item first)
    (restDetermined : Determined (.items [] item) tree more) :
    Determined .primary tree (.symbol .openBracket :: (first ++ more)) := by
  intro other others after afterOther derives same _ _
  cases derives with
  | literal isLiteral =>
      exact absurd (List.cons.inj same).1.symm (ne_symbol_of_literal isLiteral _)
  | list begunOther restOther =>
      rw [List.cons_append, List.cons_append, List.append_assoc, List.append_assoc] at same
      obtain ⟨rfl, rfl, rfl⟩ := begunDetermined.sequence (.items []) restDetermined begunOther
        restOther (List.cons.inj same).2 (rest.ends_item _ _) (restOther.ends_item _ _) trivial
        trivial
      exact ⟨rfl, rfl⟩
  | emptyList =>
      simp only [List.cons_append, List.append_assoc] at same
      exact absurd (List.cons.inj same).2.symm (begun.ne_closeBracket_append _ _)
  | name | group => cases same

theorem lastItem :
    Determined (.items read item) (.list (read ++ [item])) [.symbol .closeBracket] := by
  intro other others after afterOther derives same _ _
  cases derives with
  | lastItem => exact ⟨rfl, rfl⟩
  | nextItem => cases same

theorem nextItem (rest : Derives (.items (read ++ [item]) right) tree more)
    (begunDetermined : Determined .expression right first)
    (restDetermined : Determined (.items (read ++ [item]) right) tree more) :
    Determined (.items read item) tree (.symbol .comma :: (first ++ more)) := by
  intro other others after afterOther derives same _ _
  cases derives with
  | lastItem => cases same
  | nextItem begunOther restOther =>
      rw [List.cons_append, List.cons_append, List.append_assoc, List.append_assoc] at same
      obtain ⟨rfl, rfl, rfl⟩ := begunDetermined.sequence (.items (read ++ [item])) restDetermined
        begunOther restOther (List.cons.inj same).2 (rest.ends_item _ _) (restOther.ends_item _ _)
        trivial trivial
      exact ⟨rfl, rfl⟩

end Determined

theorem determined {phrase : Phrase} (derives : Derives phrase tree tokens) :
    Determined phrase tree tokens := by
  induction derives with
  | chain _ rest operandDetermined restDetermined =>
      exact Determined.chain rest operandDetermined restDetermined
  | done => exact Determined.done
  | further ranked _ rest operandDetermined restDetermined =>
      exact Determined.further ranked rest operandDetermined restDetermined
  | sign _ ih => exact Determined.sign ih
  | unsigned primary ih => exact Determined.unsigned primary ih
  | literal isLiteral => exact Determined.literal isLiteral
  | name => exact Determined.name
  | group _ ih => exact Determined.group ih
  | emptyList => exact Determined.emptyList
  | list begun rest begunDetermined restDetermined =>
      exact Determined.list begun rest begunDetermined restDetermined
  | lastItem => exact Determined.lastItem
  | nextItem _ rest begunDetermined restDetermined =>
      exact Determined.nextItem rest begunDetermined restDetermined

/-- Tokens have at most one tree. -/
theorem unique {phrase : Phrase} {other : Expression} (derives : Derives phrase tree tokens)
    (derivesOther : Derives phrase other tokens) : tree = other :=
  (derives.determined derivesOther rfl phrase.ends_nil phrase.ends_nil).1

end Derives

end Console
