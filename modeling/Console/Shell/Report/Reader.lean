import Console.Shell.Report.Program
import Console.Shell.Report.Token

/-!
# Reading report programs

Terms, statements and rules are read from symbols, each with the symbols that follow.
`Report.Program.read` reads a program.
-/

namespace Console.Shell.Report

/-- What is read from symbols, unless they are faulty. -/
abbrev Reading := Except Fault

/-- The spelling of a symbol. -/
def Token.spelling : Token → Octets
  | .number _ => "number".toList
  | .text found => '"' :: found ++ ['"']
  | .pattern source _ => '/' :: source ++ ['/']
  | .name found _ => found
  | .builtin found => found.toList
  | .sign "\n" => "end of line".toList
  | .sign found => found.toList

/-- The fault that the next symbol does not fit. -/
def faultAt {α : Type} (symbols : List Symbol) : Reading α :=
  match symbols with
  | [] => .error ⟨1, "syntax error at or near end of line".toList⟩
  | symbol :: _ => .error ⟨symbol.line, "syntax error at or near ".toList ++ symbol.token.spelling⟩

/-- The next symbol if it is a sign. -/
def nextSign? (symbols : List Symbol) : Option String :=
  match symbols with
  | ⟨.sign sign, _⟩ :: _ => some sign
  | _ => none

/-- Whether a sign comes next. -/
def isNext (sign : String) (symbols : List Symbol) : Bool := nextSign? symbols == some sign

/-- The symbols after a sign that has to come next. -/
def after (sign : String) (symbols : List Symbol) : Reading (List Symbol) :=
  if isNext sign symbols then .ok (symbols.drop 1) else faultAt symbols

/-- The symbols after newlines. -/
def pastNewlines (symbols : List Symbol) : List Symbol :=
  symbols.dropWhile fun symbol => match symbol.token with | .sign "\n" => true | _ => false

/-- The symbols after newlines and semicolons. -/
def pastEnds (symbols : List Symbol) : List Symbol :=
  symbols.dropWhile fun symbol =>
    match symbol.token with | .sign "\n" | .sign ";" => true | _ => false

/-! ## Terms -/

/-- The operations that are assignments too. -/
def assigned? (sign : String) : Option (Option Operation) :=
  [("=", none), ("+=", some .add), ("-=", some .subtract), ("*=", some .multiply),
   ("/=", some .divide), ("%=", some .remainder), ("^=", some .power)].lookup sign

/-- How a sign compares. -/
def comparison? (sign : String) : Option Comparison :=
  [("<", .less), ("<=", .atMost), ("==", .equal), ("!=", .unequal), (">", .greater),
   (">=", .atLeast)].lookup sign

/-- Whether something can be assigned to a term. -/
def Term.isPlace : Term → Bool
  | name _ | element .. | field _ => true
  | _ => false

/-- Whether an operand can begin with the next symbol. -/
def beginsOperand (symbols : List Symbol) : Bool :=
  match symbols with
  | [] => false
  | symbol :: _ =>
      match symbol.token with
      | .sign sign => ["$", "(", "!", "-", "+", "++", "--"].contains sign
      | _ => true

/-- Whether a function that is always there can have so many arguments. -/
def takes (function : String) (count : Nat) : Bool :=
  match function with
  | "substr" => count = 2 || count = 3
  | "split" | "sub" | "gsub" => count = 2 || count = 3
  | "index" | "match" | "atan2" => count = 2
  | "rand" => count = 0
  | "srand" | "length" | "fflush" => count ≤ 1
  | "sprintf" => count != 0
  | _ => count = 1

/-- How tightly the terms bind that are read, from those that bind least. -/
inductive Rank where
  | choice
  | either
  | both
  | key
  | matching
  | comparison
  | joined
  | sum
  | product
  | unary
  | power
  | operand
  deriving DecidableEq, Repr

/-- The rank that binds next. -/
def Rank.tighter : Rank → Rank
  | choice => either
  | either => both
  | both => key
  | key => matching
  | matching => comparison
  | comparison => joined
  | joined => sum
  | sum => product
  | product => unary
  | unary => power
  | power | operand => operand

/-- The operations of a rank. -/
def Rank.operation? (rank : Rank) (sign : String) : Option Operation :=
  match rank, sign with
  | sum, "+" => some .add
  | sum, "-" => some .subtract
  | product, "*" => some .multiply
  | product, "/" => some .divide
  | product, "%" => some .remainder
  | _, _ => none

mutual

/-- Reads a term of a rank or one that binds tighter.  The number bounds how deep terms are in one
another; `isPrinted` says that a sign for greater is where the output goes. -/
def term (isPrinted : Bool) : Nat → Rank → List Symbol → Reading (Term × List Symbol)
  | 0, _, symbols => faultAt symbols
  | fuel + 1, rank, symbols =>
      match rank with
      | .operand => operand isPrinted fuel symbols
      | .unary =>
          match nextSign? symbols with
          | some "!" => do
              let (inner, rest) ← term isPrinted fuel .unary (symbols.drop 1)
              pure (.not inner, rest)
          | some "-" => do
              let (inner, rest) ← term isPrinted fuel .unary (symbols.drop 1)
              pure (.negative inner, rest)
          | some "+" => do
              let (inner, rest) ← term isPrinted fuel .unary (symbols.drop 1)
              pure (.positive inner, rest)
          | _ => term isPrinted fuel .power symbols
      | .power => do
          let (base, rest) ← term isPrinted fuel .operand symbols
          if isNext "^" rest then
            let (exponent, rest) ← term isPrinted fuel .unary (rest.drop 1)
            pure (.operation .power base exponent, rest)
          else pure (base, rest)
      | rank => do
          let (first, rest) ← term isPrinted fuel rank.tighter symbols
          further isPrinted fuel rank first rest

/-- Goes on with a term of a rank after its first part. -/
def further (isPrinted : Bool) : Nat → Rank → Term → List Symbol → Reading (Term × List Symbol)
  | 0, _, _, symbols => faultAt symbols
  | fuel + 1, rank, left, symbols =>
      let next (rank : Rank) (symbols : List Symbol) : Reading (Term × List Symbol) :=
        term isPrinted fuel rank symbols
      match rank, nextSign? symbols with
      | .choice, some "?" => do
          let (yes, rest) ← next .choice (pastNewlines (symbols.drop 1))
          let rest ← after ":" (pastNewlines rest)
          let (no, rest) ← next .choice (pastNewlines rest)
          pure (.choice left yes no, rest)
      | .either, some "||" => do
          let (right, rest) ← next .both (pastNewlines (symbols.drop 1))
          further isPrinted fuel rank (.either left right) rest
      | .both, some "&&" => do
          let (right, rest) ← next .key (pastNewlines (symbols.drop 1))
          further isPrinted fuel rank (.both left right) rest
      | .key, some "in" =>
          match symbols.drop 1 with
          | ⟨.name array _, _⟩ :: rest =>
              let indices := match left with | .group terms => terms | term => [term]
              further isPrinted fuel rank (.isKey indices array) rest
          | rest => faultAt rest
      | .matching, some "~" => do
          let (right, rest) ← next .comparison (symbols.drop 1)
          further isPrinted fuel rank (.matching false left right) rest
      | .matching, some "!~" => do
          let (right, rest) ← next .comparison (symbols.drop 1)
          further isPrinted fuel rank (.matching true left right) rest
      | .comparison, some "|" =>
          if isNext "getline" (symbols.drop 1) then do
            let (target, rest) ← place? isPrinted fuel (symbols.drop 2)
            further isPrinted fuel rank (.readOutput left target) rest
          else pure (left, symbols)
      | .comparison, some sign =>
          match comparison? sign with
          | some comparison =>
              if isPrinted && sign = ">" then pure (left, symbols)
              else do
                let (right, rest) ← next .joined (symbols.drop 1)
                further isPrinted fuel rank (.comparison comparison left right) rest
          | none => pure (left, symbols)
      | .joined, sign =>
          if beginsOperand symbols && sign != some "+" && sign != some "-" then do
            let (right, rest) ← next .sum symbols
            further isPrinted fuel rank (.joined left right) rest
          else pure (left, symbols)
      | rank, some sign =>
          match rank.operation? sign with
          | some operation => do
              let (right, rest) ← next rank.tighter (symbols.drop 1)
              further isPrinted fuel rank (.operation operation left right) rest
          | none => pure (left, symbols)
      | _, none => pure (left, symbols)

/-- Reads an operand, with the signs that change a place, and an assignment to it. -/
def operand (isPrinted : Bool) : Nat → List Symbol → Reading (Term × List Symbol)
  | 0, symbols => faultAt symbols
  | fuel + 1, symbols =>
      match nextSign? symbols with
      | some "++" | some "--" => do
          let isUp := isNext "++" symbols
          let (target, rest) ← bare isPrinted fuel (symbols.drop 1)
          if target.isPlace then pure (.step target false isUp, rest) else faultAt rest
      | _ => do
          let (found, rest) ← bare isPrinted fuel symbols
          match found.isPlace, (nextSign? rest), (nextSign? rest).bind assigned? with
          | true, _, some operation => do
              let (value, rest) ← term isPrinted fuel .choice (pastNewlines (rest.drop 1))
              pure (.assign found operation value, rest)
          | true, some "++", _ => pure (.step found true true, rest.drop 1)
          | true, some "--", _ => pure (.step found true false, rest.drop 1)
          | _, _, _ => pure (found, rest)

/-- Reads an operand without the signs around it. -/
def bare (isPrinted : Bool) : Nat → List Symbol → Reading (Term × List Symbol)
  | 0, symbols => faultAt symbols
  | fuel + 1, symbols =>
      match symbols with
      | [] => faultAt symbols
      | symbol :: rest =>
          match symbol.token with
          | .number x => .ok (.number x, rest)
          | .text text => .ok (.text text, rest)
          | .pattern source regex => .ok (.pattern source regex, rest)
          | .name name true => do
              let (arguments, rest) ← terms fuel (rest.drop 1)
              pure (.call name arguments, ← after ")" rest)
          | .name name false =>
              if isNext "[" rest then do
                let (indices, rest) ← terms fuel (rest.drop 1)
                if indices.isEmpty then faultAt rest
                else pure (.element name indices, ← after "]" rest)
              else .ok (.name name, rest)
          | .builtin name =>
              if isNext "(" rest then do
                let (arguments, rest) ← terms fuel (rest.drop 1)
                let isFitting :=
                  match name, arguments with
                  | "split", _ :: .name _ :: _ | "sub", [_, _] | "gsub", [_, _] => true
                  | "sub", [_, _, target] | "gsub", [_, _, target] => target.isPlace
                  | "split", _ | "sub", _ | "gsub", _ => false
                  | _, _ => true
                if !isFitting then faultAt rest
                else if !takes name arguments.length then
                  .error ⟨symbol.line,
                    "wrong number of arguments in call to ".toList ++ name.toList⟩
                else pure (.builtin name (some arguments), ← after ")" rest)
              else if name = "length" then .ok (.builtin name none, rest)
              else faultAt rest
          | .sign "$" =>
              match nextSign? rest with
              | some "++" | some "--" => do
                  let (target, later) ← bare isPrinted fuel (rest.drop 1)
                  if target.isPlace then
                    pure (.field (.step target false (isNext "++" rest)), later)
                  else faultAt later
              | some "-" => do
                  let (inner, rest) ← bare isPrinted fuel (rest.drop 1)
                  pure (.field (.negative inner), rest)
              | _ => do
                  let (inner, rest) ← bare isPrinted fuel rest
                  pure (.field inner, rest)
          | .sign "(" => do
              let (inner, rest) ← terms fuel rest
              let rest ← after ")" rest
              if inner.isEmpty || (1 < inner.length && beginsOperand rest) then faultAt rest
              else pure (.group inner, rest)
          | .sign "-" => do
              let (inner, rest) ← term isPrinted fuel .unary rest
              pure (.negative inner, rest)
          | .sign "+" => do
              let (inner, rest) ← term isPrinted fuel .unary rest
              pure (.positive inner, rest)
          | .sign "!" => do
              let (inner, rest) ← term isPrinted fuel .unary rest
              pure (.not inner, rest)
          | .sign "getline" => do
              let (target, rest) ← place? isPrinted fuel rest
              if isNext "<" rest then do
                let (file, rest) ← bare isPrinted fuel (rest.drop 1)
                pure (.readLine target (some file), rest)
              else pure (.readLine target none, rest)
          | .sign _ => faultAt symbols

/-- Reads a place that something is assigned to, if there is one. -/
def place? (isPrinted : Bool) : Nat → List Symbol → Reading (Option Term × List Symbol)
  | 0, symbols => faultAt symbols
  | fuel + 1, symbols =>
      match symbols with
      | ⟨.name _ false, _⟩ :: _ | ⟨.sign "$", _⟩ :: _ => do
          let (found, rest) ← bare isPrinted fuel symbols
          pure (some found, rest)
      | _ => pure (none, symbols)

/-- Reads terms between commas, up to what is none. -/
def terms : Nat → List Symbol → Reading (List Term × List Symbol)
  | 0, symbols => faultAt symbols
  | fuel + 1, symbols =>
      if isNext ")" symbols || isNext "]" symbols then .ok ([], symbols)
      else do
        let (first, rest) ← term false fuel .choice (pastNewlines symbols)
        let rest := if isNext "\n" rest then pastNewlines rest else rest
        if isNext "," rest then do
          let (others, rest) ← terms fuel (pastNewlines (rest.drop 1))
          if others.isEmpty then faultAt rest else pure (first :: others, rest)
        else pure ([first], rest)

end

/-! ## Statements -/

/-- What statements are parts of. -/
structure Surroundings where
  /-- Whether there is a record that they are done for. -/
  hasRecord : Bool := true
  isFunction : Bool := false
  isLoop : Bool := false

/-- Why a statement may not stand where it does, if it may not. -/
def Surroundings.refusal? (around : Surroundings) (sign : String) : Option String :=
  match sign with
  | "next" | "nextfile" => if around.hasRecord then none else some ("improper use of " ++ sign)
  | "break" | "continue" =>
      if around.isLoop then none else some (sign ++ " statement outside of loop")
  | "return" => if around.isFunction then none else some "return outside function body"
  | _ => none

/-- Whether a simple statement ends in front of the next symbol. -/
def isEnd (symbols : List Symbol) : Bool :=
  match nextSign? symbols with
  | some sign => ["\n", ";", "\x7d", ">", ">>", "|"].contains sign
  | none => symbols.isEmpty

/-- The symbols after the end of a simple statement. -/
def pastEnd (symbols : List Symbol) : Reading (List Symbol) :=
  match nextSign? symbols with
  | some "\n" | some ";" => .ok (symbols.drop 1)
  | some "\x7d" => .ok symbols
  | _ => if symbols.isEmpty then .ok [] else faultAt symbols

/-- Reads the terms that are printed, up to the end of the statement. -/
def printed (fuel : Nat) : Nat → List Symbol → Reading (List Term × List Symbol)
  | 0, symbols => faultAt symbols
  | bound + 1, symbols =>
      if isEnd symbols then .ok ([], symbols)
      else do
        let (first, rest) ← term true fuel .choice symbols
        if isNext "," rest then do
          let (others, rest) ← printed fuel bound (pastNewlines (rest.drop 1))
          pure (first :: others, rest)
        else
          match first with
          | .group inner => pure (if 1 < inner.length then inner else [first], rest)
          | first => pure ([first], rest)

/-- Reads a statement that stands by itself, without its end. -/
def simple (fuel : Nat) (symbols : List Symbol) : Reading (Statement × List Symbol) :=
  let value? (symbols : List Symbol) : Reading (Option Term × List Symbol) :=
    if isEnd symbols then .ok (none, symbols)
    else (term false fuel .choice symbols).map fun (term, rest) => (some term, rest)
  match nextSign? symbols with
  | some "print" | some "printf" => do
      let isFormatted := isNext "printf" symbols
      let (shown, rest) ← printed fuel fuel (symbols.drop 1)
      if isFormatted && shown.isEmpty then
        .error ⟨(symbols.head?).elim 1 (·.line), "no arguments in call to printf".toList⟩
      let outlets := [(">", Outlet.new), (">>", .appended), ("|", .command)]
      match (nextSign? rest).bind fun sign => outlets.lookup sign with
      | some outlet => do
          let (target, rest) ← term false fuel .choice (rest.drop 1)
          pure (.print shown isFormatted (some (outlet, target)), rest)
      | none => pure (.print shown isFormatted none, rest)
  | some "next" => .ok (.next, symbols.drop 1)
  | some "nextfile" => .ok (.nextFile, symbols.drop 1)
  | some "break" => .ok (.leave, symbols.drop 1)
  | some "continue" => .ok (.renew, symbols.drop 1)
  | some "exit" => (value? (symbols.drop 1)).map fun (value, rest) => (.exit value, rest)
  | some "return" => (value? (symbols.drop 1)).map fun (value, rest) => (.return_ value, rest)
  | some "delete" =>
      match symbols.drop 1 with
      | ⟨.name array _, _⟩ :: rest =>
          if isNext "[" rest then do
            let (indices, rest) ← terms fuel (rest.drop 1)
            pure (.delete array (some indices), ← after "]" rest)
          else .ok (.delete array none, rest)
      | rest => faultAt rest
  | _ => (term false fuel .choice symbols).map fun (term, rest) => (.compute term, rest)

/-- Reads a statement with its end; the number bounds how deep statements are in one another and how
many there are. -/
def statement (around : Surroundings) : Nat → List Symbol → Reading (Statement × List Symbol)
  | 0, symbols => faultAt symbols
  | fuel + 1, symbols =>
      let size := 4 * fuel
      let body (symbols : List Symbol) : Reading (Statement × List Symbol) :=
        statement around fuel (pastNewlines symbols)
      let loop (symbols : List Symbol) : Reading (Statement × List Symbol) :=
        statement { around with isLoop := true } fuel (pastNewlines symbols)
      let ended (found : Statement) (symbols : List Symbol) :
          Reading (Statement × List Symbol) := do
        pure (found, ← pastEnd symbols)
      match nextSign? symbols with
      | some "\x7b" => block around fuel (symbols.drop 1) []
      | some ";" => .ok (.block [], symbols.drop 1)
      | some "if" => do
          let rest ← after "(" (symbols.drop 1)
          let (condition, rest) ← term false size .choice rest
          let (yes, rest) ← body (← after ")" rest)
          let later := pastEnds rest
          if isNext "else" later then
            let (no, rest) ← body (later.drop 1)
            pure (.choose condition yes (some no), rest)
          else pure (.choose condition yes none, rest)
      | some "while" => do
          let rest ← after "(" (symbols.drop 1)
          let (condition, rest) ← term false size .choice rest
          let (inner, rest) ← loop (← after ")" rest)
          pure (.repeatWhile condition inner, rest)
      | some "do" => do
          let (inner, rest) ← loop (symbols.drop 1)
          let rest ← after "while" (pastEnds rest)
          let rest ← after "(" rest
          let (condition, rest) ← term false size .choice rest
          ended (.repeatUntil inner condition) (← after ")" rest)
      | some "for" => do
          let rest ← after "(" (symbols.drop 1)
          match rest with
          | ⟨.name name _, _⟩ :: ⟨.sign "in", _⟩ :: ⟨.name array _, _⟩ :: ⟨.sign ")", _⟩ :: rest =>
              let (inner, rest) ← loop rest
              pure (.forEach name array inner, rest)
          | rest =>
              let part? (sign : String) (symbols : List Symbol) :
                  Reading (Option Statement × List Symbol) :=
                if isNext sign symbols then .ok (none, symbols)
                else (simple size symbols).map fun (found, rest) => (some found, rest)
              let (start, rest) ← part? ";" rest
              let rest := pastNewlines (← after ";" rest)
              let (condition, rest) ←
                if isNext ";" rest then pure (none, rest)
                else
                  (term false size .choice rest).map fun (found, rest) => (some found, rest)
              let rest := pastNewlines (← after ";" rest)
              let (step, rest) ← part? ")" rest
              let (inner, rest) ← loop (← after ")" rest)
              pure (.count start condition step inner, rest)
      | sign => do
          if let some refusal := sign.bind around.refusal? then
            .error ⟨(symbols.head?).elim 1 (·.line), refusal.toList⟩
          let (found, rest) ← simple size symbols
          ended found rest
where
  /-- Reads statements up to the closing brace; `done` are those before, the latest first. -/
  block (around : Surroundings) : Nat → List Symbol → List Statement →
      Reading (Statement × List Symbol)
    | 0, symbols, _ => faultAt symbols
    | fuel + 1, symbols, done =>
        let symbols := pastEnds symbols
        if isNext "\x7d" symbols then .ok (.block done.reverse, symbols.drop 1)
        else do
          let (found, rest) ← statement around fuel symbols
          block around fuel rest (found :: done)

/-! ## Programs -/

/-- Reads the names of parameters between commas, up to the closing parenthesis. -/
def parameters : Nat → List Symbol → Reading (List Octets × List Symbol)
  | 0, symbols => faultAt symbols
  | fuel + 1, symbols =>
      match symbols with
      | ⟨.sign ")", _⟩ :: rest => .ok ([], rest)
      | ⟨.name name _, _⟩ :: ⟨.sign ",", _⟩ :: rest => do
          let (others, rest) ← parameters fuel (pastNewlines rest)
          pure (name :: others, rest)
      | ⟨.name name _, _⟩ :: ⟨.sign ")", _⟩ :: rest => .ok ([name], rest)
      | rest => faultAt rest

/-- The symbols after the end of a rule: one semicolon may stand behind it in its line. -/
def pastRule (symbols : List Symbol) : List Symbol :=
  pastNewlines (if isNext ";" symbols then symbols.drop 1 else symbols)

/-- Reads the body of a rule if there is one. -/
def ruleBody? (around : Surroundings) (fuel : Nat) (symbols : List Symbol) :
    Reading (Option Statement × List Symbol) :=
  if isNext "\x7b" symbols then
    (statement around fuel symbols).map fun (body, rest) => (some body, rest)
  else
    match nextSign? symbols with
    | some "\n" | some ";" => .ok (none, symbols)
    | _ => if symbols.isEmpty then .ok (none, []) else faultAt symbols

/-- Reads rules and functions up to the end. -/
def program (fuel : Nat) : Nat → Program → List Symbol → Reading Program
  | 0, _, symbols => faultAt symbols
  | bound + 1, found, symbols =>
      let once : Surroundings := { hasRecord := false }
      let add (rule : Rule) (rest : List Symbol) : Reading Program :=
        program fuel bound { found with rules := found.rules ++ [rule] } (pastRule rest)
      match symbols with
      | [] => .ok found
      | ⟨.sign "BEGIN", _⟩ :: rest => do
          let (body, rest) ← ruleBody? once fuel rest
          if body.isNone then faultAt rest else add ⟨.start, body⟩ rest
      | ⟨.sign "END", _⟩ :: rest => do
          let (body, rest) ← ruleBody? once fuel rest
          if body.isNone then faultAt rest else add ⟨.finish, body⟩ rest
      | ⟨.sign "function", _⟩ :: ⟨.name name _, line⟩ :: ⟨.sign "(", _⟩ :: rest => do
          let (parameters, rest) ← parameters (rest.length + 1) rest
          if let some again := (repeated parameters).head? then
            .error ⟨line, again ++ " is duplicated in argument list".toList⟩
          let (body, rest) ← statement { once with isFunction := true } fuel (pastNewlines rest)
          let function : Function := { name, parameters, body }
          program fuel bound { found with functions := found.functions ++ [function] }
            (pastRule rest)
      | ⟨.sign "function", _⟩ :: rest => faultAt rest
      | ⟨.sign "\x7b", _⟩ :: _ => do
          let (body, rest) ← ruleBody? {} fuel symbols
          add ⟨.always, body⟩ rest
      | symbols => do
          let (first, rest) ← term false (16 * fuel) .choice symbols
          if isNext "," rest then
            let (last, rest) ← term false (16 * fuel) .choice (pastNewlines (rest.drop 1))
            let (body, rest) ← ruleBody? {} fuel rest
            add ⟨.range first last, body⟩ rest
          else
            let (body, rest) ← ruleBody? {} fuel rest
            add ⟨.when first, body⟩ rest
where
  /-- The names that are among those before them. -/
  repeated : List Octets → List Octets
    | [] => []
    | name :: rest => if rest.contains name then [name] else repeated rest

/-- Whether as many braces are closed as are opened. -/
def isBalanced (symbols : List Symbol) : Bool :=
  let count (wanted : String) : Nat := (symbols.filter fun symbol =>
    match symbol.token with | .sign sign => sign = wanted | _ => false).length
  count "\x7b" ≤ count "\x7d"

/-- The symbols of a program where calls of functions that have been defined before are marked as
such, even with a blank in front of their arguments. -/
def withCalls (defined : List Octets) : List Symbol → List Symbol
  | ⟨.sign "function", line⟩ :: ⟨.name name isCalled, nameLine⟩ :: rest =>
      ⟨.sign "function", line⟩ :: ⟨.name name isCalled, nameLine⟩ ::
        withCalls (name :: defined) rest
  | ⟨.name name isCalled, line⟩ :: rest =>
      ⟨.name name (isCalled || (defined.contains name && isNext "(" rest)), line⟩ ::
        withCalls defined rest
  | symbol :: rest => symbol :: withCalls defined rest
  | [] => []

/-- A function that is called and that a program does not have. -/
def undefined? (functions : List Function) (symbols : List Symbol) : Option Octets :=
  symbols.findSome? fun symbol =>
    match symbol.token with
    | .name name true => if functions.any (·.name == name) then none else some name
    | _ => none

/-- The program that a text says. -/
def Program.read (text : Octets) : Reading Program := do
  let symbols := withCalls [] (← symbols text)
  let last := text.count '\n' + 2
  if !isBalanced symbols then
    .error ⟨last, "missing \x7d near end of file".toList⟩
  let found ← program (16 * symbols.length + 64) (symbols.length + 1) {} (pastNewlines symbols)
  match undefined? found.functions symbols with
  | some name => .error ⟨last, "function ".toList ++ name ++ " never defined".toList⟩
  | none => pure found

end Console.Shell.Report
