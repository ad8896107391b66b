import Console.Input

/-!
# The input as one stack of lines

Texts that are put in front of the input are kept apart, and one that is used up is dropped only
when a line is asked for.  None of this shows: to whoever reads, there is one stack of lines in
front of the base source.  What is put in goes on top, what is read is taken from there, and the
base source is asked only when nothing is left on the stack.
-/

namespace Console

/-- Lines to be read before the base source is asked. -/
structure LineStack where
  base : Source := []
  lines : List String := []
  deriving DecidableEq, Repr

namespace LineStack

/-- Puts the lines of a text on top. -/
def inject (stack : LineStack) (text : String) : LineStack :=
  { stack with lines := linesOf text ++ stack.lines }

/-- Whether there is a line on the stack. -/
def isReplaying (stack : LineStack) : Bool := !stack.lines.isEmpty

/-- Takes the line on top, or else the next answer of the base source. -/
def read (stack : LineStack) : Answer × Origin × LineStack :=
  match stack.lines with
  | line :: lines => (.line line, .injected, { stack with lines })
  | [] =>
      match stack.base with
      | answer :: base => (answer, .interactive, { base })
      | [] => (.endOfInput, .interactive, {})

end LineStack

/-! ## What shows of an input -/

/-- Something that can be asked for lines, and that texts can be put into. -/
structure Feed (σ : Type) where
  inject : σ → String → σ
  read : σ → Answer × Origin × σ
  isReplaying : σ → Bool
  base : σ → Source

/-- What is done to an input. -/
inductive Request where
  | inject (text : String)
  | read

/-- What shows after a request: the answer and its origin if a line was asked for, whether injected
lines are left, and what the base source has still to give. -/
structure Shown where
  answer : Option (Answer × Origin)
  isReplaying : Bool
  base : Source
  deriving DecidableEq, Repr

namespace Feed

variable {σ τ : Type}

/-- Does what is requested. -/
def perform (feed : Feed σ) (state : σ) : Request → Option (Answer × Origin) × σ
  | .inject text => (none, feed.inject state text)
  | .read =>
      let (answer, origin, after) := feed.read state
      (some (answer, origin), after)

/-- What shows after each of some requests. -/
def shows (feed : Feed σ) (state : σ) : List Request → List Shown
  | [] => []
  | request :: requests =>
      let (answer, after) := feed.perform state request
      ⟨answer, feed.isReplaying after, feed.base after⟩ :: feed.shows after requests

/-- Next answers, as many as are asked for, and what is left then. -/
def next (feed : Feed σ) : Nat → σ → List (Answer × Origin) × σ
  | 0, state => ([], state)
  | count + 1, state =>
      let (answer, origin, after) := feed.read state
      let (answers, last) := feed.next count after
      ((answer, origin) :: answers, last)

/-- One input is seen as another one, whatever is requested. -/
structure SeenAs (concrete : Feed σ) (abstract : Feed τ) (view : σ → τ) : Prop where
  inject : ∀ state text, view (concrete.inject state text) = abstract.inject (view state) text
  read : ∀ state, abstract.read (view state) =
    ((concrete.read state).1, (concrete.read state).2.1, view (concrete.read state).2.2)
  isReplaying : ∀ state, abstract.isReplaying (view state) = concrete.isReplaying state
  base : ∀ state, abstract.base (view state) = concrete.base state

namespace SeenAs

variable {concrete : Feed σ} {abstract : Feed τ} {view : σ → τ}

/-- One request is met in the same way. -/
theorem perform (seen : concrete.SeenAs abstract view) (state : σ) (request : Request) :
    abstract.perform (view state) request =
      ((concrete.perform state request).1, view (concrete.perform state request).2) := by
  cases request with
  | inject text => simp only [Feed.perform, seen.inject]
  | read => simp only [Feed.perform, seen.read]

/-- All requests are met in the same way. -/
theorem shows (seen : concrete.SeenAs abstract view) (state : σ) (requests : List Request) :
    concrete.shows state requests = abstract.shows (view state) requests := by
  induction requests generalizing state with
  | nil => rfl
  | cons request requests ih =>
      simp only [Feed.shows, seen.perform, seen.isReplaying, seen.base, ih]

theorem next (seen : concrete.SeenAs abstract view) (count : Nat) (state : σ) :
    abstract.next count (view state) =
      ((concrete.next count state).1, view (concrete.next count state).2) := by
  induction count generalizing state with
  | zero => rfl
  | succ count ih => simp only [Feed.next, seen.read, ih]

end SeenAs

end Feed

/-! ## Texts in front of the input -/

/-- The input as it is kept. -/
def InputChain.feed : Feed InputChain where
  inject := InputChain.inject
  read := InputChain.read
  isReplaying := InputChain.isReplaying
  base := InputChain.base

/-- One stack of lines. -/
def LineStack.feed : Feed LineStack where
  inject := LineStack.inject
  read := LineStack.read
  isReplaying := LineStack.isReplaying
  base := LineStack.base

namespace LineStack

/-- The lines on top of a stack are read first, and then what is below. -/
theorem next_append (base : Source) (lines rest : List String) :
    feed.next lines.length ⟨base, lines ++ rest⟩ =
      (lines.map fun line => (.line line, .injected), ⟨base, rest⟩) := by
  induction lines with
  | nil => rfl
  | cons line lines ih =>
      rw [List.length_cons, Feed.next]
      change (let (answers, last) := feed.next lines.length ⟨base, lines ++ rest⟩
        ((Answer.line line, Origin.injected) :: answers, last)) = _
      rw [ih]
      rfl

end LineStack

namespace InputChain

/-- The lines that are left of all texts, one text behind the other. -/
def stack (chain : InputChain) : LineStack := ⟨chain.base, chain.injected.flatten⟩

theorem flatten_inject (chain : InputChain) (text : String) :
    (chain.inject text).injected.flatten = linesOf text ++ chain.injected.flatten := by
  unfold inject
  split
  next none => rw [none, List.nil_append]
  · rfl

theorem base_inject (chain : InputChain) (text : String) :
    (chain.inject text).base = chain.base := by
  unfold inject
  split <;> rfl

theorem flatten_of_nextInjected? (texts : List (List String)) :
    (nextInjected? texts).elim (texts.flatten = [])
      fun next => texts.flatten = next.1 :: next.2.flatten := by
  induction texts with
  | nil => rfl
  | cons text texts ih =>
      cases text with
      | nil => exact ih
      | cons line lines => rfl

theorem stack_inject (chain : InputChain) (text : String) :
    (chain.inject text).stack = chain.stack.inject text := by
  unfold stack LineStack.inject
  rw [chain.base_inject, chain.flatten_inject]

theorem stack_read (chain : InputChain) :
    chain.stack.read = (chain.read.1, chain.read.2.1, chain.read.2.2.stack) := by
  obtain ⟨base, injected⟩ := chain
  have next := flatten_of_nextInjected? injected
  unfold InputChain.read LineStack.read stack
  cases found : nextInjected? injected with
  | some line =>
      rw [found] at next
      have flat : injected.flatten = line.1 :: line.2.flatten := next
      simp only [flat]
  | none =>
      rw [found] at next
      have flat : injected.flatten = [] := next
      simp only [flat]
      cases base with
      | nil => rfl
      | cons answer base => rfl

/-- Injected lines are left if and only if the texts are not all used up. -/
theorem isReplaying_stack (chain : InputChain) : chain.stack.isReplaying = chain.isReplaying := by
  obtain ⟨base, injected⟩ := chain
  unfold stack LineStack.isReplaying isReplaying
  induction injected with
  | nil => rfl
  | cons lines texts ih =>
      cases lines with
      | nil => exact ih
      | cons line lines => rfl

theorem seenAs_stack : feed.SeenAs LineStack.feed stack where
  inject := stack_inject
  read := stack_read
  isReplaying := isReplaying_stack
  base _ := rfl

/-- Behind a text that was put in, its lines are read, and then the input goes on as if there had
been none. -/
theorem next_inject (chain : InputChain) (text : String) :
    (feed.next (linesOf text).length (chain.inject text)).1 =
        (linesOf text).map (fun line => (.line line, .injected)) ∧
      (feed.next (linesOf text).length (chain.inject text)).2.stack = chain.stack := by
  have seen := seenAs_stack.next (linesOf text).length (chain.inject text)
  have read := LineStack.next_append chain.base (linesOf text) chain.injected.flatten
  have top : (chain.inject text).stack = ⟨chain.base, linesOf text ++ chain.injected.flatten⟩ :=
    chain.stack_inject text
  rw [top, read, Prod.mk.injEq] at seen
  exact ⟨seen.1.symm, seen.2.symm⟩

/-- The input is one stack of lines over the base source.  Whatever texts are put in and however
many lines are read in between, every answer is the one that the stack gives, and so are its origin,
whether injected lines are left, and what has not been asked of the base source.  A text that was
put in is read line by line, and then the input goes on where it was. -/
theorem input_is_one_stack (chain : InputChain) (requests : List Request) :
    feed.shows chain requests = LineStack.feed.shows chain.stack requests ∧
      chain.isReplaying = !chain.stack.lines.isEmpty ∧
      ∀ text,
        (feed.next (linesOf text).length (chain.inject text)).1 =
            (linesOf text).map (fun line => (.line line, .injected)) ∧
          (feed.next (linesOf text).length (chain.inject text)).2.stack = chain.stack :=
  ⟨seenAs_stack.shows chain requests, chain.isReplaying_stack.symm, chain.next_inject⟩

/-- Where nothing has been put in yet, nothing is on the stack. -/
example (base : Source) : stack { base } = { base } := rfl

end InputChain

end Console
