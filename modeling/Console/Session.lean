import Console.Value

/-!
# Sessions

Sessions are nested: each was started in the one before it.  The level of a session is the number
of sessions around it, and no two sessions have the same identity, even after one has ended.
-/

namespace Console

/-- A running session. -/
structure Session where
  id : Nat
  depth : Nat
  /-- What `self` stands for in the session. -/
  target : Value
  /-- The depth of the session around it. -/
  parent : Option Nat
  deriving Repr

/-- The running sessions, innermost first, and the identity of the next one. -/
structure SessionStack where
  running : List Session := []
  nextId : Nat := 0
  deriving Repr

/-- Why there is no way out to a session. -/
inductive BreakoutError where
  | noSession
  | noSuchLevel (level depth : Nat)
  deriving DecidableEq, Repr

namespace BreakoutError

/-- The wording of the error. -/
def message : BreakoutError → String
  | noSession => "No session is running"
  | noSuchLevel level depth =>
      "Invalid nest level. Must be between 0 and " ++ natText level ++ ". Got " ++ natText depth ++
        "."

end BreakoutError

namespace SessionStack

/-- The number of running sessions. -/
def size (stack : SessionStack) : Nat := stack.running.length

/-- The session that would start next on a target. -/
def next (stack : SessionStack) (target : Value) : Session where
  id := stack.nextId
  depth := stack.size
  target := target
  parent := if stack.size = 0 then none else some (stack.size - 1)

/-- Starts a session inside the innermost one. -/
def push (stack : SessionStack) (target : Value) : SessionStack where
  running := stack.next target :: stack.running
  nextId := stack.nextId + 1

/-- Ends the innermost session. -/
def pop (stack : SessionStack) : SessionStack := { stack with running := stack.running.tail }

/-- The innermost session. -/
def current? (stack : SessionStack) : Option Session := stack.running.head?

/-- The level of the innermost session. -/
def level? (stack : SessionStack) : Option Nat :=
  if stack.size = 0 then none else some (stack.size - 1)

/-- The level of the innermost session, or zero. -/
def level (stack : SessionStack) : Nat := stack.size - 1

/-- What `self` stands for in the innermost session. -/
def target (stack : SessionStack) : Value :=
  match stack.current? with
  | some session => session.target
  | none => .nil

/-- The running sessions, outermost first. -/
def toList (stack : SessionStack) : List Session := stack.running.reverse

/-- The session at a depth. -/
def get? (stack : SessionStack) (depth : Nat) : Option Session := stack.toList[depth]?

/-- The session around a session. -/
def parentOf? (stack : SessionStack) (session : Session) : Option Session :=
  session.parent.bind stack.get?

/-- Checks that there is a session at a depth to go back to. -/
def breakoutTo (stack : SessionStack) (depth : Nat) : Except BreakoutError Nat :=
  match stack.level? with
  | none => .error .noSession
  | some level => if depth ≤ level then .ok depth else .error (.noSuchLevel level depth)

@[simp] theorem size_push (stack : SessionStack) (target : Value) :
    (stack.push target).size = stack.size + 1 := rfl

@[simp] theorem pop_push (stack : SessionStack) (target : Value) :
    (stack.push target).pop.running = stack.running := rfl

@[simp] theorem target_push (stack : SessionStack) (target : Value) :
    (stack.push target).target = target := rfl

end SessionStack

end Console
