import Console.Transcript

/-!
# Hooks

What a console is told to do whenever a session begins or ends.  A hook may write as many texts as
it wants, may look at whether each of them was written before it goes on, and may remember things
from one call to the next.
-/

namespace Console

/-- Some writing with a result: each text that is written is answered before the next one. -/
inductive Writing (α : Type) where
  | done (value : α)
  | write (text : String) (next : Except IoCause Unit → Writing α)

namespace Writing

/-- Writes one text, whether or not that fails. -/
def line {α : Type} (text : String) (value : α) : Writing α := .write text fun _ => .done value

/-- Does the writing. -/
def run {α : Type} : Writing α → Transcript → α × Transcript
  | done value, transcript => (value, transcript)
  | write text next, transcript =>
      let (answer, transcript) := transcript.write text
      (next answer).run transcript

end Writing

/-- What is called when a session on a target begins or ends at a level, with what is remembered
from the calls before. -/
abbrev Hook (Memory : Type) := Memory → Value → Nat → Writing Memory

/-- The hooks of a console, in the order in which they are called.  They may share what they
remember. -/
structure Hooks where
  Memory : Type
  memory : Memory
  before : List (Hook Memory) := []
  after : List (Hook Memory) := []

/-- The hooks of a boundary. -/
def Hooks.at (hooks : Hooks) : Boundary → List (Hook hooks.Memory)
  | .before => hooks.before
  | .after => hooks.after

namespace Hooks

/-- No hooks. -/
def empty : Hooks := { Memory := Unit, memory := () }

/-- The hooks when they remember something else. -/
def remembering (hooks : Hooks) (memory : hooks.Memory) : Hooks := { hooks with memory }

/-- Calls hooks one after the other. -/
def call {Memory : Type} (target : Value) (level : Nat) :
    List (Hook Memory) → Memory → Transcript → Memory × Transcript
  | [], memory, transcript => (memory, transcript)
  | hook :: hooks, memory, transcript =>
      let (memory, transcript) := (hook memory target level).run transcript
      call target level hooks memory transcript

end Hooks

end Console
