import Console.Engine.Basic

/-!
# Running the engine

A run goes from line to line.  A line may ask to leave sessions; then they end one by one, from
the innermost, until the session that was meant has ended and the one around it reads on.  The run
is finished when no session is left.
-/

namespace Console

/-- What a run does next. -/
inductive Phase where
  /-- The innermost session reads a line. -/
  | reading
  /-- Sessions end, down to the one at a depth. -/
  | unwinding (depth : Nat)
  /-- No session is left: the outermost one was meant to end and returns its target, or the depth
  that was meant is no session's. -/
  | finished (result : Except Nat Value)

/-- How a run goes on once a session at a level has given something back: its target, or the depth
of the session that was meant instead. -/
def Phase.resume (level : Nat) (result : Except Nat Value) : Phase :=
  if level = 0 then .finished result
  else
    match result with
    | .ok _ => .reading
    | .error depth => .unwinding depth

/-- An engine at work. -/
structure Run where
  engine : Engine
  phase : Phase := .reading

namespace Run

/-- A line was dispatched. -/
def afterDispatch (line : String) (engine : Engine) : EStateM.Result Error Desk Dispatched → Run
  | .error error desk => ⟨{ engine with desk }.report error, .reading⟩
  | .ok .noCommand desk =>
      let engine := { engine with desk }
      ⟨(engine.withBuffer (desk.buffer.push line)).settle, .reading⟩
  | .ok (.handled .next) desk => ⟨{ engine with desk }.settle, .reading⟩
  | .ok (.handled (.breakout depth)) desk => ⟨{ engine with desk }, .unwinding depth⟩
  | .ok (.handled (.nest expression)) desk =>
      match { engine with desk }.evaluate expression with
      | (.ok value, engine) => ⟨engine.enter value, .reading⟩
      | (.error error, engine) => ⟨engine.print (.error error), .reading⟩

/-- A line was read. -/
def takeLine (engine : Engine) (origin : Origin) (text : String) : Run :=
  let line := withoutFinalBreaks text
  let engine := engine.record (·.add (.took engine.session? origin line))
  let (lineIndex, engine) := engine.remember origin line
  afterDispatch line engine
    (engine.registry.dispatch (engine.surroundings lineIndex) line engine.desk)

/-- An answer of the input.  The end of the input ends the session, and so does a failure, once it
is reported; an interrupt abandons the line only. -/
def takeAnswer (engine : Engine) (origin : Origin) : Answer → Run
  | .line text => takeLine engine origin text
  | .endOfInput => ⟨engine, .unwinding engine.sessions.level⟩
  | .interrupted =>
      ⟨engine.write "Failed to write to output" "(Interrupted)\n", .reading⟩
  | .failed cause => ⟨engine.report (.io cause), .unwinding engine.sessions.level⟩

/-- Reads a line. -/
def readLine (engine : Engine) : Run :=
  let (answer, origin, input) := engine.desk.input.read
  let prompt := engine.prompt
  let engine := { engine with desk := { engine.desk with input } }
  let engine :=
    match origin with
    | .interactive => engine.record (·.add (.asked prompt answer))
    | .injected => engine
  takeAnswer engine origin answer

/-- What a session at a level gives back when it ends on the way out to a depth. -/
def handBack (level depth : Nat) (target : Value) : Except Nat Value :=
  if depth = level then .ok target else .error depth

/-- The innermost session ends on the way out to a depth. -/
def unwind (engine : Engine) (depth : Nat) : Run :=
  match engine.sessions.current? with
  | none => ⟨engine, .finished (.error depth)⟩
  | some session =>
      let level := engine.sessions.level
      ⟨engine.leave session depth, .resume level (handBack level depth session.target)⟩

/-- One step of a run; a finished run stays as it is. -/
def step (run : Run) : Run :=
  match run.phase with
  | .reading => readLine run.engine
  | .unwinding depth => unwind run.engine depth
  | .finished _ => run

/-- The result of a run that is finished, and the engine at its end. -/
def result? (run : Run) : Option (Except Nat Value × Engine) :=
  match run.phase with
  | .finished result => some (result, run.engine)
  | _ => none

/-- The end of a run, if it is reached within `fuel` steps. -/
def finish : Nat → Run → Option (Except Nat Value × Engine)
  | 0, run => run.result?
  | fuel + 1, run =>
      match run.result? with
      | some result => some result
      | none => finish fuel run.step

end Run

namespace Engine

/-- The run of the outermost session on a target. -/
def begin (engine : Engine) (target : Value) : Run := ⟨engine.enter target, .reading⟩

/-- The value of a run that is finished, and the engine after it. -/
def conclude (engine : Engine) : Except Nat Value → Value × Engine
  | .ok value => (value, engine.saveHistory)
  | .error depth =>
      (.nil, (engine.log .debug
        ("breakout to level " ++ natText depth ++ " left the engine")).saveHistory)

/-- Runs the outermost session on a target, after loading the history and before saving it, if
that ends within `fuel` steps. -/
def start (fuel : Nat) (engine : Engine) (target : Value) : Option (Value × Engine) :=
  (Run.finish fuel (engine.loadHistory.begin target)).map fun (result, engine) =>
    engine.conclude result

end Engine

end Console
