import Console.Command.Buffering

/-!
# Commands on sessions

Starting a session inside the present one, going back to one around it, and leaving.
-/

namespace Console.Commands

/-- Starts a session on an expression, or goes back one level or to the top. -/
def changeSession : Handler := fun around arguments =>
  let level := around.sessions.level
  match (arguments.filterMap id).head? with
  | none => pure (if level = 0 then .next else .breakout 1)
  | some text =>
      if text = "/" then pure (if level = 0 then .next else .breakout 1)
      else if text = ".." then pure (.breakout level)
      else pure (.nest text)

/-- A session in the list of running sessions. -/
def sessionLine (session : Session) : String :=
  "\n" ++ natText session.depth ++ ". " ++ session.target.inspect ++
    if session.depth = 0 then " (top level)" else ""

/-- Shows the running sessions. -/
def nesting : Handler := fun around _ => do
  Action.say ("Nesting status:\n--" ++ String.join (around.sessions.toList.map sessionLine))
  pure .next

/-- Goes back to the session at a level. -/
def jumpTo : Handler := fun around arguments =>
  match (arguments.filterMap id).head? with
  | none => throw .missingLevel
  | some text =>
      match readCount text with
      | .error _ => throw (.invalidLevel text)
      | .ok depth =>
          match around.sessions.breakoutTo depth with
          | .error error => throw (.breakout error)
          | .ok depth =>
              let level := around.sessions.level
              if depth = level then do
                Action.say ("Already at nesting level " ++ natText level)
                pure .next
              else pure (.breakout (depth + 1))

/-- Ends the innermost session. -/
def exit : Handler := fun around _ => pure (.breakout around.sessions.level)

/-- Ends all sessions. -/
def exitAll : Handler := fun _ _ => pure (.breakout 0)

/-- Registers the commands on sessions. -/
def registerNesting (registry : Registry) : Registry :=
  let cd : Command := .named "cd"
    "Start a session on the value of an expression. `cd ..` goes back one level, `cd /` to the top."
    (.fixed 1) changeSession
  let registry := registerPattern registry cd "^cd(?:\\s+(.+?))?\\s*$"
  let registry := registry.register <| .named "nesting" "Show the running sessions."
    (.fixed 0) nesting
  let registry := registry.register <| .named "jump-to"
    "Jump to the session at the given nesting level." (.fixed 1) jumpTo
  let registry := registry.register <| .named "exit" "End the current session." (.fixed 0) exit
  let registry := registry.register <| .named "exit-all" "End all sessions and leave."
    (.fixed 0) exitAll
  registerAlias registry (.ok (.ofName "!!!")) "exit-all"

end Console.Commands
