import Console.Command.Help
import Console.Command.Nesting
import Console.Command.Playing
import Console.Command.Recalling

/-!
# Built-in commands

The registry that a console starts with.
-/

namespace Console

/-- All built-in commands. -/
def Registry.builtin : Registry :=
  .empty
    |> Commands.registerBuffering
    |> Commands.registerPlaying
    |> Commands.registerRecalling
    |> Commands.registerNesting
    |> Commands.registerHelp

end Console
