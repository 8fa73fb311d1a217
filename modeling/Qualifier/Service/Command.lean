import Qualifier.Service.Error
import Qualifier.Text.Search

/-!
# Commands

Programs run with arguments, and what comes of them. A runner is anything that
runs commands and keeps a state; the scripted one answers from a list.

## Main definitions

* `Command`, `CommandOutput`: A command and its outcome.
* `Runner`: Anything that runs commands.
* `Script.runner`: A runner that answers from a list and records what it is asked.
-/

namespace Qualifier

/-- A program and the arguments it is run with. -/
structure Command where
  program : String
  arguments : List String
deriving DecidableEq, Repr

/-- The program and its arguments in one line. -/
def Command.line (c : Command) : String :=
  Text.joined " " (c.program :: c.arguments)

/-- The argument that follows the first occurrence of a flag. -/
def Command.flagValue? (c : Command) (flag : String) : Option String :=
  match c.arguments.dropWhile (· ≠ flag) with
  | _ :: value :: _ => some value
  | _ => none

/-- What a command that ran left behind. There is no code if a signal ended it. -/
structure CommandOutput where
  code : Option Int
  stdout : String
  stderr : String
deriving DecidableEq, Repr

/-- Whether a command ended as it should. -/
def CommandOutput.isSuccess (o : CommandOutput) : Bool :=
  o.code == some 0

/-- The exit code as text. -/
def CommandOutput.statusText (o : CommandOutput) : String :=
  match o.code with
  | some code => toString code
  | none => "unknown"

/-- Anything that runs commands and keeps a state of its own. -/
abbrev Runner (σ : Type) :=
  Command → σ → Except SpawnFailure CommandOutput × σ

/-- A list of answers to the commands still to come, and the commands that came. -/
structure Script where
  responses : List CommandOutput
  invocations : List Command
deriving DecidableEq, Repr

/-- Answers a command from the list. -/
def Script.runner : Runner Script := fun command s =>
  let noted := { s with invocations := s.invocations ++ [command] }
  match s.responses with
  | [] => (.error ⟨command.program, "no scripted response available"⟩, noted)
  | response :: rest => (.ok response, { noted with responses := rest })

end Qualifier
