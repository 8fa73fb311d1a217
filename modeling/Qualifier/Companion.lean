import Qualifier.Path
import Qualifier.Service.Error
import Qualifier.Span

/-!
# Companions

The program that plays the device while a suite runs, and how its launch ended.
The command can be shown as one line of shell, with every word quoted that is not
made of harmless characters only.

## Main definitions

* `Invocation`: What is launched.
* `Invocation.render`: The line of shell that stands for it.
* `Invocation.envValue?`: A value handed over in the environment.
* `Outcome`: How a launch ended.
* `Rehearsal`: A launcher that answers from a list.
-/

namespace Qualifier

/-- A companion to launch: the program and its arguments, where it runs, what is
    added to its environment, and how long it may take. -/
structure Invocation where
  program : String
  arguments : List String
  workingDirectory : Option Path
  environment : List (String × String)
  timeout : Span
deriving DecidableEq, Repr

/-- Whether a character needs no quoting. -/
def isPlain (c : Char) : Bool :=
  c.isAlphanum || c == '-' || c == '_' || c == '=' || c == '/' || c == ',' || c == '.' || c == '+'

/-- One character inside single quotes. The two that cannot stand there are written
    after a backslash between two quoted stretches. -/
def quoteChar (c : Char) : List Char :=
  if c = '\'' ∨ c = '!' then ['\'', '\\', c, '\''] else [c]

/-- A word as it is written in a line of shell. -/
def quoteWord (word : String) : String :=
  let cs := word.toList
  if cs ≠ [] ∧ cs.all isPlain then word
  else String.ofList ('\'' :: cs.flatMap quoteChar ++ ['\''])

/-- The line of shell that stands for an invocation. -/
def Invocation.render (i : Invocation) : String :=
  Text.joined " " ((i.program :: i.arguments).map quoteWord)

/-- The first value under a name among those added to the environment. -/
def Invocation.envValue? (i : Invocation) (name : String) : Option String :=
  (i.environment.find? fun e => e.1 = name).map Prod.snd

/-- How a companion ended: as it should, with another code or by a signal, or by
    being stopped when its time was up. -/
inductive Outcome where
  | succeeded
  | failed (code : Option Int)
  | timedOut
deriving DecidableEq, Repr

/-- Whether a companion ended as it should. -/
def Outcome.isSuccess (o : Outcome) : Bool :=
  o == .succeeded

/-- Anything that launches companions and keeps a state of its own. -/
abbrev Launcher (σ : Type) :=
  Invocation → σ → Except SpawnFailure Outcome × σ

/-- A list of outcomes for the launches still to come, and the launches that came. -/
structure Rehearsal where
  outcomes : List (Except SpawnFailure Outcome)
  launches : List Invocation

/-- Answers a launch from the list; once that is used up, every launch succeeds. -/
def Rehearsal.launcher : Launcher Rehearsal := fun invocation r =>
  let noted := { r with launches := r.launches ++ [invocation] }
  match r.outcomes with
  | [] => (.ok .succeeded, noted)
  | outcome :: rest => (outcome, { noted with outcomes := rest })

end Qualifier
