import Qualifier.Companion
import Qualifier.Poll.Policy
import Qualifier.Service.Request
import Qualifier.Storage.Files

/-!
# Programs and the World Outside

A program is what it asks of the world and how it goes on after each answer. The
world is anything that answers and keeps a state, so one program can be run
against simulated services, against a scripted client or against the real thing,
and what it asks can be looked at without running it against anything.

## Main definitions

* `Ask`, `Ask.Answer`: The questions, each with the kind of its answer.
* `Program`: A tree of questions; a monad.
* `World`: Anything that answers.
* `Program.run`: A program in a world.
* `Program.interpret`: A program in a monad that answers.
* `Program.Trace`: The conversations a program may have, whatever the answers.

## Theorems

* `run_pure`, `run_bind`: Running follows the structure of a program.
* `trace_run`: What a run is asked and answered is one of the conversations.
-/

namespace Qualifier

/-- A question to the world outside. -/
inductive Ask where
  /-- A request to one of the services. -/
  | service (request : Request)
  /-- Writing a file that others may read. -/
  | write (path : Path) (text : String)
  /-- Writing a file for its owner only. -/
  | writePrivate (path : Path) (text : String)
  /-- Reading a file, fenced in by its directory. -/
  | read (path : Path)
  /-- Taking a file away. -/
  | remove (path : Path)
  /-- Finding a file and reading its bytes, wherever links lead. -/
  | fetch (path : Path)
  /-- Launching a companion and waiting for its end. -/
  | launch (invocation : Invocation)
  /-- Waiting for a while drawn by a policy. -/
  | pause (policy : Policy)
  /-- A name that nobody has used yet. -/
  | freshName
deriving DecidableEq, Repr

/-- What a question is answered with. -/
@[reducible] def Ask.Answer : Ask → Type
  | .service request => Except ServiceError request.Answer
  | .write _ _ => Except Storage.FileError Unit
  | .writePrivate _ _ => Except Storage.FileError Unit
  | .read _ => Except Storage.FileError String
  | .remove _ => Except Storage.FileError Bool
  | .fetch _ => Except Storage.Fault Storage.Finding
  | .launch _ => Except SpawnFailure Outcome
  | .pause _ => Unit
  | .freshName => String

/-- A program: its result, or a question and how it goes on after the answer. -/
inductive Program (α : Type) where
  | done (result : α)
  | ask (question : Ask) (next : question.Answer → Program α)

namespace Program

variable {α β γ : Type}

/-- One program after another. -/
def andThen : Program α → (α → Program β) → Program β
  | .done a, f => f a
  | .ask q next, f => .ask q fun answer => (next answer).andThen f

instance : Monad Program where
  pure := .done
  bind := andThen

/-- The program that asks one question. -/
def question (q : Ask) : Program q.Answer :=
  .ask q .done

/-- The program that makes one request. -/
def request (r : Request) : Program (Except ServiceError r.Answer) :=
  question (.service r)

end Program

/-- Anything that answers questions and keeps a state. -/
abbrev World (σ : Type) :=
  (question : Ask) → σ → question.Answer × σ

namespace Program

variable {α β γ σ : Type}

/-- Runs a program in a world. -/
def run (w : World σ) : Program α → σ → α × σ
  | .done a, s => (a, s)
  | .ask q next, s => (next (w q s).1).run w (w q s).2

/-- Runs a program in a monad that answers its questions. -/
def interpret {m : Type → Type} [Monad m] (answer : (question : Ask) → m question.Answer) :
    Program α → m α
  | .done a => pure a
  | .ask q next => answer q >>= fun a => (next a).interpret answer

/-- A question with the answer it got. -/
abbrev Exchange := (question : Ask) × question.Answer

/-- The conversations a program may have and the results they lead to. -/
inductive Trace : Program α → List Exchange → α → Prop
  | done (a : α) : Trace (.done a) [] a
  | ask {q : Ask} {next : q.Answer → Program α} {answer : q.Answer}
      {rest : List Exchange} {a : α} (h : Trace (next answer) rest a) :
      Trace (.ask q next) (⟨q, answer⟩ :: rest) a

/-- The world with a record of what it was asked and what it answered. -/
def recording (w : World σ) : World (List Exchange × σ) := fun q s =>
  ((w q s.2).1, (s.1 ++ [⟨q, (w q s.2).1⟩], (w q s.2).2))

@[simp] theorem run_pure (w : World σ) (a : α) (s : σ) :
    (pure a : Program α).run w s = (a, s) :=
  rfl

theorem run_andThen (w : World σ) (p : Program α) (f : α → Program β) (s : σ) :
    (p.andThen f).run w s = (f (p.run w s).1).run w (p.run w s).2 := by
  induction p generalizing s with
  | done a => rfl
  | ask q next ih => exact ih _ _

@[simp] theorem run_bind (w : World σ) (p : Program α) (f : α → Program β) (s : σ) :
    (p >>= f).run w s = (f (p.run w s).1).run w (p.run w s).2 :=
  run_andThen w p f s

@[simp] theorem run_question (w : World σ) (q : Ask) (s : σ) :
    (question q).run w s = w q s :=
  rfl

/-- What a recorded run is asked and answered is a conversation of the program, and
    leads to the result of the run. -/
theorem trace_run (w : World σ) (p : Program α) (seen : List Exchange) (s : σ) :
    ∃ talk, Trace p talk (p.run w s).1 ∧
      p.run (recording w) (seen, s) = ((p.run w s).1, (seen ++ talk, (p.run w s).2)) := by
  induction p generalizing seen s with
  | done a => exact ⟨[], .done a, by simp [run]⟩
  | ask q next ih =>
    obtain ⟨talk, htalk, hrun⟩ := ih (w q s).1 (seen ++ [⟨q, (w q s).1⟩]) (w q s).2
    refine ⟨⟨q, (w q s).1⟩ :: talk, .ask htalk, ?_⟩
    simpa [run, recording] using hrun

end Program

end Qualifier
