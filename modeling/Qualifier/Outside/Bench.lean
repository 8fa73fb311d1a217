import Qualifier.Outside.Program

/-!
# The Test Bench

A world made of values: a service of any kind, a workspace of files, a launcher
that answers from a list, a clock that only counts, and a list of names.

## Main definitions

* `Clock`: The random words still to come, and the waits that were waited.
* `Bench`: The state of such a world.
* `Bench.world`: The world itself.
-/

namespace Qualifier

/-- A clock that does not wait: the words that waits are drawn from, and the waits
    drawn so far. -/
structure Clock where
  words : List UInt64
  slept : List Span
deriving DecidableEq, Repr

/-- Draws a wait and counts it as waited. -/
def Clock.pause (c : Clock) (p : Policy) : Clock :=
  let (span, rest) := p.jitter c.words
  ⟨rest, c.slept ++ [span]⟩

/-- The whole seconds waited so far. -/
def Clock.seconds (c : Clock) : Nat :=
  c.slept.foldl (fun n s => n + s.seconds.toNat) 0

/-- The state of a test bench around a service with a state of its own. -/
structure Bench (σ : Type) where
  service : σ
  files : Storage.Workspace
  companions : Rehearsal
  clock : Clock
  names : List String

/-- Answers a question from the values on the bench. -/
def Bench.world {σ : Type} (service : Service σ) : World (Bench σ)
  | .service request, b =>
    let (answer, s) := service request b.service
    (answer, { b with service := s })
  | .write path text, b =>
    let (answer, files) := b.files.write path text
    (answer, { b with files := files })
  | .writePrivate path text, b =>
    let (answer, files) := b.files.writePrivate path text
    (answer, { b with files := files })
  | .read path, b => (b.files.read path, b)
  | .remove path, b =>
    let (answer, files) := b.files.removeIfPresent path
    (answer, { b with files := files })
  | .fetch path, b => (b.files.fetch path, b)
  | .launch invocation, b =>
    let (answer, companions) := Rehearsal.launcher invocation b.companions
    (answer, { b with companions := companions })
  | .pause policy, b => ((), { b with clock := b.clock.pause policy })
  | .freshName, b =>
    match b.names with
    | [] => ("", b)
    | name :: rest => (name, { b with names := rest })

end Qualifier
