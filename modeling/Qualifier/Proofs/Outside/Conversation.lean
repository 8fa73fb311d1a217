import Qualifier.Outside.Program

/-!
# Conversations

How the conversations of a program are put together from those of its stages. A
`Trace` says what a program may be asked and answered whatever the world; this
module takes one apart along the structure of the program, so that a claim about
the order of questions can be proved stage by stage.

## Main definitions

* `Ask.isLaunch`: Whether a question is a launch.

## Theorems

* `trace_pure_iff`: A finished program has nothing to say.
* `trace_question_bind_iff`: A question comes first, and its answer decides how
  the conversation goes on.
* `trace_request_bind_iff`: The same for a request to a service.
* `trace_bind_iff`: The conversation of one program after another is one after the
  other.
* `Trace.unique`: A conversation leads to one result only.
* `run_recording`: What a recorded run writes down is a conversation.
-/

namespace Qualifier

/-- Whether a question is a launch. -/
def Ask.isLaunch : Ask → Bool
  | .launch _ => true
  | _ => false

namespace Program

variable {α β σ : Type}

@[simp] theorem trace_pure_iff (a r : α) (talk : List Exchange) :
    Trace (pure a) talk r ↔ talk = [] ∧ r = a := by
  constructor
  · intro h
    cases h with
    | done => exact ⟨rfl, rfl⟩
  · rintro ⟨rfl, rfl⟩
    exact .done _

theorem trace_question_bind_iff (q : Ask) (f : q.Answer → Program α) (talk : List Exchange)
    (r : α) :
    Trace (question q >>= f) talk r ↔
      ∃ answer rest, talk = ⟨q, answer⟩ :: rest ∧ Trace (f answer) rest r := by
  constructor
  · intro h
    cases h with
    | ask hrest => exact ⟨_, _, rfl, hrest⟩
  · rintro ⟨answer, rest, rfl, hrest⟩
    exact .ask hrest

theorem trace_request_bind_iff (q : Request)
    (f : Except ServiceError q.Answer → Program α) (talk : List Exchange) (r : α) :
    Trace (request q >>= f) talk r ↔
      ∃ answer rest, talk = ⟨.service q, answer⟩ :: rest ∧ Trace (f answer) rest r :=
  trace_question_bind_iff (.service q) f talk r

/-- A conversation ends with the result it leads to, so the end of the first stage
    is where the second one begins. -/
theorem trace_bind_iff (p : Program α) (f : α → Program β) (talk : List Exchange) (r : β) :
    Trace (p >>= f) talk r ↔
      ∃ first a rest, talk = first ++ rest ∧ Trace p first a ∧ Trace (f a) rest r := by
  constructor
  · intro h
    -- The first stage is over when its tree is used up.
    induction p generalizing talk with
    | done a => exact ⟨[], a, talk, rfl, .done a, h⟩
    | ask q next ih =>
        cases h with
        | ask hrest =>
            rcases ih _ _ hrest with ⟨first, a, rest, rfl, hfirst, hsecond⟩
            exact ⟨_ :: first, a, rest, rfl, .ask hfirst, hsecond⟩
  · rintro ⟨first, a, rest, rfl, hfirst, hsecond⟩
    induction hfirst with
    | done a => exact hsecond
    | ask _ ih => exact .ask (ih hsecond)

theorem Trace.unique {p : Program α} {talk : List Exchange} {a a' : α} (h : Trace p talk a)
    (h' : Trace p talk a') : a = a' := by
  induction h with
  | done a =>
      cases h' with
      | done => rfl
  | ask _ ih =>
      cases h' with
      | ask hrest => exact ih hrest

/-- A recorded run starts from an empty record and ends with a conversation of the
    program; the record changes nothing else. -/
theorem run_recording (w : World σ) (p : Program α) (s : σ) :
    ∃ talk, Trace p talk (p.run w s).1 ∧
      p.run (recording w) ([], s) = ((p.run w s).1, talk, (p.run w s).2) := by
  rcases trace_run w p [] s with ⟨talk, htrace, hrun⟩
  exact ⟨talk, htrace, by simpa only [List.nil_append] using hrun⟩

end Program

end Qualifier
