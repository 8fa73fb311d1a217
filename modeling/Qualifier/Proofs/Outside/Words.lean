import Qualifier.Proofs.Outside.Conversation
import Qualifier.Proofs.Outside.Parts
import Qualifier.Proofs.Registry.Queues

/-!
# The Words That Programs Spell

Which services a program calls, and in which order. Left of a conversation is the word of
its operations, and `Spells` is a claim about all words of a program, each with the result it
leads to, whatever is answered on the way. Words are put together as programs are: those of
one program after another are those of the first with those of the second appended, so a
claim about a whole program is proved stage by stage, as with `Ensures`.

The simulated services keep a list of their calls. `calls_run` says that a run adds to it
what was spelled, so a claim about words is one about that list.

## Main definitions

* `Ask.operation?`, `operationsIn`: The operations in a conversation.
* `Spells`: What holds of all words of a program.

## Theorems

* `Spells.bind`, `spells_request_bind`, `spells_aside_bind`: The words of a program by its
  stages.
* `Cloud.calls_service`: The services keep a list of their calls.
* `calls_run`: What a run adds to it.
-/

namespace Qualifier

/-- The operation that is called with a question, if it is for a service. -/
def Ask.operation? : Ask → Option Operation
  | .service r => some r.operation
  | _ => none

namespace Program

variable {α β σ : Type}

/-- The operations in a conversation, in order. -/
def operationsIn (talk : List Exchange) : List Operation :=
  talk.filterMap fun e => e.1.operation?

theorem operationsIn_append (talk talk' : List Exchange) :
    operationsIn (talk ++ talk') = operationsIn talk ++ operationsIn talk' :=
  List.filterMap_append

/-- In every conversation of a program, the word of its operations and the result it leads to
    satisfy `post`. -/
def Spells (p : Program α) (post : List Operation → α → Prop) : Prop :=
  ∀ talk a, Trace p talk a → post (operationsIn talk) a

theorem spells_pure {a : α} {post : List Operation → α → Prop} (h : post [] a) :
    Spells (pure a) post := by
  rintro talk b htrace
  obtain ⟨rfl, rfl⟩ := (trace_pure_iff _ _ _).mp htrace
  exact h

theorem Spells.mono {p : Program α} {post post' : List Operation → α → Prop} (h : Spells p post)
    (himp : ∀ word a, post word a → post' word a) : Spells p post' :=
  fun talk a htrace => himp _ a (h talk a htrace)

/-- A word of one program after another is one of the first and then one of the second. -/
theorem Spells.bind {p : Program α} {f : α → Program β} {mid : List Operation → α → Prop}
    {post : List Operation → β → Prop} (h : Spells p mid)
    (hf : ∀ word a, mid word a → Spells (f a) fun rest b => post (word ++ rest) b) :
    Spells (p >>= f) post := by
  intro talk b htrace
  rcases (trace_bind_iff _ _ _ _).mp htrace with ⟨first, a, rest, rfl, hfirst, hrest⟩
  rw [operationsIn_append]
  exact hf _ a (h first a hfirst) rest b hrest

/-- A request puts its operation before what is called after it. -/
theorem spells_request_bind {r : Request} {f : Except ServiceError r.Answer → Program α}
    {post : List Operation → α → Prop}
    (h : ∀ answer, Spells (f answer) fun rest a => post (r.operation :: rest) a) :
    Spells (request r >>= f) post := by
  intro talk a htrace
  rcases (trace_request_bind_iff _ _ _ _).mp htrace with ⟨answer, rest, rfl, hrest⟩
  exact h answer rest a hrest

/-- A question that is not for a service leaves no mark. -/
theorem spells_aside_bind {q : Ask} {f : q.Answer → Program α}
    {post : List Operation → α → Prop} (hq : q.operation? = none)
    (h : ∀ answer, Spells (f answer) post) : Spells (question q >>= f) post := by
  intro talk a htrace
  rcases (trace_question_bind_iff _ _ _ _).mp htrace with ⟨answer, rest, rfl, hrest⟩
  have hmark : operationsIn (⟨q, answer⟩ :: rest) = operationsIn rest :=
    List.filterMap_cons_none hq
  rw [hmark]
  exact h answer rest a hrest

end Program

namespace Simulated

open Program

/-- What a call does that no failure stops is not to the list of calls. -/
theorem Cloud.calls_perform (r : Request) (c : Cloud) :
    (Cloud.perform r c).2.calls = c.calls := by
  cases r <;> simp only [Cloud.perform, Cloud.onThing, Cloud.onCertificate] <;> repeat' split
  all_goals rfl

/-- The services keep a list of their calls, whether or not they fail. -/
theorem Cloud.calls_service (r : Request) (c : Cloud) :
    (Cloud.service r c).2.calls = c.calls ++ [r.operation] := by
  rw [Cloud.service_eq]
  cases (c.pending r.operation).headD none with
  | some error => rfl
  | none => exact Cloud.calls_perform r _

/-- A question adds its operation to the list, if it has one. -/
theorem Cloud.calls_of_behaviour {q : Ask} {c d : Cloud} {answer : q.Answer}
    (h : Cloud.behaviour q c answer d) : d.calls = c.calls ++ q.operation?.toList := by
  cases q with
  | service r =>
      rw [(Prod.mk.inj (show (answer, d) = Cloud.service r c from h)).2]
      exact Cloud.calls_service r c
  | _ => exact (show d = c from h) ▸ (List.append_nil _).symm

/-- A run adds to the list of calls a word of the program, one that leads to the result of
    the run. -/
theorem calls_run {α τ : Type} {w : World τ} {cloud : τ → Cloud}
    (hcloud : w.Admits cloud Cloud.behaviour) {p : Program α}
    {post : List Operation → α → Prop} (h : Spells p post) (start : τ) :
    ∃ word, (cloud (p.run w start).2).calls = (cloud start).calls ++ word ∧
      post word (p.run w start).1 := by
  rcases run_recording w p start with ⟨talk, htrace, hrun⟩
  have hcalls := run_preserves (recording w)
    (fun t : List Exchange × τ =>
      (cloud t.2).calls = (cloud start).calls ++ operationsIn t.1) ?_ p ([], start)
    (List.append_nil _).symm
  · rw [hrun] at hcalls
    exact ⟨_, hcalls, h talk _ htrace⟩
  · rintro q ⟨said, t⟩ hsaid
    change (cloud (w q t).2).calls = _ ++ operationsIn (said ++ [⟨q, (w q t).1⟩])
    rw [Cloud.calls_of_behaviour (hcloud q t), hsaid, operationsIn_append, List.append_assoc]
    cases hop : q.operation? <;> simp [operationsIn, hop]

end Simulated

end Qualifier
