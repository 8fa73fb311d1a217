import Qualifier.Proofs.Outside.Conversation
import Qualifier.Proofs.Outside.Ensures

/-!
# The Moments of a Run

What holds while a program runs, and not only when it is done. A run has a moment for
each of its questions, with the state the question is asked in. The moments of one
program after another are those of the first and then those of the second, so a long run
falls apart into the runs of its stages.

A claim about the launches of a program is one about some of its moments. `Guards` asks,
in every case a behaviour allows, that whatever is launched be launched in a state that
is ready for it. It is judged stage by stage like `Ensures`, and a stage that launches
nothing has nothing to guard (`Ensures.guards`).

## Main definitions

* `Moment`, `moments`: The questions of a run with the states they are asked in.
* `launchesIn`: What is launched in a conversation.
* `Launchless`, `AtMostOnce`: Programs that launch nothing, or one companion at most.
* `Guards`: Launches take place in states that are ready for them.
* `filmed`: A behaviour with the moments of a run kept beside its state.

## Theorems

* `moments_bind`: The moments of one program after another.
* `trace_moments`: What is asked and answered at them is a conversation.
* `guards_bind`, `Ensures.guards`: Stages are guarded one after the other.
* `guards_of_only`: A program that keeps the state ready for what it may launch.
* `ready_of_guards`: In a guarded run every launch is ready, given what was said before.
* `run_of_ensures_filmed`: What is ensured of a filmed behaviour holds of the moments of a run.
-/

namespace Qualifier

namespace Program

variable {α β ε σ τ : Type}

/-- What is launched in an exchange. -/
def launched? : Exchange → Option Invocation
  | ⟨.launch invocation, _⟩ => some invocation
  | _ => none

/-- The launches in a conversation, in order. -/
def launchesIn (talk : List Exchange) : List Invocation :=
  talk.filterMap launched?

/-- A moment of a run: the state it is in, what is asked there and what is answered. -/
structure Moment (σ : Type) where
  state : σ
  exchange : Exchange

/-- The moments of a run, in order. -/
def moments (w : World σ) : Program α → σ → List (Moment σ)
  | .done _, _ => []
  | .ask q next, s => ⟨s, q, (w q s).1⟩ :: moments w (next (w q s).1) (w q s).2

theorem moments_andThen (w : World σ) (p : Program α) (f : α → Program β) (s : σ) :
    moments w (p.andThen f) s =
      moments w p s ++ moments w (f (p.run w s).1) (p.run w s).2 := by
  induction p generalizing s with
  | done a => rfl
  | ask q next ih => exact congrArg (_ :: ·) (ih _ _)

theorem moments_bind (w : World σ) (p : Program α) (f : α → Program β) (s : σ) :
    moments w (p >>= f) s = moments w p s ++ moments w (f (p.run w s).1) (p.run w s).2 :=
  moments_andThen w p f s

/-- What is in a part of the first program is in both of them together. -/
theorem infix_moments_left {w : World σ} {p : Program α} {s : σ} {film : List (Moment σ)}
    (h : film <:+: moments w p s) (f : α → Program β) : film <:+: moments w (p >>= f) s := by
  rw [moments_bind]
  exact h.trans (List.prefix_append _ _).isInfix

/-- So is what is in a part of the second. -/
theorem infix_moments_right {w : World σ} {p : Program α} {f : α → Program β} {s : σ}
    {film : List (Moment σ)} (h : film <:+: moments w (f (p.run w s).1) (p.run w s).2) :
    film <:+: moments w (p >>= f) s := by
  rw [moments_bind]
  exact h.trans (List.suffix_append _ _).isInfix

theorem moments_question (w : World σ) (q : Ask) (s : σ) :
    moments w (question q) s = [⟨s, q, (w q s).1⟩] :=
  rfl

theorem trace_moments (w : World σ) (p : Program α) (s : σ) :
    Trace p ((moments w p s).map Moment.exchange) (p.run w s).1 := by
  induction p generalizing s with
  | done a => exact .done a
  | ask q next ih => exact .ask (ih _ _)

theorem launchesIn_append (talk talk' : List Exchange) :
    launchesIn (talk ++ talk') = launchesIn talk ++ launchesIn talk' :=
  List.filterMap_append

/-- A launchless program launches nothing. -/
abbrev Launchless (p : Program α) : Prop :=
  Only (fun q => q.isLaunch = false) p

theorem launchesIn_eq_nil {talk : List Exchange} (h : ∀ e ∈ talk, e.1.isLaunch = false) :
    launchesIn talk = [] := by
  refine List.filterMap_eq_nil_iff.mpr fun e he => ?_
  have hnot := h e he
  rcases e with ⟨q, answer⟩
  cases q with
  | launch invocation => exact absurd hnot (by simp [Ask.isLaunch])
  | _ => rfl

theorem Launchless.launchesIn {p : Program α} (hp : Launchless p) {talk : List Exchange} {a : α}
    (h : Trace p talk a) : launchesIn talk = [] := by
  refine launchesIn_eq_nil ?_
  induction h with
  | done a => exact fun e he => absurd he List.not_mem_nil
  | ask _ ih => exact List.forall_mem_cons.mpr ⟨hp.1, ih (hp.2 _)⟩

/-- In no conversation of the program there is more than one launch. -/
def AtMostOnce (p : Program α) : Prop :=
  ∀ talk a, Trace p talk a → (launchesIn talk).length ≤ 1

theorem AtMostOnce.bind {p : Program α} {f : α → Program β} (hp : AtMostOnce p)
    (hf : ∀ a, Launchless (f a)) : AtMostOnce (p >>= f) := by
  intro talk b h
  rcases (trace_bind_iff _ _ _ _).mp h with ⟨first, a, rest, rfl, hfirst, hrest⟩
  rw [launchesIn_append, (hf a).launchesIn hrest, List.append_nil]
  exact hp first a hfirst

theorem Launchless.bind_atMostOnce {p : Program α} {f : α → Program β} (hp : Launchless p)
    (hf : ∀ a, AtMostOnce (f a)) : AtMostOnce (p >>= f) := by
  intro talk b h
  rcases (trace_bind_iff _ _ _ _).mp h with ⟨first, a, rest, rfl, hfirst, hrest⟩
  rw [launchesIn_append, hp.launchesIn hfirst, List.nil_append]
  exact hf a rest b hrest

theorem atMostOnce_pure (a : α) : AtMostOnce (pure a) := by
  rintro talk b h
  rcases (trace_pure_iff _ _ _).mp h with ⟨rfl, -⟩
  exact Nat.zero_le 1

/-- In every case a behaviour allows, what is launched is launched in a state that is
    ready for it. -/
def Guards (b : Behaviour σ) (ready : Invocation → σ → Prop) : Program α → σ → Prop
  | .done _, _ => True
  | .ask q next, s => (∀ invocation, q = .launch invocation → ready invocation s) ∧
      ∀ answer t, b q s answer t → Guards b ready (next answer) t

variable {b : Behaviour σ} {ready : Invocation → σ → Prop}

theorem guards_bind (p : Program α) (f : α → Program β) (s : σ) :
    Guards b ready (p >>= f) s ↔
      Guards b ready p s ∧ Ensures b p s fun a t => Guards b ready (f a) t := by
  induction p generalizing s with
  | done a =>
      change Guards b ready (f a) s ↔ True ∧ Guards b ready (f a) s
      rw [true_and]
  | ask q next ih =>
      constructor
      · rintro ⟨hready, hnext⟩
        exact ⟨⟨hready, fun answer t ht => ((ih answer t).mp (hnext answer t ht)).1⟩,
          fun answer t ht => ((ih answer t).mp (hnext answer t ht)).2⟩
      · rintro ⟨⟨hready, hfirst⟩, hsecond⟩
        exact ⟨hready, fun answer t ht => (ih answer t).mpr ⟨hfirst answer t ht, hsecond answer t ht⟩⟩

/-- A program that keeps its state ready for all it may launch is guarded. -/
theorem guards_of_only {P : Ask → Prop} {inv : σ → Prop}
    (hready : ∀ invocation, P (.launch invocation) → ∀ s, inv s → ready invocation s)
    (hstep : ∀ q, P q → ∀ s, inv s → Ensures b (question q) s fun _ t => inv t)
    {p : Program α} (hp : Only P p) {s : σ} (hs : inv s) : Guards b ready p s := by
  induction p generalizing s with
  | done a => trivial
  | ask q next ih =>
      refine ⟨fun invocation hq => hready invocation (hq ▸ hp.1) s hs, fun answer t ht => ?_⟩
      exact ih answer (hp.2 answer) (hstep q hp.1 s hs answer t ht)

theorem guards_of_launchless {p : Program α} (hp : Launchless p) (s : σ) :
    Guards b ready p s := by
  induction p generalizing s with
  | done a => trivial
  | ask q next ih =>
      refine ⟨fun invocation hq => ?_, fun answer t _ => ih answer (hp.2 answer) t⟩
      exact absurd hp.1 (by rw [hq]; simp [Ask.isLaunch])

/-- After a stage without launches, all depends on the state it leaves. -/
theorem Ensures.guards {p : Program α} {f : α → Program β} {s : σ} {mid : α → σ → Prop}
    (h : Ensures b p s mid) (hp : Launchless p)
    (hf : ∀ a t, mid a t → Guards b ready (f a) t) : Guards b ready (p >>= f) s :=
  (guards_bind p f s).mpr ⟨guards_of_launchless hp s, h.mono hf⟩

/-- What was said before a launch and the state it is made in are ready for it, in every
    run of a guarded program. -/
theorem ready_of_guards {w : World τ} {view : τ → σ} (hw : w.Admits view b)
    {ready : Invocation → List Exchange × σ → Prop} {p : Program α} {s : τ}
    {said : List Exchange} (h : Guards b.recorded ready p (said, view s))
    {before after : List (Moment τ)} {m : Moment τ} {invocation : Invocation}
    (hsplit : moments w p s = before ++ m :: after)
    (hm : launched? m.exchange = some invocation) :
    ready invocation (said ++ before.map Moment.exchange, view m.state) := by
  induction p generalizing s said before with
  | done a => exact absurd hsplit (by simp [moments])
  | ask q next ih =>
      cases before with
      | nil =>
          rw [moments, List.nil_append, List.cons.injEq] at hsplit
          rcases hsplit with ⟨rfl, -⟩
          rw [List.map_nil, List.append_nil]
          refine h.1 invocation ?_
          cases q with
          | launch i => exact congrArg Ask.launch (Option.some.inj hm)
          | _ => exact absurd hm (by simp [launched?])
      | cons first before =>
          rw [moments, List.cons_append, List.cons.injEq] at hsplit
          rcases hsplit with ⟨rfl, hrest⟩
          have hnext := h.2 (w q s).1 (said ++ [⟨q, (w q s).1⟩], view (w q s).2) ⟨rfl, hw q s⟩
          rw [List.map_cons, List.append_cons]
          exact ih _ hnext hrest

/-- The moment as a view of its state shows it. -/
def Moment.seen (view : τ → σ) (m : Moment τ) : Moment σ :=
  ⟨view m.state, m.exchange⟩

/-- The behaviour with the moments of a run kept beside its state. -/
def filmed (b : Behaviour σ) : Behaviour (List (Moment σ) × σ) :=
  fun q s answer t => t.1 = s.1 ++ [⟨s.2, q, answer⟩] ∧ b q s.2 answer t.2

/-- What is ensured of a filmed behaviour holds of the moments of a run. -/
theorem run_of_ensures_filmed {w : World τ} {view : τ → σ} (hw : w.Admits view b)
    {p : Program α} {s : τ} {film : List (Moment σ)} {post : α → List (Moment σ) × σ → Prop}
    (h : Ensures (filmed b) p (film, view s) post) :
    post (p.run w s).1 (film ++ (moments w p s).map (Moment.seen view), view (p.run w s).2) := by
  induction p generalizing s film with
  | done a =>
      rw [moments, List.map_nil, List.append_nil]
      exact h
  | ask q next ih =>
      have hnext := h (w q s).1 (film ++ [⟨view s, q, (w q s).1⟩], view (w q s).2) ⟨rfl, hw q s⟩
      rw [moments, List.map_cons, List.append_cons]
      exact ih _ hnext

end Program

end Qualifier
