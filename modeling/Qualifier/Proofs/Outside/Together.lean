import Qualifier.Proofs.Outside.Ensures

/-!
# Two Runs of One Program

A claim that something makes no difference is about two runs: one program, started in
two states of one world that differ in what is to make no difference. `Together` says
that both runs have the same result, and how the states they end in are related.

As long as the results of the stages are the same, the two runs go on with the same
stage, and the rules for one run carry over. A stage whose result nobody looks at may
end differently in the two runs. There each of them is judged by itself, and what has
to be shown is only that the states are related again (`Together.aside`).

## Main definitions

* `Together`: Two runs with the same result.

## Theorems

* `Together.bind`, `Together.attempt`: Runs that go on with the same stage.
* `Together.aside`: Runs that go their own ways for a while.
* `together_of_only`: Programs that ask questions of one kind only.
* `run_of_only`: The same for a single run.
-/

namespace Qualifier

namespace Program

variable {α β ε σ : Type} {w : World σ}

/-- Two runs of a program have the same result, and `post` relates it and the states they
    end in. -/
def Together (w : World σ) (p : Program α) (s s' : σ) (post : α → σ → σ → Prop) : Prop :=
  (p.run w s).1 = (p.run w s').1 ∧ post (p.run w s).1 (p.run w s).2 (p.run w s').2

theorem together_pure {a : α} {s s' : σ} {post : α → σ → σ → Prop} (h : post a s s') :
    Together w (pure a) s s' post :=
  ⟨rfl, h⟩

theorem Together.mono {p : Program α} {s s' : σ} {post post' : α → σ → σ → Prop}
    (h : Together w p s s' post) (himp : ∀ a t t', post a t t' → post' a t t') :
    Together w p s s' post' :=
  ⟨h.1, himp _ _ _ h.2⟩

theorem Together.bind {p : Program α} {f : α → Program β} {s s' : σ}
    {mid : α → σ → σ → Prop} {post : β → σ → σ → Prop} (h : Together w p s s' mid)
    (hf : ∀ a t t', mid a t t' → Together w (f a) t t' post) :
    Together w (p >>= f) s s' post := by
  have hrest := hf _ _ _ h.2
  unfold Together at hrest ⊢
  rw [run_bind, run_bind, ← h.1]
  exact hrest

theorem Together.attempt {p : Program (Except ε α)} {f : Except ε α → Program β} {s s' : σ}
    {mid : Except ε α → σ → σ → Prop} {post : β → σ → σ → Prop} (h : Together w p s s' mid)
    (hbad : ∀ e t t', mid (.error e) t t' → Together w (f (.error e)) t t' post)
    (hgood : ∀ a t t', mid (.ok a) t t' → Together w (f (.ok a)) t t' post) :
    Together w (p >>= f) s s' post := by
  refine h.bind fun answer t t' hmid => ?_
  cases answer with
  | error e => exact hbad e t t' hmid
  | ok a => exact hgood a t t' hmid

/-- A stage whose result is not looked at may end in any way, as long as the states it
    leads to are related. -/
theorem Together.aside {p : Program α} {q : Program β} {s s' : σ} {post : β → σ → σ → Prop}
    (h : Together w q (p.run w s).2 (p.run w s').2 post) :
    Together w (p >>= fun _ => q) s s' post := by
  unfold Together at h ⊢
  rw [run_bind, run_bind]
  exact h

/-- Questions of one kind that keep two states related keep them so along a program that
    asks no others. -/
theorem together_of_only {P : Ask → Prop} {rel : σ → σ → Prop}
    (hstep : ∀ q, P q → ∀ s s', rel s s' → Together w (question q) s s' fun _ => rel)
    {p : Program α} (hp : Only P p) {s s' : σ} (h : rel s s') :
    Together w p s s' fun _ => rel := by
  induction p generalizing s s' with
  | done a => exact together_pure h
  | ask q next ih => exact (hstep q hp.1 s s' h).bind fun a t t' ht => ih a (hp.2 a) ht

/-- What is preserved whenever a question of some kind is answered is preserved by a run
    of a program that asks no others. -/
theorem run_of_only {P : Ask → Prop} {inv : σ → Prop}
    (hstep : ∀ q, P q → ∀ s, inv s → inv (w q s).2) {p : Program α} (hp : Only P p) {s : σ}
    (h : inv s) : inv (p.run w s).2 := by
  induction p generalizing s with
  | done a => exact h
  | ask q next ih => exact ih _ (hp.2 _) (hstep q hp.1 s h)

end Program

end Qualifier
