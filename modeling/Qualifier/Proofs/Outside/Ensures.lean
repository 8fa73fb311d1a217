import Qualifier.Outside.Program

/-!
# Programs in an Uncertain World

What a program achieves whatever the world answers, as far as the world is known.

A `World` is a function, so every answer is settled once the state is. That is
too much to assume of a claim about failures: a file may or may not be written, a
companion may end in any way, and the claim has to hold in each case. A
`Behaviour` says only which answers and which next states are possible, and it may
speak of a part of the state alone. `Ensures` then asks for a result in every case
that is possible.

Because a program is a tree of questions, `Ensures` is a fold over it, and the
rule for one program after another, `ensures_bind`, turns a claim about a whole
program into claims about its stages. `run_of_ensures` brings the result back to a
world: any world that does no more than the behaviour allows.

## Main definitions

* `Behaviour`: The answers and next states that are possible.
* `Behaviour.recorded`: The same with a record of the conversation.
* `Behaviour.beside`: Two behaviours side by side.
* `Program.Ensures`: What holds at the end of a program in every possible case.
* `World.Admits`: A world that does no more than a behaviour allows.
* `Attempt`: What holds after an attempt, by whether it failed.
* `Program.Only`: A program that asks questions of one kind only.

## Theorems

* `ensures_bind`: One program after another is judged stage by stage.
* `ensures_question_bind`: A question first, judged by its answers.
* `Ensures.mono`: What follows from what is ensured is ensured.
* `Ensures.attempt`: A program that goes on by whether a stage failed.
* `ensures_of_only`: What its questions preserve such a program preserves.
* `run_of_ensures`: A world within a behaviour ends as the behaviour ensures.
* `Trace.of_ensures`: A conversation in which every answer is possible leads to what is ensured.
* `admits_recording`: Recording a world records its behaviour.
* `run_preserves`: What every answer preserves a whole run preserves.
-/

namespace Qualifier

/-- What may happen at a question: the answers that are possible in a state, and
    the states that may follow. -/
abbrev Behaviour (σ : Type) :=
  (question : Ask) → σ → question.Answer → σ → Prop

/-- A behaviour with the conversation written down beside its state. -/
def Behaviour.recorded {σ : Type} (b : Behaviour σ) : Behaviour (List Program.Exchange × σ) :=
  fun q s answer t => t.1 = s.1 ++ [⟨q, answer⟩] ∧ b q s.2 answer t.2

/-- Two behaviours side by side, each with a state of its own. -/
def Behaviour.beside {σ τ : Type} (b : Behaviour σ) (b' : Behaviour τ) : Behaviour (σ × τ) :=
  fun q s answer t => b q s.1 answer t.1 ∧ b' q s.2 answer t.2

/-- A world of which `view` shows a part, and in which that part does no more than
    a behaviour allows. -/
def World.Admits {σ τ : Type} (w : World τ) (view : τ → σ) (b : Behaviour σ) : Prop :=
  ∀ (q : Ask) (s : τ), b q (view s) (w q s).1 (view (w q s).2)

/-- A world of which two parts are seen is seen to have both. -/
theorem World.Admits.beside {σ σ' τ : Type} {w : World τ} {view : τ → σ} {view' : τ → σ'}
    {b : Behaviour σ} {b' : Behaviour σ'} (h : w.Admits view b) (h' : w.Admits view' b') :
    w.Admits (fun s => (view s, view' s)) (b.beside b') :=
  fun q s => ⟨h q s, h' q s⟩

/-- What holds after an attempt: one thing if it failed, another if it did not. -/
def Attempt {ε α σ : Type} (bad : ε → σ → Prop) (good : α → σ → Prop) :
    Except ε α → σ → Prop
  | .error e, s => bad e s
  | .ok a, s => good a s

namespace Program

variable {α β ε σ τ : Type}

/-- In every case a behaviour allows, the program ends with a result and in a state
    that satisfy `post`. -/
def Ensures (b : Behaviour σ) : Program α → σ → (α → σ → Prop) → Prop
  | .done a, s, post => post a s
  | .ask q next, s, post => ∀ answer t, b q s answer t → Ensures b (next answer) t post

theorem ensures_andThen (b : Behaviour σ) (p : Program α) (f : α → Program β) (s : σ)
    (post : β → σ → Prop) :
    Ensures b (p.andThen f) s post ↔ Ensures b p s fun a t => Ensures b (f a) t post := by
  induction p generalizing s with
  | done a => exact Iff.rfl
  | ask q next ih =>
      unfold andThen Ensures
      exact forall_congr' fun answer => forall_congr' fun t => imp_congr_right fun _ =>
        ih answer t

/-- One program after another ensures what the second one ensures after whatever
    the first one leaves. -/
theorem ensures_bind (b : Behaviour σ) (p : Program α) (f : α → Program β) (s : σ)
    (post : β → σ → Prop) :
    Ensures b (p >>= f) s post ↔ Ensures b p s fun a t => Ensures b (f a) t post :=
  ensures_andThen b p f s post

/-- A question at the start of a program is judged by what the program does after each
    of its answers. -/
theorem ensures_question_bind (b : Behaviour σ) (q : Ask) (f : q.Answer → Program β) (s : σ)
    (post : β → σ → Prop) :
    Ensures b (question q >>= f) s post ↔
      ∀ answer t, b q s answer t → Ensures b (f answer) t post :=
  Iff.rfl

theorem Ensures.mono {b : Behaviour σ} {p : Program α} {s : σ} {post post' : α → σ → Prop}
    (h : Ensures b p s post) (himp : ∀ a t, post a t → post' a t) : Ensures b p s post' := by
  induction p generalizing s with
  | done a => exact himp a s h
  | ask q next ih =>
      intro answer t hstep
      exact ih answer (h answer t hstep)

theorem Ensures.and {b : Behaviour σ} {p : Program α} {s : σ} {post post' : α → σ → Prop}
    (h : Ensures b p s post) (h' : Ensures b p s post') :
    Ensures b p s fun a t => post a t ∧ post' a t := by
  induction p generalizing s with
  | done a => exact ⟨h, h'⟩
  | ask q next ih =>
      intro answer t hstep
      exact ih answer (h answer t hstep) (h' answer t hstep)

/-- The stages of a program, one after the other: what the first ensures is all
    that is known when the second begins. -/
theorem Ensures.bind {b : Behaviour σ} {p : Program α} {f : α → Program β} {s : σ}
    {mid : α → σ → Prop} {post : β → σ → Prop} (h : Ensures b p s mid)
    (hf : ∀ a t, mid a t → Ensures b (f a) t post) : Ensures b (p >>= f) s post :=
  (ensures_bind b p f s post).mpr (h.mono hf)

theorem Ensures.attempt {b : Behaviour σ} {p : Program (Except ε α)}
    {f : Except ε α → Program β} {s : σ} {bad : ε → σ → Prop} {good : α → σ → Prop}
    {post : β → σ → Prop} (h : Ensures b p s (Attempt bad good))
    (hbad : ∀ e t, bad e t → Ensures b (f (.error e)) t post)
    (hgood : ∀ a t, good a t → Ensures b (f (.ok a)) t post) : Ensures b (p >>= f) s post := by
  refine h.bind fun answer t hmid => ?_
  cases answer with
  | error e => exact hbad e t hmid
  | ok a => exact hgood a t hmid

/-- All questions a program may come to ask satisfy a condition. -/
def Only (P : Ask → Prop) : Program α → Prop
  | .done _ => True
  | .ask q next => P q ∧ ∀ answer, Only P (next answer)

theorem Only.bind {P : Ask → Prop} {p : Program α} {f : α → Program β} (hp : Only P p)
    (hf : ∀ a, Only P (f a)) : Only P (p >>= f) := by
  induction p with
  | done a => exact hf a
  | ask q next ih => exact ⟨hp.1, fun answer => ih answer (hp.2 answer)⟩

theorem Only.mono {P Q : Ask → Prop} {p : Program α} (hp : Only P p) (himp : ∀ q, P q → Q q) :
    Only Q p := by
  induction p with
  | done a => trivial
  | ask q next ih => exact ⟨himp q hp.1, fun answer => ih answer (hp.2 answer)⟩

theorem only_question {P : Ask → Prop} {q : Ask} (h : P q) : Only P (question q) :=
  ⟨h, fun _ => trivial⟩

theorem only_question_bind {P : Ask → Prop} {q : Ask} {f : q.Answer → Program β} (h : P q)
    (hf : ∀ answer, Only P (f answer)) : Only P (question q >>= f) :=
  ⟨h, hf⟩

/-- What is preserved whenever a question of some kind is answered is preserved by the
    programs that ask no others. -/
theorem ensures_of_only {b : Behaviour σ} {P : Ask → Prop} {inv : σ → Prop}
    (hstep : ∀ q, P q → ∀ s, inv s → Ensures b (question q) s fun _ t => inv t)
    {p : Program α} (hp : Only P p) {s : σ} (hs : inv s) : Ensures b p s fun _ t => inv t := by
  induction p generalizing s with
  | done a => exact hs
  | ask q next ih =>
      intro answer t hanswer
      exact ih answer (hp.2 answer) (hstep q hp.1 s hs answer t hanswer)

theorem ensures_true (b : Behaviour σ) (p : Program α) (s : σ) :
    Ensures b p s fun _ _ => True := by
  induction p generalizing s with
  | done a => trivial
  | ask q next ih => exact fun answer t _ => ih answer t

/-- A program ends in a world as it does in every case the world's behaviour
    allows. -/
theorem run_of_ensures {w : World τ} {view : τ → σ} {b : Behaviour σ} (hw : w.Admits view b)
    {p : Program α} {s : τ} {post : α → σ → Prop} (h : Ensures b p (view s) post) :
    post (p.run w s).1 (view (p.run w s).2) := by
  induction p generalizing s with
  | done a => exact h
  | ask q next ih => exact ih _ (h _ _ (hw q s))

/-- A behaviour that knows no states is a condition on answers, and then what is ensured holds
    after every conversation in which all answers meet it. -/
theorem Trace.of_ensures {ok : Exchange → Prop} {p : Program α} {talk : List Exchange} {a : α}
    {post : α → Unit → Prop} (h : Trace p talk a) (hok : ∀ x ∈ talk, ok x)
    (hp : Ensures (fun q (_ : Unit) answer _ => ok ⟨q, answer⟩) p () post) : post a () := by
  induction h with
  | done a => exact hp
  | ask _ ih =>
      rw [List.forall_mem_cons] at hok
      exact ih hok.2 (hp _ () hok.1)

theorem admits_recording {w : World τ} {view : τ → σ} {b : Behaviour σ}
    (hw : w.Admits view b) :
    World.Admits (recording w) (fun s => (s.1, view s.2)) b.recorded :=
  fun q s => ⟨rfl, hw q s.2⟩

/-- What the answer to each question preserves is preserved from the first question
    of a program to the last. -/
theorem run_preserves (w : World σ) (inv : σ → Prop) (hw : ∀ q s, inv s → inv (w q s).2)
    (p : Program α) (s : σ) (h : inv s) : inv (p.run w s).2 := by
  induction p generalizing s with
  | done a => exact h
  | ask q next ih => exact ih _ _ (hw q s h)

end Program

end Qualifier
