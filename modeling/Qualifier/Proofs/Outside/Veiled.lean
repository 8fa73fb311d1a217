import Qualifier.Outside.Bench
import Qualifier.Proofs.Outside.Moments
import Qualifier.Proofs.Storage.Resemblance

/-!
# What Private Keys Have to Do with a Run

A program is told private keys, when a certificate is issued, and it tells them on, when it
writes a private file. Two runs are compared in which different keys are issued and everything
else is the same. Of two programs that are `Veiled` it can be seen that they ask the same
questions, whatever keys they are told, up to the bytes of private files. Where no certificate
could be issued the failures may differ, too, in what a `view` hides; a program may return them,
but it does the same whichever it is told.

In a world in which nothing depends on the bytes of a file they are then also answered the
same (`Coupled.ask`). The calls to the system succeed there or do nothing, so a write, which
consists of several, may stop between any two of them; where it does is decided by a policy that
knows all that was said but no keys (`Bench.faltering`). What becomes of the files can be judged
on the first run alone, with the files of the second at its side (`twofold`), and `veiled_run`
is how it is brought back to the two runs.

## Main definitions

* `Certificate.veiled`, `Ask.veil`, `veiled`: What is left without private keys.
* `Veiled`: Two programs that differ in the private keys they are told.
* `requestsIn`: The requests of a conversation.
* `Service.Mirrors`: Two services that differ in private keys.
* `Stage`, `Lapse`: A file call that fails, and how far it has come.
* `Bench.faltering`: A test bench on which file calls may fail.
* `Coupled`: Two states of such a world.
* `twofold`: What is done to two workspaces at a question.

## Theorems

* `Veiled.bind`, `veiled_of_only`: How programs are seen to be veiled.
* `Coupled.ask`, `Coupled.tell`: One question, asked in both runs.
* `veiled_run`: Two runs.
-/

namespace Qualifier

open Program Storage

/-! ## Without private keys -/

/-- A certificate without its private key. -/
def Certificate.veiled (c : Certificate) : Certificate :=
  { c with privateKey := "" }

/-- A failed call without the words on what could not be read. -/
def ServiceError.hushed : ServiceError → ServiceError
  | .malformedResponse operation _ => .malformedResponse operation ""
  | e => e

/-- The answer to a request without a private key. If there is no certificate, it is as a view
    of the failure shows it. -/
def Request.veil (view : ServiceError → ServiceError) :
    (r : Request) → Except ServiceError r.Answer → Except ServiceError r.Answer
  | .createCertificate, answer => (answer.map Certificate.veiled).mapError view
  | _, answer => answer

/-- The answer to a question without a private key. -/
def Ask.veil (view : ServiceError → ServiceError) : (q : Ask) → q.Answer → q.Answer
  | .service r, answer => r.veil view answer
  | _, answer => answer

/-- A question without the bytes of a private file. -/
def Ask.veiled : Ask → Ask
  | .writePrivate path _ => .writePrivate path ""
  | q => q

/-- An exchange without private keys and without the bytes of private files. -/
def veiled (view : ServiceError → ServiceError) : Exchange → Exchange
  | ⟨.writePrivate path _, answer⟩ => ⟨.writePrivate path "", answer⟩
  | ⟨q, answer⟩ => ⟨q, q.veil view answer⟩

/-- Whether a question does not look into a file, nor fill one that is private. -/
def Ask.discreet : Ask → Bool
  | .read _ => false
  | .fetch _ => false
  | .writePrivate _ _ => false
  | _ => true

/-- A question that has nothing to do with a private key: a discreet one that has no certificate
    issued. -/
def Ask.keyless (q : Ask) : Prop :=
  q.discreet = true ∧ q ≠ .service .createCertificate

variable {view : ServiceError → ServiceError}

theorem Ask.veil_of_keyless {q : Ask} (h : q.keyless) (answer : q.Answer) :
    q.veil view answer = answer := by
  cases q with
  | service r =>
      cases r with
      | createCertificate => exact absurd rfl h.2
      | _ => rfl
  | _ => rfl

theorem veiled_of_discreet {q : Ask} (h : q.discreet = true) (answer : q.Answer) :
    veiled view ⟨q, answer⟩ = ⟨q, q.veil view answer⟩ := by
  cases q with
  | writePrivate path text => exact absurd h (by simp [Ask.discreet])
  | _ => rfl

theorem Ask.veiled_of_discreet {q : Ask} (h : q.discreet = true) : q.veiled = q := by
  cases q with
  | writePrivate path text => exact absurd h (by simp [Ask.discreet])
  | _ => rfl

/-! ## Programs -/

namespace Program

variable {α β : Type} {key : Path} {blur : α → α} {blur' : β → β}

/-- Two programs that ask the same, up to the bytes of private files at `key`, as long as they
    are answered the same, up to private keys and to what is hidden of failures. In the end they
    return the same up to a blur. -/
inductive Veiled (view : ServiceError → ServiceError) (key : Path) (blur : α → α) :
    Program α → Program α → Prop
  | done {a a' : α} (h : blur a' = blur a) : Veiled view key blur (.done a) (.done a')
  | ask {q : Ask} {next next' : q.Answer → Program α} (hdiscreet : q.discreet = true)
      (h : ∀ answer answer', q.veil view answer' = q.veil view answer →
        Veiled view key blur (next answer) (next' answer')) :
      Veiled view key blur (.ask q next) (.ask q next')
  | tell {text text' : String} {next next' : Except FileError Unit → Program α}
      (h : ∀ answer, Veiled view key blur (next answer) (next' answer)) :
      Veiled view key blur (.ask (.writePrivate key text) next)
        (.ask (.writePrivate key text') next')

theorem Veiled.bind {p p' : Program α} {f f' : α → Program β} (h : Veiled view key blur p p')
    (hf : ∀ a a', blur a' = blur a → Veiled view key blur' (f a) (f' a')) :
    Veiled view key blur' (p >>= f) (p' >>= f') := by
  induction h with
  | done hsame => exact hf _ _ hsame
  | ask hdiscreet _ ih => exact .ask hdiscreet fun answer answer' hsame => ih answer answer' hsame
  | tell _ ih => exact .tell fun answer => ih answer

/-- Without a certificate issued there is no key to be told. -/
theorem veiled_of_only {p : Program α} (h : Only Ask.keyless p) : Veiled view key blur p p := by
  induction p with
  | done a => exact .done rfl
  | ask q next ih =>
      refine .ask h.1.1 fun answer answer' hsame => ?_
      rw [Ask.veil_of_keyless h.1, Ask.veil_of_keyless h.1] at hsame
      rw [hsame]
      exact ih answer (h.2 answer)

/-- After a question that is answered without a key both programs go on with the answer. -/
theorem veiled_question_bind {q : Ask} (hq : q.keyless) {f f' : q.Answer → Program β}
    (hf : ∀ answer, Veiled view key blur' (f answer) (f' answer)) :
    Veiled view key blur' (question q >>= f) (question q >>= f') := by
  have hquestion : Veiled view key id (question q) (question q) :=
    veiled_of_only (only_question hq)
  refine hquestion.bind fun answer answer' hsame => ?_
  obtain rfl : answer' = answer := hsame
  exact hf answer'

/-- After an attempt that two programs make alike they go on alike, whether it failed or not. -/
theorem Veiled.attempt {ε : Type} {conceal : ε → ε} {p p' : Program (Except ε α)}
    {f f' : Except ε α → Program β} (h : Veiled view key (Except.mapError conceal) p p')
    (hbad : ∀ e e', conceal e' = conceal e →
      Veiled view key blur' (f (.error e)) (f' (.error e')))
    (hgood : ∀ a, Veiled view key blur' (f (.ok a)) (f' (.ok a))) :
    Veiled view key blur' (p >>= f) (p' >>= f') := by
  refine h.bind fun answer answer' hsame => ?_
  rcases answer with e | a <;> rcases answer' with e' | a'
  · exact hbad e e' (Except.error.inj hsame)
  · exact nomatch hsame
  · exact nomatch hsame
  · obtain rfl : a' = a := Except.ok.inj hsame
    exact hgood a'

end Program

/-! ## Worlds -/

/-- The requests that are made by a question: one or none. -/
def Ask.requests : Ask → List Request
  | .service r => [r]
  | _ => []

/-- The requests in a conversation, in order. -/
def requestsIn (talk : List Exchange) : List Request :=
  talk.flatMap fun e => e.1.requests

/-- Each of two services answers as the other does, up to private keys and to what is hidden of
    failures, as long as their states are related. How they are related may depend on the
    requests still to come. -/
def Service.Mirrors {σ σ' : Type} (view : ServiceError → ServiceError) (service : Service σ)
    (service' : Service σ') (rel : List Request → σ → σ' → Prop) : Prop :=
  ∀ r rest s s', rel (r :: rest) s s' →
    r.veil view (service' r s').1 = r.veil view (service r s).1 ∧
      rel rest (service r s).2 (service' r s').2

/-- How far a write has come when it fails: nothing was done, directories were made, the entry
    that was there is gone as well, or the file is open and still empty. -/
inductive Stage where
  | untouched
  | directories (parent : Path)
  | cleared (parent : Path)
  | opened

/-- What a write has done by then. It takes no entry away. -/
def Stage.write (path : Path) : Stage → Workspace → Workspace
  | .untouched, w => w
  | .directories parent, w => (w.prepare parent).2
  | .cleared parent, w => (w.prepare parent).2
  | .opened, w => (w.write path "").2

/-- What the writing of a private file has done by then. -/
def Stage.writePrivate (path : Path) : Stage → Workspace → Workspace
  | .untouched, w => w
  | .directories parent, w => (w.prepare parent).2
  | .cleared parent, w => ((w.prepare parent).2.removeIfPresent path).2
  | .opened, w => (w.writePrivate path "").2

theorem Storage.Workspace.Resembles.stage_write {differ : Location → Prop} {w w' : Workspace}
    (h : w.Resembles differ w') (path : Path) (stage : Stage) :
    (stage.write path w).Resembles differ (stage.write path w') := by
  cases stage with
  | untouched => exact h
  | directories parent => exact (h.prepare parent).2
  | cleared parent => exact (h.prepare parent).2
  | opened => exact (h.write path "").2

theorem Storage.Workspace.Resembles.stage_writePrivate {differ : Location → Prop}
    {w w' : Workspace} (h : w.Resembles differ w') (path : Path) (stage : Stage) :
    (stage.writePrivate path w).Resembles differ (stage.writePrivate path w') := by
  cases stage with
  | untouched => exact h
  | directories parent => exact (h.prepare parent).2
  | cleared parent =>
      have hmade : (w.prepare parent).2.Resembles differ (w'.prepare parent).2 :=
        (h.prepare parent).2
      exact (hmade.removeIfPresent path).2
  | opened =>
      refine (h.writePrivate path "" "").2.mono fun loc hloc => ?_
      exact hloc.elim id fun hother => absurd rfl hother.1

/-- A file call that fails although it might succeed, and how far it has come. -/
structure Lapse where
  error : FileError
  stage : Stage

/-- The answer to a file call that fails, and what it does to the files. -/
def Ask.lapse? : (q : Ask) → Option Lapse → Option (q.Answer × (Workspace → Workspace))
  | .write path _, some lapse => some (.error lapse.error, lapse.stage.write path)
  | .writePrivate path _, some lapse => some (.error lapse.error, lapse.stage.writePrivate path)
  | .remove _, some lapse => some (.error lapse.error, id)
  | _, _ => none

/-- A policy by which file calls fail: it knows what was said up to now and what is asked, but
    no private keys, no bytes of private files and nothing that is hidden. -/
abbrev Lapses :=
  List Exchange → Ask → Option Lapse

/-- A test bench with the conversation, without private keys. -/
abbrev Faltering (σ : Type) :=
  List Exchange × Bench σ

/-- The world of a test bench on which file calls may fail. -/
def Bench.faltering {σ : Type} (view : ServiceError → ServiceError) (service : Service σ)
    (lapses : Lapses) : World (Faltering σ) :=
  fun q s =>
    match q.lapse? (lapses s.1 q.veiled) with
    | some (answer, touch) =>
      (answer, s.1 ++ [veiled view ⟨q, answer⟩], { s.2 with files := touch s.2.files })
    | none =>
      let (answer, b) := Bench.world service q s.2
      (answer, s.1 ++ [veiled view ⟨q, answer⟩], b)

/-- No removal of a path fails once a private file has been written there. -/
def SparesWritten (lapses : Lapses) (key : Path) : Prop :=
  ∀ said, ⟨.writePrivate key "", .ok ()⟩ ∈ said → lapses said (.remove key) = none

/-- Two test benches on which all is the same but for the files and for the states of the
    services, which are related. -/
structure Bench.Alike {σ σ' : Type} (rel : σ → σ' → Prop) (b : Bench σ) (b' : Bench σ') :
    Prop where
  service : rel b.service b'.service
  companions : b'.companions = b.companions
  clock : b'.clock = b.clock
  names : b'.names = b.names

/-- Two states in which the same was said up to private keys. The files may differ in bytes,
    but not before a private file was written. -/
structure Coupled {σ σ' : Type} (rel : σ → σ' → Prop) (key : Path) (s : Faltering σ)
    (s' : Faltering σ') : Prop where
  said : s'.1 = s.1
  bench : s.2.Alike rel s'.2
  files : ∃ differ, s.2.files.Resembles differ s'.2.files
  untouched : ⟨.writePrivate key "", .ok ()⟩ ∉ s.1 →
    s.2.files.Resembles (fun _ => False) s'.2.files

/-- What is done to two workspaces at a question: the same, up to the bytes of private files. A
    removal of the path `key` can only fail for no reason as long as the two are the same. -/
def twofold (key : Path) : Behaviour (Workspace × Workspace)
  | .write path text, s, answer, t =>
    (∃ e stage, answer = .error e ∧ t = (Stage.write path stage s.1, Stage.write path stage s.2)) ∨
      (answer, t.1) = s.1.write path text ∧ (answer, t.2) = s.2.write path text
  | .writePrivate path text, s, answer, t =>
    (∃ e stage, answer = .error e ∧
        t = (Stage.writePrivate path stage s.1, Stage.writePrivate path stage s.2)) ∨
      ∃ text', (answer, t.1) = s.1.writePrivate path text ∧
        (answer, t.2) = s.2.writePrivate path text'
  | .remove path, s, answer, t =>
    (t = s ∧ (path = key → s.1.Resembles (fun _ => False) s.2)) ∨
      (answer, t.1) = s.1.removeIfPresent path ∧ (answer, t.2) = s.2.removeIfPresent path
  | .service _, s, _, t => t = s
  | .read _, s, _, t => t = s
  | .fetch _, s, _, t => t = s
  | .launch _, s, _, t => t = s
  | .pause _, s, _, t => t = s
  | .freshName, s, _, t => t = s

section

variable {σ σ' : Type} {service : Service σ} {service' : Service σ'}
  {rel : List Request → σ → σ' → Prop} {rest : List Request} {lapses : Lapses} {key : Path}

variable (key) in
/-- A discreet question is answered the same on both benches. -/
theorem Bench.Alike.ask {b : Bench σ} {b' : Bench σ'} {q : Ask}
    (h : b.Alike (rel (q.requests ++ rest)) b') (hmirror : service.Mirrors view service' rel)
    {differ : Location → Prop} (hfiles : b.files.Resembles differ b'.files)
    (hdiscreet : q.discreet = true) :
    let done := Bench.world service q b
    let done' := Bench.world service' q b'
    q.veil view done'.1 = q.veil view done.1 ∧ done.2.Alike (rel rest) done'.2 ∧
      done.2.files.Resembles differ done'.2.files ∧
      twofold key q (b.files, b'.files) done.1 (done.2.files, done'.2.files) := by
  rcases h with ⟨hservice, hcompanions, hclock, hnames⟩
  cases q with
  | service r =>
      rcases hmirror r rest b.service b'.service hservice with ⟨hanswer, hnext⟩
      exact ⟨hanswer, ⟨hnext, hcompanions, hclock, hnames⟩, hfiles, rfl⟩
  | write path text =>
      rcases hfiles.write path text with ⟨hanswer, hafter⟩
      refine ⟨hanswer, ⟨hservice, hcompanions, hclock, hnames⟩, hafter, Or.inr ⟨rfl, ?_⟩⟩
      exact Prod.ext hanswer.symm rfl
  | remove path =>
      rcases hfiles.removeIfPresent path with ⟨hanswer, hafter⟩
      refine ⟨hanswer, ⟨hservice, hcompanions, hclock, hnames⟩, hafter, Or.inr ⟨rfl, ?_⟩⟩
      exact Prod.ext hanswer.symm rfl
  | launch invocation =>
      have hsame : Rehearsal.launcher invocation b'.companions
          = Rehearsal.launcher invocation b.companions := by rw [hcompanions]
      exact ⟨congrArg Prod.fst hsame, ⟨hservice, congrArg Prod.snd hsame, hclock, hnames⟩, hfiles,
        rfl⟩
  | pause policy =>
      exact ⟨rfl, ⟨hservice, hcompanions, congrArg (Clock.pause · policy) hclock, hnames⟩, hfiles,
        rfl⟩
  | freshName =>
      rcases hlist : b.names with _ | ⟨name, rest⟩ <;>
        simp only [Bench.world, hnames.trans hlist, hlist, Ask.veil, twofold, true_and, and_true]
      · exact ⟨⟨hservice, hcompanions, hclock, hnames⟩, hfiles⟩
      · exact ⟨⟨hservice, hcompanions, hclock, rfl⟩, hfiles⟩
  | read path => exact absurd hdiscreet (by simp [Ask.discreet])
  | fetch path => exact absurd hdiscreet (by simp [Ask.discreet])
  | writePrivate path text => exact absurd hdiscreet (by simp [Ask.discreet])

variable {s : Faltering σ} {s' : Faltering σ'}

/-- What a call that fails has done is the same on both benches. -/
theorem Ask.lapse_resembles {q : Ask} {lapse : Option Lapse} {answer : q.Answer}
    {touch : Workspace → Workspace} (h : q.lapse? lapse = some (answer, touch))
    {differ : Location → Prop} {w w' : Workspace} (hw : w.Resembles differ w') :
    (touch w).Resembles differ (touch w') := by
  rcases lapse with _ | ⟨e, stage⟩
  · cases q <;> exact absurd h (by simp [Ask.lapse?])
  cases q with
  | write path text =>
      obtain rfl := congrArg Prod.snd (Option.some.inj h)
      exact hw.stage_write path stage
  | writePrivate path text =>
      obtain rfl := congrArg Prod.snd (Option.some.inj h)
      exact hw.stage_writePrivate path stage
  | remove path =>
      obtain rfl := congrArg Prod.snd (Option.some.inj h)
      exact hw
  | _ => exact absurd h (by simp [Ask.lapse?])

/-- A discreet question is answered the same in both runs, also where it may fail. -/
theorem Coupled.ask {q : Ask} (h : Coupled (rel (q.requests ++ rest)) key s s')
    (hmirror : service.Mirrors view service' rel) (hspares : SparesWritten lapses key)
    (hdiscreet : q.discreet = true) :
    let done := Bench.faltering view service lapses q s
    let done' := Bench.faltering view service' lapses q s'
    q.veil view done'.1 = q.veil view done.1 ∧ Coupled (rel rest) key done.2 done'.2 ∧
      twofold key q (s.2.files, s'.2.files) done.1 (done.2.2.files, done'.2.2.files) := by
  rcases s with ⟨said, b⟩
  rcases s' with ⟨said', b'⟩
  rcases h with ⟨hsaid, hbench, ⟨differ, hfiles⟩, huntouched⟩
  obtain rfl : said' = said := hsaid
  have hbefore : ∀ {x : Exchange}, ⟨.writePrivate key "", .ok ()⟩ ∉ said' ++ [x] →
      b.files.Resembles (fun _ => False) b'.files :=
    fun hnot => huntouched fun hmem => hnot (List.mem_append_left _ hmem)
  simp only [Bench.faltering, Ask.veiled_of_discreet hdiscreet]
  rcases hlapse : q.lapse? (lapses said' q) with _ | ⟨answer, touch⟩
  · have hasked := hbench.ask key hmirror hfiles hdiscreet
    refine ⟨hasked.1, ⟨?_, hasked.2.1, ⟨differ, hasked.2.2.1⟩, fun hnot => ?_⟩, hasked.2.2.2⟩
    · simp only [veiled_of_discreet hdiscreet, hasked.1]
    · exact (hbench.ask key hmirror (hbefore hnot) hdiscreet).2.2.1
  · -- No request fails in this way.
    have hrequests : q.requests = [] := by
      cases q with
      | service r => exact absurd hlapse (by simp [Ask.lapse?])
      | _ => rfl
    rw [hrequests] at hbench
    refine ⟨rfl, ⟨rfl, ⟨hbench.1, hbench.2, hbench.3, hbench.4⟩,
      ⟨differ, q.lapse_resembles hlapse hfiles⟩,
      fun hnot => q.lapse_resembles hlapse (hbefore hnot)⟩, ?_⟩
    rcases hpolicy : lapses said' q with _ | ⟨e, stage⟩
    · rw [hpolicy] at hlapse
      cases q <;> exact absurd hlapse (by simp [Ask.lapse?])
    rw [hpolicy] at hlapse
    cases q with
    | write path text =>
        rcases Prod.mk.inj (Option.some.inj hlapse) with ⟨rfl, rfl⟩
        exact Or.inl ⟨e, stage, rfl, rfl⟩
    | remove path =>
        rcases Prod.mk.inj (Option.some.inj hlapse) with ⟨rfl, rfl⟩
        -- What fails is no removal of a key that was written.
        refine Or.inl ⟨rfl, fun hpath => huntouched fun hwritten => ?_⟩
        rw [hpath, hspares said' hwritten] at hpolicy
        exact absurd hpolicy (by simp)
    | writePrivate path text => exact absurd hdiscreet (by simp [Ask.discreet])
    | _ => exact absurd hlapse (by simp [Ask.lapse?])

variable (view service service' lapses) in
/-- A private file is written in both runs, with a text in each. -/
theorem Coupled.tell (h : Coupled (rel rest) key s s') (text text' : String) :
    let done := Bench.faltering view service lapses (.writePrivate key text) s
    let done' := Bench.faltering view service' lapses (.writePrivate key text') s'
    done'.1 = done.1 ∧ Coupled (rel rest) key done.2 done'.2 ∧
      twofold key (.writePrivate key text) (s.2.files, s'.2.files) done.1
        (done.2.2.files, done'.2.2.files) := by
  rcases s with ⟨said, b⟩
  rcases s' with ⟨said', b'⟩
  rcases h with ⟨hsaid, hbench, ⟨differ, hfiles⟩, huntouched⟩
  obtain rfl : said' = said := hsaid
  rcases hpolicy : lapses said' (.writePrivate key "") with _ | ⟨e, stage⟩ <;>
    simp only [Bench.faltering, Ask.veiled, hpolicy, Ask.lapse?]
  · rcases hfiles.writePrivate key text text' with ⟨hanswer, hafter⟩
    refine ⟨hanswer, ⟨?_, ⟨hbench.1, hbench.2, hbench.3, hbench.4⟩, ⟨_, hafter⟩, ?_⟩, ?_⟩
    · simp only [veiled, Bench.world, hanswer]
    · -- As long as none was written, this one was not, and the same was done.
      intro hnot
      rw [List.mem_append, not_or] at hnot
      refine ((huntouched hnot.1).writePrivate key text text').2.mono ?_
      rintro loc (hdiffer | ⟨-, hok, -⟩)
      · exact hdiffer
      · refine hnot.2 (List.mem_singleton.mpr ?_)
        simp only [veiled, Bench.world, hok]
    · exact Or.inr ⟨text', rfl, Prod.ext hanswer.symm rfl⟩
  · refine ⟨trivial, ⟨rfl, ⟨hbench.1, hbench.2, hbench.3, hbench.4⟩,
      ⟨differ, hfiles.stage_writePrivate key stage⟩, fun hnot => ?_⟩, Or.inl ⟨e, stage, rfl, rfl⟩⟩
    have hsame := huntouched fun hmem => hnot (List.mem_append_left _ hmem)
    exact hsame.stage_writePrivate key stage

/-- Two runs of which it can only be seen that they differ in private keys: they have the same
    result up to a blur and the same conversation up to private keys, they end in coupled states,
    and what is ensured of two workspaces is so of theirs, with the moments of the first run. -/
theorem veiled_run {α : Type} {blur : α → α} (hmirror : service.Mirrors view service' rel)
    (hspares : SparesWritten lapses key) {p p' : Program α} (hp : Veiled view key blur p p')
    (h : Coupled (rel (requestsIn
      ((moments (Bench.faltering view service lapses) p s).map Moment.exchange))) key s s')
    {film : List (Moment (Workspace × Workspace))}
    {post : α → List (Moment (Workspace × Workspace)) × (Workspace × Workspace) → Prop}
    (hpost : Ensures (filmed (twofold key)) p (film, s.2.files, s'.2.files) post) :
    let w := Bench.faltering view service lapses
    let w' := Bench.faltering view service' lapses
    blur (p'.run w' s').1 = blur (p.run w s).1 ∧
      (moments w' p' s').map (veiled view ∘ Moment.exchange)
        = (moments w p s).map (veiled view ∘ Moment.exchange) ∧
      Coupled (rel []) key (p.run w s).2 (p'.run w' s').2 ∧
      ∃ reel, reel.map (Moment.seen Prod.fst)
          = (moments w p s).map (Moment.seen fun t => t.2.files) ∧
        post (p.run w s).1 (film ++ reel, (p.run w s).2.2.files, (p'.run w' s').2.2.files) := by
  -- Along the questions, which are the same in both runs.
  induction hp generalizing s s' film with
  | done hsame =>
      refine ⟨hsame, rfl, h, [], rfl, ?_⟩
      rw [List.append_nil]
      exact hpost
  | @ask q next next' hdiscreet _ ih =>
      rcases h.ask hmirror hspares hdiscreet with ⟨hanswer, hcoupled, hfiles⟩
      let m : Moment (Workspace × Workspace) :=
        ⟨(s.2.files, s'.2.files), q, (Bench.faltering view service lapses q s).1⟩
      rcases ih _ _ hanswer hcoupled (hpost _ (film ++ [m], _) ⟨rfl, hfiles⟩) with
        ⟨hresult, htalk, hends, reel, hreel, hleft⟩
      refine ⟨hresult, ?_, hends, m :: reel, congrArg (Moment.seen Prod.fst m :: ·) hreel, ?_⟩
      · simp only [moments, List.map_cons, Function.comp_apply, veiled_of_discreet hdiscreet,
          hanswer]
        exact congrArg _ htalk
      · rw [List.append_cons]
        exact hleft
  | @tell text text' next next' _ ih =>
      rcases h.tell view service service' lapses text text' with ⟨hanswer, hcoupled, hfiles⟩
      let m : Moment (Workspace × Workspace) :=
        ⟨(s.2.files, s'.2.files), .writePrivate key text,
          (Bench.faltering view service lapses (.writePrivate key text) s).1⟩
      rcases ih _ hcoupled (hpost _ (film ++ [m], _) ⟨rfl, hfiles⟩) with
        ⟨hresult, htalk, hends, reel, hreel, hleft⟩
      refine ⟨?_, ?_, ?_, m :: reel, congrArg (Moment.seen Prod.fst m :: ·) hreel, ?_⟩
      · simp only [run, hanswer]
        exact hresult
      · simp only [moments, List.map_cons, Function.comp_apply, veiled, hanswer]
        exact congrArg _ htalk
      · simp only [run, hanswer]
        exact hends
      · simp only [run, hanswer]
        rw [List.append_cons]
        exact hleft

end

end Qualifier
