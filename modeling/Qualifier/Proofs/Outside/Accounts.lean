import Qualifier.Proofs.Identity.Credentials
import Qualifier.Proofs.Outside.Moments
import Qualifier.Proofs.Storage.Clearing

/-!
# Accounting for Files

Where the files of a workspace come from, when a program has written some and removed
others. The calls to the system succeed or do nothing, but a write consists of several of
them and may end after any: with directories made, with an old entry gone, with a file that
is opened and still empty.

The run is filmed, and each file is accounted for by something in the film. It was there at
the start; it was written for others to read; it was to be private and could not be filled;
or it is a private file that was stranded when it was written. A private file that fits none
of these is at a place that its path still leads to, and as long as that path is `pending`, its
removal will find the file (`Tidy`). As long as the pending paths are `Steady` other files may
be written. `Loose` is the state in which they can be removed one after the other, whatever
they have to do with each other, and `ensures_removeAll_loose` is that they are.

## Main definitions

* `Workspace.stepwise`: What a workspace does if no single call is half done.
* `Footage`: The moments of a run up to now, and the workspace.
* `Accounted`: Where a file can have come from.
* `Tidy`, `Steady`, `Loose`: All files are accounted for but those at pending paths.
* `Aside`, `Unchanged`: Questions that are not about files.

## Theorems

* `admits_stepwise`: The workspace of a test bench behaves so.
* `unchanged_of_only`: What is asked aside changes nothing.
* `wrote_of_stepwise`, `Tidy.wrote`, `Tidy.wrotePrivately`: Writes leave accounts in order.
* `Loose.ensures_remove`, `ensures_removeAll_loose`: Pending paths are removed one after the other.
-/

namespace Qualifier

open Program Storage

namespace Storage

/-- What a workspace does if each call to the system succeeds or does nothing. A write that
    fails may have made directories, and it may have opened the file and left it empty; a
    private one may also have taken away what was there. -/
def Workspace.stepwise : Behaviour Workspace
  | .write path text, w, answer, w' =>
    (answer, w') = w.write path text ∨
      (∃ e, answer = .error e) ∧ (w.Widened w' ∨ w' = (w.write path "").2)
  | .writePrivate path text, w, answer, w' =>
    (answer, w') = w.writePrivate path text ∨
      (∃ e, answer = .error e) ∧ (w.Widened w' ∨
        (∃ made, w.Widened made ∧ w' = (made.removeIfPresent path).2) ∨
        w' = (w.writePrivate path "").2)
  | .remove path, w, answer, w' => (answer, w') = w.removeIfPresent path
  | .service _, w, _, w' => w' = w
  | .read _, w, _, w' => w' = w
  | .fetch _, w, _, w' => w' = w
  | .launch _, w, _, w' => w' = w
  | .pause _, w, _, w' => w' = w
  | .freshName, w, _, w' => w' = w

theorem admits_stepwise {σ : Type} (service : Service σ) :
    World.Admits (Bench.world service) Bench.files Workspace.stepwise := by
  intro q b
  cases q with
  | freshName => cases hnames : b.names <;> simp [Bench.world, hnames, Workspace.stepwise]
  | write path text => exact Or.inl rfl
  | writePrivate path text => exact Or.inl rfl
  | _ => rfl

section

variable {w w' : Workspace} {path : Path} {text : String}

theorem wrote_of_stepwise {answer : Except FileError Unit}
    (h : Workspace.stepwise (.write path text) w answer w') : w.Wrote path text answer w' := by
  rcases h with hdone | ⟨⟨e, rfl⟩, hwidened | rfl⟩
  · rcases Prod.mk.inj hdone with ⟨rfl, rfl⟩
    exact Workspace.wrote_write w path text
  · exact hwidened.wrote path text e
  · exact Workspace.wrote_opened w path text e

theorem wrotePrivately_of_stepwise
    (h : Workspace.stepwise (.writePrivate path text) w (.ok ()) w') :
    w.WrotePrivately path text w' := by
  rcases h with hdone | ⟨⟨e, hanswer⟩, -⟩
  · rcases Prod.mk.inj hdone with ⟨hanswer, rfl⟩
    exact Workspace.wrotePrivately_writePrivate hanswer.symm
  · exact absurd hanswer (by simp)

theorem failedPrivately_of_stepwise {e : FileError}
    (h : Workspace.stepwise (.writePrivate path text) w (.error e) w') :
    w.FailedPrivately w' := by
  rcases h with hdone | ⟨-, hwidened | ⟨made, hwidened, rfl⟩ | rfl⟩
  · rcases Prod.mk.inj hdone with ⟨hanswer, rfl⟩
    exact (Workspace.widened_writePrivate hanswer.symm).failedPrivately
  · exact hwidened.failedPrivately
  · exact hwidened.failedPrivately_removed path
  · exact Workspace.failedPrivately_opened w path

end

end Storage

/-- A run up to now: its moments, and the workspace it has come to. -/
abbrev Footage :=
  List (Moment Workspace) × Workspace

/-- Where a file can have come from, in a run that began with the first of these workspaces:
    it was there; it was written for others to read, and is empty if that failed; it was to be
    private, and is empty since that failed; or it was stranded when it was written. -/
inductive Accounted (first : Workspace) (film : List (Moment Workspace)) (loc : Location)
    (content : ByteArray) (mode : Nat) : Prop
  | kept (h : first.tree.get? loc = some (.file content mode))
  | published {m : Moment Workspace} {path : Path} {text : String} {answer : Except FileError Unit}
      (hfilmed : m ∈ film) (hasked : m.exchange = ⟨.write path text, answer⟩)
      (hcontent : content = inscribed text answer)
  | unfilled {m : Moment Workspace} {path : Path} {text : String} {e : FileError}
      (hfilmed : m ∈ film) (hasked : m.exchange = ⟨.writePrivate path text, .error e⟩)
      (hcontent : content = "".toUTF8)
  | stranded {m : Moment Workspace} {path : Path} {text : String} (hfilmed : m ∈ film)
      (hasked : m.exchange = ⟨.writePrivate path text, .ok ()⟩)
      (hstrands : m.state.Strands path text loc) (hcontent : content = text.toUTF8)

theorem Accounted.later {first : Workspace} {film film' : List (Moment Workspace)}
    {loc : Location} {content : ByteArray} {mode : Nat} (h : Accounted first film loc content mode)
    (hfilm : film ⊆ film') : Accounted first film' loc content mode := by
  cases h with
  | kept h => exact .kept h
  | published hfilmed hasked hcontent => exact .published (hfilm hfilmed) hasked hcontent
  | unfilled hfilmed hasked hcontent => exact .unfilled (hfilm hfilmed) hasked hcontent
  | stranded hfilmed hasked hstrands hcontent =>
      exact .stranded (hfilm hfilmed) hasked hstrands hcontent

/-- What was filmed before still counts. -/
theorem Accounted.concat {first : Workspace} {film : List (Moment Workspace)} {loc : Location}
    {content : ByteArray} {mode : Nat} (h : Accounted first film loc content mode)
    (m : Moment Workspace) : Accounted first (film ++ [m]) loc content mode :=
  h.later (List.subset_append_left _ _)

/-- Every file is accounted for, or is at the place of a path that is still pending. -/
def Tidy (first : Workspace) (pending : List Path) (t : Footage) : Prop :=
  ∀ loc content mode, t.2.tree.get? loc = some (.file content mode) →
    Accounted first t.1 loc content mode ∨ ∃ path ∈ pending, t.2.place? path = some loc

/-- The pending paths can be removed, and then every file is accounted for. -/
structure Loose (first : Workspace) (pending : List Path) (t : Footage) : Prop where
  tidy : Tidy first pending t
  harmless : ∀ path ∈ pending, t.2.Harmless path

/-- The pending paths can be removed, and whatever is written they still can. -/
structure Steady (first : Workspace) (pending : List Path) (t : Footage) : Prop where
  tidy : Tidy first pending t
  firm : ∀ path ∈ pending, t.2.Firm path

/-- The paths written up to now. -/
def Footage.written (t : Footage) : List Path :=
  writtenIn (t.1.map Moment.exchange)

theorem Footage.written_concat (t : Footage) (m : Moment Workspace) (w' : Workspace) :
    Footage.written (t.1 ++ [m], w') = t.written ++ (written? m.exchange).toList := by
  rw [Footage.written, List.map_append, List.map_singleton, writtenIn_concat]
  rfl

/-! ## What is asked aside -/

/-- The questions that change no file. -/
def Aside : Ask → Prop
  | .write _ _ => False
  | .writePrivate _ _ => False
  | .remove _ => False
  | _ => True

/-- The film has gone on, and nothing has happened to the files. -/
structure Unchanged (t t' : Footage) : Prop where
  files : t'.2 = t.2
  film : t.1 ⊆ t'.1
  written : t'.written = t.written

variable {first : Workspace} {pending : List Path} {path : Path} {text : String} {t t' : Footage}

theorem unchanged_of_only {α : Type} {p : Program α} (hp : Only Aside p) (t : Footage) :
    Ensures (filmed Workspace.stepwise) p t fun _ t' => Unchanged t t' := by
  refine ensures_of_only ?_ hp ⟨rfl, List.Subset.refl _, rfl⟩
  rintro q hq u ⟨hfiles, hfilm, hwritten⟩ answer ⟨film, w⟩ ⟨rfl, hstep⟩
  -- Whatever is asked aside is no write, and the workspace takes no part in it.
  have haside : w = u.2 ∧ written? ⟨q, answer⟩ = none := by
    cases q with
    | write path text => exact hq.elim
    | writePrivate path text => exact hq.elim
    | remove path => exact hq.elim
    | _ => exact ⟨hstep, rfl⟩
  refine ⟨haside.1.trans hfiles, List.Subset.trans hfilm (List.subset_append_left _ _), ?_⟩
  rw [Footage.written_concat, haside.2]
  exact (List.append_nil _).trans hwritten

theorem unchanged_request (r : Request) (t : Footage) :
    Ensures (filmed Workspace.stepwise) (request r) t fun _ t' => Unchanged t t' :=
  unchanged_of_only (only_question (show Aside (.service r) from trivial)) t

theorem Tidy.unchanged (h : Tidy first pending t) (hsame : Unchanged t t') :
    Tidy first pending t' := by
  intro loc content mode hfile
  rw [hsame.files] at hfile ⊢
  exact (h loc content mode hfile).imp_left fun haccounted => haccounted.later hsame.film

theorem Loose.unchanged (h : Loose first pending t) (hsame : Unchanged t t') :
    Loose first pending t' :=
  ⟨h.tidy.unchanged hsame, fun path hpath => hsame.files ▸ h.harmless path hpath⟩

theorem Steady.unchanged (h : Steady first pending t) (hsame : Unchanged t t') :
    Steady first pending t' :=
  ⟨h.tidy.unchanged hsame, fun path hpath => hsame.files ▸ h.firm path hpath⟩

theorem Steady.loose (h : Steady first pending t) : Loose first pending t :=
  ⟨h.tidy, fun path hpath => (h.firm path hpath).harmless⟩

/-! ## Writing -/

/-- At the start of a run nothing is pending. -/
theorem tidy_start (w : Workspace) : Tidy w [] ([], w) :=
  fun _ _ _ hfile => Or.inl (.kept hfile)

theorem Tidy.accounted (h : Tidy first [] t) {loc : Location} {content : ByteArray} {mode : Nat}
    (hfile : t.2.tree.get? loc = some (.file content mode)) :
    Accounted first t.1 loc content mode := by
  rcases h loc content mode hfile with haccounted | ⟨path, hpath, -⟩
  · exact haccounted
  · exact absurd hpath List.not_mem_nil

/-- More paths may be pending. -/
theorem Tidy.mono {more : List Path} (h : Tidy first pending t) (hsub : pending ⊆ more) :
    Tidy first more t := fun loc content mode hfile =>
  (h loc content mode hfile).imp_right fun ⟨path, hpath, hplace⟩ => ⟨path, hsub hpath, hplace⟩

/-- A file for others to read is accounted for, and pending paths lead where they led. -/
theorem Tidy.wrote (h : Tidy first pending t) {answer : Except FileError Unit} {w' : Workspace}
    (hwrote : t.2.Wrote path text answer w') :
    Tidy first pending (t.1 ++ [⟨t.2, .write path text, answer⟩], w') := by
  intro loc content mode hfile
  rcases hwrote.files loc content mode hfile with hbefore | hcontent
  · rcases h loc content mode hbefore with haccounted | ⟨other, hother, hplace⟩
    · exact Or.inl (haccounted.concat _)
    · exact Or.inr ⟨other, hother,
        Workspace.place?_of_thinner hwrote.workingDirectory hwrote.thinner hplace⟩
  · exact Or.inl (.published (List.mem_append_right _ List.mem_cons_self) rfl hcontent)

/-- A private file makes its path a pending one. -/
theorem Tidy.wrotePrivately (h : Tidy first [] t) {w' : Workspace}
    (hwrote : t.2.WrotePrivately path text w') :
    Tidy first [path] (t.1 ++ [⟨t.2, .writePrivate path text, .ok ()⟩], w') := by
  intro loc content mode hfile
  rcases hwrote.files loc content mode hfile with hbefore | ⟨hcontent, hplace | hstrands⟩
  · exact Or.inl ((h.accounted hbefore).concat _)
  · exact Or.inr ⟨path, List.mem_cons_self, hplace⟩
  · exact Or.inl (.stranded (List.mem_append_right _ List.mem_cons_self) rfl hstrands hcontent)

/-- A private file that could not be written makes none. -/
theorem Tidy.failedPrivately (h : Tidy first [] t) {e : FileError} {w' : Workspace}
    (hfailed : t.2.FailedPrivately w') :
    Tidy first [] (t.1 ++ [⟨t.2, .writePrivate path text, .error e⟩], w') := by
  intro loc content mode hfile
  rcases hfailed.files loc content mode hfile with hbefore | hcontent
  · exact Or.inl ((h.accounted hbefore).concat _)
  · exact Or.inl (.unfilled (List.mem_append_right _ List.mem_cons_self) rfl hcontent)

/-- What is steady stays so. -/
theorem Steady.wrote (h : Steady first pending t) {answer : Except FileError Unit}
    {w' : Workspace} (hwrote : t.2.Wrote path text answer w') :
    Steady first pending (t.1 ++ [⟨t.2, .write path text, answer⟩], w') where
  tidy := h.tidy.wrote hwrote
  firm := fun other hother =>
    (h.firm other hother).of_overlays hwrote.workingDirectory hwrote.overlays

/-! ## Removing -/

/-- Removing one of the pending paths leaves the others: they lead where they led, and what is
    at their places is still there. -/
theorem Loose.ensures_remove (h : Loose first (path :: pending) t) :
    Ensures (filmed Workspace.stepwise) (question (.remove path)) t fun _ (t' : Footage) =>
      Loose first pending t' ∧ t.2.Shrinks t'.2 ∧ t'.2.found? path = none ∧
        t'.written = t.written := by
  rintro answer ⟨film, w⟩ ⟨rfl, hstep⟩
  obtain ⟨-, rfl⟩ := Prod.mk.inj (show (answer, w) = t.2.removeIfPresent path from hstep)
  have hharmless := h.harmless path List.mem_cons_self
  have hshrinks := Workspace.shrinks_removeIfPresent t.2 path
  refine ⟨⟨fun loc content mode hfile => ?_, fun other hother => ?_⟩, hshrinks,
    Workspace.found?_removeIfPresent hharmless.clearable, ?_⟩
  · have hget := Workspace.get?_removeIfPresent hharmless.clearable loc
    rcases h.tidy loc content mode (hshrinks.tree _ _ hfile) with
      haccounted | ⟨other, hother, hplace⟩
    · exact Or.inl (haccounted.concat _)
    -- A file at the place of the path that was removed would have gone with it.
    rcases List.mem_cons.mp hother with rfl | hother
    · rw [if_pos hplace] at hget
      exact absurd (hget.symm.trans hfile) (by simp)
    · exact Or.inr ⟨other, hother, hharmless.place?_removeIfPresent hplace⟩
  · exact (h.harmless other (List.mem_cons_of_mem _ hother)).of_shrinks hshrinks
  · rw [Footage.written_concat]
    exact List.append_nil _

/-- The paths are cleared: none of them has an entry, and all files are accounted for. -/
structure Cleared (first : Workspace) (paths : List Path) (t : Footage) : Prop where
  tidy : Tidy first [] t
  gone : ∀ path ∈ paths, t.2.found? path = none

theorem Cleared.unchanged {paths : List Path} (h : Cleared first paths t)
    (hsame : Unchanged t t') : Cleared first paths t' :=
  ⟨h.tidy.unchanged hsame, fun path hpath => hsame.files ▸ h.gone path hpath⟩

/-- The pending paths are removed one after the other. -/
theorem ensures_removeAll_loose (h : Loose first pending t) :
    Ensures (filmed Workspace.stepwise) (removeAll pending) t fun _ (t' : Footage) =>
      Cleared first pending t' ∧ t.2.Shrinks t'.2 ∧ t'.written = t.written := by
  induction pending generalizing t with
  | nil => exact ⟨⟨h.tidy, by simp⟩, Workspace.Shrinks.refl _, rfl⟩
  | cons path rest ih =>
      refine h.ensures_remove.bind ?_
      rintro _ u ⟨hloose, hshrinks, hgone, hwritten⟩
      refine (ih hloose).mono ?_
      rintro _ v ⟨hcleared, hmore, hwritten'⟩
      refine ⟨⟨hcleared.tidy, fun other hother => ?_⟩, hshrinks.trans hmore,
        hwritten'.trans hwritten⟩
      rcases List.mem_cons.mp hother with rfl | hother
      · exact hmore.found?_eq_none hgone
      · exact hcleared.gone other hother

end Qualifier
