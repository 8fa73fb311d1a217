import Qualifier.Proofs.Identity.Leftovers
import Qualifier.Proofs.Outside.Veiled
import Qualifier.Proofs.Storage.Replacing

/-!
# The Private Key in a Setup

A setup is told a private key once, and tells it once, when it writes the file at the key path.
All else that it does with the certificate it would do with any key, so two setups are veiled
(`veiled_provision`), and what is left to be compared are the workspaces.

These are the same until the key is written. From then on they are `Apart`: the same but for
the bytes of the file that the key path leads to. It leads there whatever other files are
written (`Lasting`) and whatever is removed on the way to its own removal (`Fleeting`), so
once it is removed the workspaces are the same again, and a setup that fails has removed it.
The one key that is not removed is one that its path does not lead to any more as soon as it is
written. It has gone `Astray`, and where it is the workspaces are left to differ.

## Main definitions

* `ProvisionError.viewed`: The failure of a setup as a view shows it.
* `Astray`: Where a key was written that its path does not lead to.
* `Same`, `Apart`: Workspaces that differ in nothing else, or in the key.
* `Lasting`, `Fleeting`: Apart, with paths that can be removed in the end or right now.
* `Credentialed`: An identity with credentials that last.
* `Reverting`: A setback after which the key is gone.

## Theorems

* `veiled_provision`: A setup does with one key what it does with another.
* `Lasting.write`, `Same.tell`, `Fleeting.remove`: What file calls do to two workspaces.
* `ensures_removeAll_apart`: After a removal of the key the two are the same.
* `provision_apart`: A setup leaves two workspaces apart, or the same if it fails.
-/

namespace Qualifier

open Program Storage

variable {key : Path} {view : ServiceError → ServiceError}

/-! ## Programs -/

/-- The failure of a setup, with a view of it if no certificate could be issued. -/
def ProvisionError.viewed (view : ServiceError → ServiceError) : ProvisionError → ProvisionError
  | .service .createCertificate thing cause => .service .createCertificate thing (view cause)
  | e => e

/-- A setback with the failure as a view shows it. -/
def Setback.viewed (view : ServiceError → ServiceError) (setback : Setback) : Setback :=
  { setback with error := setback.error.viewed view }

theorem keyless_of_tearsDown {name : String} {about : String → Prop} {q : Ask}
    (h : TearsDown name about q) : q.keyless := by
  cases q with
  | service r =>
      refine ⟨rfl, fun hr => ?_⟩
      rw [hr] at h
      exact h
  | _ => exact h.elim

theorem keyless_deprovision (thing : String) : Only Ask.keyless (deprovision thing) :=
  (only_deprovision thing).mono fun _ => keyless_of_tearsDown

theorem keyless_removeAll (paths : List Path) : Only Ask.keyless (removeAll paths) := by
  induction paths with
  | nil => trivial
  | cons path rest ih => exact only_question_bind ⟨rfl, by simp⟩ fun _ => ih

theorem keyless_rollback (thing : String) (setback : Setback) :
    Only Ask.keyless (rollback thing setback) := by
  have hclear : Only Ask.keyless
      (do removeAll setback.written; let _ ← deprovision thing; pure ()) :=
    (keyless_removeAll _).bind fun _ => (keyless_deprovision thing).bind fun _ => trivial
  unfold rollback
  rcases setback.certificate with _ | id
  · exact hclear
  · have hretire : Only (TearsDown thing fun _ => True) (retire thing id) :=
      only_retire thing trivial
    exact (hretire.mono fun _ => keyless_of_tearsDown).bind fun _ => hclear

/-- Two certificates that differ in their keys are attached in the same way. -/
theorem veiled_attach (spec : Specification) (thing : Thing)
    (arn id pem privateKey other : String) :
    Veiled view key (Except.mapError (Setback.viewed view))
      (attach spec thing ⟨arn, id, pem, privateKey⟩) (attach spec thing ⟨arn, id, pem, other⟩) := by
  refine veiled_question_bind ⟨rfl, by simp⟩ fun policy => ?_
  cases policy with
  | error cause => exact .done rfl
  | ok _ =>
      refine veiled_question_bind ⟨rfl, by simp⟩ fun principal => ?_
      cases principal with
      | error cause => exact .done rfl
      | ok _ => exact .done rfl

/-- They are delivered in the same way, too, but for what is written to the key path. -/
theorem veiled_deliver (spec : Specification) (thing : Thing)
    {certificate certificate' : Certificate} (h : certificate'.veiled = certificate.veiled) :
    Veiled view spec.keyPath (Except.mapError (Setback.viewed view))
      (deliver spec thing certificate) (deliver spec thing certificate') := by
  rcases certificate with ⟨arn, id, pem, privateKey⟩
  rcases certificate' with ⟨arn', id', pem', other⟩
  simp only [Certificate.veiled, Certificate.mk.injEq, and_true] at h
  rcases h with ⟨rfl, rfl, rfl⟩
  refine veiled_question_bind ⟨rfl, by simp⟩ fun written => ?_
  cases written with
  | error cause => exact .done rfl
  | ok _ =>
      -- The one place where a key is told.
      refine .tell fun told => ?_
      cases told with
      | error cause => exact .done rfl
      | ok _ => exact veiled_attach spec thing arn' id' pem' privateKey other

/-- If there is no certificate, the failure is returned, and nothing is done about it. -/
theorem veiled_certify (spec : Specification) (thing : Thing) :
    Veiled view spec.keyPath (Except.mapError (Setback.viewed view)) (certify spec thing)
      (certify spec thing) := by
  refine .ask rfl fun answer answer' hsame => ?_
  rcases answer with cause | certificate <;> rcases answer' with cause' | certificate'
  · have hviewed : view cause' = view cause := Except.error.inj hsame
    refine .done (congrArg Except.error ?_)
    simp only [Setback.viewed, ProvisionError.viewed, hviewed]
  · exact nomatch hsame
  · exact nomatch hsame
  · exact veiled_deliver spec thing (Except.ok.inj hsame)

theorem veiled_complete (spec : Specification) (thing : Thing) :
    Veiled view spec.keyPath (Except.mapError (Setback.viewed view)) (complete spec thing)
      (complete spec thing) := by
  unfold complete
  cases spec.group with
  | none => exact veiled_certify spec thing
  | some group =>
      refine veiled_question_bind ⟨rfl, by simp⟩ fun grouped => ?_
      split
      · exact .done rfl
      · exact veiled_certify spec thing

/-- A setup does with one key what it does with another. -/
theorem veiled_provision (spec : Specification) :
    Veiled view spec.keyPath (Except.mapError (ProvisionError.viewed view)) (provision spec)
      (provision spec) := by
  refine veiled_question_bind ⟨rfl, by simp⟩ fun registered => ?_
  rcases registered with cause | thing
  · exact .done rfl
  refine (veiled_complete spec thing).attempt ?_ fun identity => .done rfl
  rintro ⟨error, certificate, written⟩ ⟨error', certificate', written'⟩ hsame
  simp only [Setback.viewed, Setback.mk.injEq] at hsame
  rcases hsame with ⟨hviewed, rfl, rfl⟩
  -- What is rolled back has nothing to do with the failure.
  have hrollback : Veiled view spec.keyPath id
      (rollback spec.thing ⟨error, certificate', written'⟩)
      (rollback spec.thing ⟨error', certificate', written'⟩) :=
    veiled_of_only (keyless_rollback spec.thing ⟨error, certificate', written'⟩)
  exact hrollback.bind fun _ _ _ => .done (congrArg Except.error hviewed)

/-! ## Two workspaces -/

/-- Two workspaces, with the moments of the calls that led to them. -/
abbrev Reel :=
  List (Moment (Workspace × Workspace)) × (Workspace × Workspace)

/-- The moments in the first of the two. -/
def Reel.first (t : Reel) : List (Moment Workspace) :=
  t.1.map (Moment.seen Prod.fst)

/-- In some of the moments a private file was written to the path of the key, and put where the
    path did not lead any more. -/
def Astray (key : Path) (film : List (Moment Workspace)) (loc : Location) : Prop :=
  ∃ m ∈ film, ∃ text, m.exchange = ⟨.writePrivate key text, .ok ()⟩ ∧ m.state.Strands key text loc

/-- Two workspaces that are the same, but for keys that went astray. -/
def Same (key : Path) (film : List (Moment Workspace)) (t : Workspace × Workspace) : Prop :=
  t.1.Resembles (Astray key film) t.2

/-- Two workspaces that are the same, but for these and the bytes of the file at the path of the
    key. -/
def Apart (key : Path) (film : List (Moment Workspace)) (t : Workspace × Workspace) : Prop :=
  t.1.Resembles (fun loc => t.1.place? key = some loc ∨ Astray key film loc) t.2

/-- Two workspaces are apart, and the paths can be removed however many files are written. -/
structure Lasting (key : Path) (paths : List Path) (t : Reel) : Prop where
  apart : Apart key t.first t.2
  firm : ∀ path ∈ paths, t.2.1.Firm path

/-- Two workspaces are apart, and the paths can be removed. -/
structure Fleeting (key : Path) (paths : List Path) (t : Reel) : Prop where
  apart : Apart key t.first t.2
  harmless : ∀ path ∈ paths, t.2.1.Harmless path

/-- An identity has credentials that can be removed in the end, with the key at the path that
    was asked for. -/
structure Credentialed (spec : Specification) (identity : Identity) (t : Reel) : Prop where
  lasting : Lasting spec.keyPath [identity.certificatePath, identity.keyPath] t
  keyPath : identity.keyPath = spec.keyPath

/-- After a setback the key will be removed, or it was not written. -/
structure Reverting (key : Path) (setback : Setback) (t : Reel) : Prop where
  fleeting : Fleeting key setback.written t
  removed : key ∈ setback.written ∨ Same key t.first t.2

/-- Between two moments nothing was done to the workspaces. -/
structure Still (t u : Reel) : Prop where
  pair : u.2 = t.2
  film : t.1 ⊆ u.1

variable {film film' : List (Moment Workspace)} {paths : List Path} {path : Path} {t u : Reel}

theorem Astray.mono {loc : Location} (h : Astray key film loc) (hfilm : film ⊆ film') :
    Astray key film' loc := by
  rcases h with ⟨m, hm, hwritten⟩
  exact ⟨m, hfilm hm, hwritten⟩

theorem Same.mono {s : Workspace × Workspace} (h : Same key film s) (hfilm : film ⊆ film') :
    Same key film' s :=
  Workspace.Resembles.mono h fun _ hloc => hloc.mono hfilm

theorem Apart.mono {s : Workspace × Workspace} (h : Apart key film s) (hfilm : film ⊆ film') :
    Apart key film' s :=
  Workspace.Resembles.mono h fun _ => Or.imp_right fun hloc => hloc.mono hfilm

theorem Same.apart {s : Workspace × Workspace} (h : Same key film s) : Apart key film s :=
  Workspace.Resembles.mono h fun _ => Or.inr

theorem Lasting.fleeting (h : Lasting key paths t) : Fleeting key paths t :=
  ⟨h.apart, fun path hpath => (h.firm path hpath).harmless⟩

theorem Same.reverting (h : Same key t.first t.2) {setback : Setback}
    (hharmless : ∀ path ∈ setback.written, t.2.1.Harmless path) : Reverting key setback t :=
  ⟨⟨h.apart, hharmless⟩, Or.inr h⟩

theorem Still.refl (t : Reel) : Still t t :=
  ⟨rfl, List.Subset.refl _⟩

theorem Still.first (h : Still t u) : t.first ⊆ u.first :=
  List.map_subset _ h.film

theorem Same.still (h : Same key t.first t.2) (hstill : Still t u) : Same key u.first u.2 := by
  rw [hstill.pair]
  exact h.mono hstill.first

theorem Apart.still (h : Apart key t.first t.2) (hstill : Still t u) : Apart key u.first u.2 := by
  rw [hstill.pair]
  exact h.mono hstill.first

theorem Lasting.still (h : Lasting key paths t) (hstill : Still t u) : Lasting key paths u :=
  ⟨h.apart.still hstill, hstill.pair ▸ h.firm⟩

theorem Fleeting.still (h : Fleeting key paths t) (hstill : Still t u) : Fleeting key paths u :=
  ⟨h.apart.still hstill, hstill.pair ▸ h.harmless⟩

theorem Reverting.still {setback : Setback} (h : Reverting key setback t)
    (hstill : Still t u) : Reverting key setback u :=
  ⟨h.fleeting.still hstill, h.removed.imp_right fun hsame => hsame.still hstill⟩

theorem still_aside {α : Type} {p : Program α} (hp : Only Aside p) (t : Reel) :
    Ensures (filmed (twofold key)) p t fun _ u => Still t u := by
  refine ensures_of_only ?_ hp (Still.refl t)
  rintro q hq u hu answer ⟨film, s⟩ ⟨rfl, hstep⟩
  have hfilm : t.1 ⊆ u.1 ++ [⟨u.2, q, answer⟩] := List.subset_append_of_subset_left _ hu.film
  cases q with
  | write path text => exact hq.elim
  | writePrivate path text => exact hq.elim
  | remove path => exact hq.elim
  | _ => exact ⟨hstep.trans hu.pair, hfilm⟩

theorem still_request (r : Request) (t : Reel) :
    Ensures (filmed (twofold key)) (question (.service r)) t fun _ u => Still t u := by
  have haside : Only Aside (question (.service r)) := only_question trivial
  exact still_aside haside t

/-- A write that fails at some stage has come so far step by step. -/
theorem stepwise_stage_write (w : Workspace) (path : Path) (text : String) (e : FileError)
    (stage : Stage) : Workspace.stepwise (.write path text) w (.error e) (stage.write path w) := by
  refine Or.inr ⟨⟨e, rfl⟩, ?_⟩
  cases stage with
  | untouched => exact Or.inl ⟨rfl, Tree.Widens.refl _⟩
  | directories parent => exact Or.inl (w.widened_prepare parent)
  | cleared parent => exact Or.inl (w.widened_prepare parent)
  | opened => exact Or.inr rfl

theorem stepwise_stage_writePrivate (w : Workspace) (path : Path) (text : String) (e : FileError)
    (stage : Stage) :
    Workspace.stepwise (.writePrivate path text) w (.error e) (stage.writePrivate path w) := by
  refine Or.inr ⟨⟨e, rfl⟩, ?_⟩
  cases stage with
  | untouched => exact Or.inl ⟨rfl, Tree.Widens.refl _⟩
  | directories parent => exact Or.inl (w.widened_prepare parent)
  | cleared parent => exact Or.inr (Or.inl ⟨_, w.widened_prepare parent, rfl⟩)
  | opened => exact Or.inr (Or.inr rfl)

/-- Another file may be written, and the key stays where it is. -/
theorem Lasting.write (h : Lasting key paths t) (path : Path) (text : String) :
    Ensures (filmed (twofold key)) (question (.write path text)) t fun answer (u : Reel) =>
      Lasting key paths u ∧ (answer = .ok () → u.2.1.Firm path) ∧
        (Same key t.first t.2 → Same key u.first u.2) := by
  rintro answer ⟨film, s⟩ ⟨rfl, hstep⟩
  have hfilm : t.first ⊆ Reel.first (t.1 ++ [⟨t.2, .write path text, answer⟩], s) :=
    List.map_subset _ (List.subset_append_left _ _)
  have hafter : Workspace.stepwise (.write path text) t.2.1 answer s.1 ∧
      ∀ differ, t.2.1.Resembles differ t.2.2 → s.1.Resembles differ s.2 := by
    rcases hstep with ⟨e, stage, rfl, rfl⟩ | ⟨hdone, hdone'⟩
    · exact ⟨stepwise_stage_write _ _ _ _ _, fun differ hsame => hsame.stage_write path stage⟩
    · have hfirst : s.1 = (t.2.1.write path text).2 := congrArg Prod.snd hdone
      have hsecond : s.2 = (t.2.2.write path text).2 := congrArg Prod.snd hdone'
      refine ⟨Or.inl hdone, fun differ hsame => ?_⟩
      rw [hfirst, hsecond]
      exact (hsame.write path text).2
  rcases hafter with ⟨hstep, hafter⟩
  have hwrote := wrote_of_stepwise hstep
  refine ⟨⟨?_, fun other hother => ?_⟩, hwrote.firm, fun hsame => ?_⟩
  · refine (hafter _ h.apart).mono fun loc hloc => ?_
    refine hloc.imp (fun hplace => ?_) fun hastray => hastray.mono hfilm
    exact Workspace.place?_of_thinner hwrote.workingDirectory hwrote.thinner hplace
  · exact (h.firm other hother).of_overlays hwrote.workingDirectory hwrote.overlays
  · exact Same.mono (hafter _ hsame) hfilm

/-- The key is written, and it is all that comes between the two workspaces. -/
theorem Same.tell (h : Same key t.first t.2) (text : String) :
    Ensures (filmed (twofold key)) (question (.writePrivate key text)) t
      (Attempt
        (fun _ (u : Reel) => Same key u.first u.2 ∧ ∀ path, t.2.1.Firm path → u.2.1.Harmless path)
        fun _ (u : Reel) => Apart key u.first u.2 ∧ u.2.1.Firm key ∧
          ∀ path, t.2.1.Firm path → u.2.1.Firm path) := by
  rintro answer ⟨film, s⟩ ⟨rfl, hstep⟩
  have hfilm : t.first ⊆ Reel.first (t.1 ++ [⟨t.2, .writePrivate key text, answer⟩], s) :=
    List.map_subset _ (List.subset_append_left _ _)
  rcases hstep with ⟨e, stage, rfl, rfl⟩ | ⟨text', hdone, hdone'⟩
  · refine ⟨Same.mono (Workspace.Resembles.stage_writePrivate h key stage) hfilm, ?_⟩
    intro path hfirm
    exact (failedPrivately_of_stepwise (stepwise_stage_writePrivate _ _ text e _)).harmless path
      hfirm
  have hanswer : answer = (t.2.1.writePrivate key text).1 := congrArg Prod.fst hdone
  have hfirst : s.1 = (t.2.1.writePrivate key text).2 := congrArg Prod.snd hdone
  have hafter := (Workspace.Resembles.writePrivate h key text text').2
  rw [← hanswer, ← hfirst, ← congrArg Prod.snd hdone'] at hafter
  cases answer with
  | error e =>
      refine ⟨hafter.mono fun loc hloc => ?_, fun path hfirm => ?_⟩
      · rcases hloc with hastray | ⟨-, hok, -⟩
        · exact hastray.mono hfilm
        · exact absurd hok (by simp)
      · exact (failedPrivately_of_stepwise (Or.inl hdone)).harmless path hfirm
  | ok _ =>
      have hwrote := wrotePrivately_of_stepwise (Or.inl hdone)
      refine ⟨hafter.mono fun loc hloc => ?_, hwrote.firm, fun path hfirm => ?_⟩
      · rcases hloc with hastray | ⟨-, -, haims⟩
        · exact Or.inr (hastray.mono hfilm)
        -- It is where the path leads, or this is the moment in which it went astray.
        · rcases haims.placed_or_strands hanswer.symm with hplace | hstrands
          · exact Or.inl (hfirst ▸ hplace)
          · refine Or.inr ⟨⟨t.2.1, .writePrivate key text, .ok ()⟩, ?_, text, rfl, hstrands⟩
            exact List.mem_map.mpr ⟨_, List.mem_append_right _ List.mem_cons_self, rfl⟩
      · exact hfirm.of_overlays hwrote.workingDirectory hwrote.overlays

/-- Paths can be removed one after the other, and with the key the difference is gone. -/
theorem Fleeting.remove (h : Fleeting key paths t) (hmem : path ∈ paths) :
    Ensures (filmed (twofold key)) (question (.remove path)) t fun _ (u : Reel) =>
      Fleeting key paths u ∧ (path = key ∨ Same key t.first t.2 → Same key u.first u.2) := by
  rintro answer ⟨film, s⟩ ⟨rfl, hstep⟩
  have hfilm : t.first ⊆ Reel.first (t.1 ++ [⟨t.2, .remove path, answer⟩], s) :=
    List.map_subset _ (List.subset_append_left _ _)
  rcases hstep with ⟨rfl, hrefused⟩ | ⟨hdone, hdone'⟩
  · refine ⟨⟨h.apart.mono hfilm, h.harmless⟩, ?_⟩
    rintro (hpath | hsame)
    · exact (hrefused hpath).mono fun _ => False.elim
    · exact hsame.mono hfilm
  have hfirst : s.1 = (t.2.1.removeIfPresent path).2 := congrArg Prod.snd hdone
  have hsecond : s.2 = (t.2.2.removeIfPresent path).2 := congrArg Prod.snd hdone'
  have hharmless := h.harmless path hmem
  have hafter : ∀ differ, t.2.1.Resembles differ t.2.2 → s.1.Resembles differ s.2 := by
    intro differ hsame
    rw [hfirst, hsecond]
    exact (hsame.removeIfPresent path).2
  refine ⟨⟨(hafter _ h.apart).mono fun loc hloc => ?_, fun other hother => ?_⟩, ?_⟩
  · refine hloc.imp (fun hplace => ?_) fun hastray => hastray.mono hfilm
    rw [hfirst]
    exact hharmless.place?_removeIfPresent hplace
  · change s.1.Harmless other
    rw [hfirst]
    exact (h.harmless other hother).of_shrinks (Workspace.shrinks_removeIfPresent _ _)
  · rintro (rfl | hsame)
    · refine Same.mono ?_ hfilm
      rw [Same, hfirst, hsecond]
      exact (Workspace.Resembles.removed h.apart hharmless.clearable).2
    · exact Same.mono (hafter _ hsame) hfilm

theorem ensures_removeAll_apart {rest : List Path} (h : Fleeting key paths t)
    (hsub : rest ⊆ paths) :
    Ensures (filmed (twofold key)) (removeAll rest) t fun _ (u : Reel) =>
      key ∈ rest ∨ Same key t.first t.2 → Same key u.first u.2 := by
  induction rest generalizing t with
  | nil => exact fun hcase => hcase.elim (fun hmem => absurd hmem List.not_mem_nil) id
  | cons path rest ih =>
      refine (h.remove (hsub List.mem_cons_self)).bind ?_
      rintro _ u ⟨hfleeting, hsame⟩
      refine (ih hfleeting (List.Subset.trans (List.subset_cons_self _ _) hsub)).mono ?_
      rintro _ v hrest (hmem | hbefore)
      · rcases List.mem_cons.mp hmem with hhead | htail
        · exact hrest (Or.inr (hsame (Or.inl hhead.symm)))
        · exact hrest (Or.inl htail)
      · exact hrest (Or.inr (hsame (Or.inr hbefore)))

/-! ## The setup -/

/-- Attaching what was delivered. -/
theorem attach_apart (spec : Specification) (thing : Thing) (certificate : Certificate)
    (h : Lasting spec.keyPath [spec.certificatePath, spec.keyPath] t) :
    Ensures (filmed (twofold spec.keyPath)) (attach spec thing certificate) t
      (Attempt (Reverting spec.keyPath) (Credentialed spec)) := by
  have hback : ∀ cause, Reverting spec.keyPath ⟨cause, some certificate.id,
      [spec.certificatePath, spec.keyPath]⟩ t := fun _ => ⟨h.fleeting, Or.inl (by simp)⟩
  refine (still_request _ t).bind fun policy u hu => ?_
  cases policy with
  | error cause => exact (hback _).still hu
  | ok _ =>
      refine (still_request _ u).bind fun principal v hv => ?_
      cases principal with
      | error cause => exact ((hback _).still hu).still hv
      | ok _ => exact ⟨(h.still hu).still hv, rfl⟩

/-- Writing the credentials. -/
theorem deliver_apart (spec : Specification) (thing : Thing) (certificate : Certificate)
    (h : Same spec.keyPath t.first t.2) :
    Ensures (filmed (twofold spec.keyPath)) (deliver spec thing certificate) t
      (Attempt (Reverting spec.keyPath) (Credentialed spec)) := by
  have hnone : Lasting spec.keyPath [] t := ⟨h.apart, by simp⟩
  refine (hnone.write spec.certificatePath certificate.pem).bind ?_
  rintro answer u ⟨-, hfirm, hsame⟩
  cases answer with
  | error e => exact (hsame h).reverting (by simp)
  | ok _ =>
      refine ((hsame h).tell certificate.privateKey).attempt ?_ ?_
      · rintro e v ⟨hsame', hharmless⟩
        refine hsame'.reverting fun path hpath => ?_
        rw [List.mem_singleton.mp hpath]
        exact hharmless _ (hfirm rfl)
      · rintro _ v ⟨hapart, hkey, hothers⟩
        refine attach_apart spec thing certificate ⟨hapart, fun path hpath => ?_⟩
        rcases List.mem_cons.mp hpath with rfl | hpath
        · exact hothers _ (hfirm rfl)
        · rw [List.mem_singleton.mp hpath]
          exact hkey

theorem complete_apart (spec : Specification) (thing : Thing)
    (h : Same spec.keyPath t.first t.2) :
    Ensures (filmed (twofold spec.keyPath)) (complete spec thing) t
      (Attempt (Reverting spec.keyPath) (Credentialed spec)) := by
  have hcertify : ∀ u : Reel, Same spec.keyPath u.first u.2 →
      Ensures (filmed (twofold spec.keyPath)) (certify spec thing) u
        (Attempt (Reverting spec.keyPath) (Credentialed spec)) := by
    intro u hu
    refine (still_request _ u).bind fun issued v hv => ?_
    cases issued with
    | error cause => exact (hu.still hv).reverting (by simp)
    | ok certificate => exact deliver_apart spec thing certificate (hu.still hv)
  unfold complete
  cases spec.group with
  | none => exact hcertify t h
  | some group =>
      refine (still_request _ t).bind fun grouped u hu => ?_
      cases grouped with
      | error cause => exact (h.still hu).reverting (by simp)
      | ok _ => exact hcertify u (h.still hu)

/-- After a rollback the key is gone. -/
theorem rollback_same (thing : String) {setback : Setback} (h : Reverting key setback t) :
    Ensures (filmed (twofold key)) (rollback thing setback) t fun _ (u : Reel) =>
      Same key u.first u.2 := by
  have hclear : ∀ u, Reverting key setback u → Ensures (filmed (twofold key))
      (do removeAll setback.written; let _ ← deprovision thing; pure ()) u fun _ (v : Reel) =>
        Same key v.first v.2 := by
    intro u hu
    refine (ensures_removeAll_apart hu.fleeting (List.Subset.refl _)).bind fun _ v hv => ?_
    refine (still_aside (aside_deprovision thing) v).bind fun _ x hx => ?_
    exact (hv hu.removed).still hx
  unfold rollback
  rcases setback.certificate with _ | id
  · exact hclear t h
  · refine (still_aside (aside_retire thing id) t).bind fun _ u hu => ?_
    exact hclear u (h.still hu)

/-- A setup leaves two workspaces that are the same but for the key, and the same if it
    fails. -/
theorem provision_apart (spec : Specification) (h : Same spec.keyPath t.first t.2) :
    Ensures (filmed (twofold spec.keyPath)) (provision spec) t
      (Attempt (fun _ (u : Reel) => Same spec.keyPath u.first u.2) (Credentialed spec)) := by
  refine (still_request _ t).bind fun registered u hu => ?_
  cases registered with
  | error cause => exact h.still hu
  | ok thing =>
      refine (complete_apart spec thing (h.still hu)).attempt ?_ ?_
      · intro setback v hv
        exact (rollback_same spec.thing hv).bind fun _ x hx => hx
      · intro identity v hv
        exact hv

end Qualifier
