import Qualifier.Proofs.Outside.Accounts

/-!
# The Files of a Setup, Accounted For

A setup writes the certificate and then the key. If it succeeds the two paths are pending and
steady, so whatever is done until the end of the suite, they can be removed then. If it fails
the paths that were written are removed by the rollback, and every file is accounted for.

The services may answer in any way, and a write may stop between any two of its calls.

## Main definitions

* `SetBack`: What a setback tells about the files.
* `Undone`, `Carries`: What a setup leaves if it fails, and if it succeeds.

## Theorems

* `deliver_leftovers`: The credentials are pending, or those that were written are.
* `rollback_leftovers`: A rollback clears the paths that were written.
* `provision_leftovers`: What a setup leaves, whether or not it succeeds.
* `removeCredentials_leftovers`: In the end both paths are cleared.
-/

namespace Qualifier

open Program Storage

variable {first : Workspace} {t u : Footage}

/-- The paths that are named were written since then, and can be removed. -/
structure SetBack (first : Workspace) (t : Footage) (named : List Path) (u : Footage) :
    Prop where
  loose : Loose first named u
  written : u.written = t.written ++ named

/-- What was written since then is cleared. -/
def Undone (first : Workspace) (t u : Footage) : Prop :=
  ∃ named, Cleared first named u ∧ u.written = t.written ++ named

/-- The identity has its credentials at the paths that were asked for, and these are
    pending. -/
structure Carries (first : Workspace) (spec : Specification) (identity : Identity)
    (u : Footage) : Prop where
  steady : Steady first [spec.certificatePath, spec.keyPath] u
  certificatePath : identity.certificatePath = spec.certificatePath
  keyPath : identity.keyPath = spec.keyPath

theorem SetBack.unchanged {named : List Path} {v : Footage} (h : SetBack first t named u)
    (hsame : Unchanged u v) : SetBack first t named v :=
  ⟨h.loose.unchanged hsame, hsame.written.trans h.written⟩

theorem aside_of_tearsDown {name : String} {about : String → Prop} {q : Ask}
    (h : TearsDown name about q) : Aside q := by
  cases q with
  | service r => trivial
  | _ => exact h.elim

theorem aside_deprovision (thing : String) : Only Aside (deprovision thing) :=
  (only_deprovision thing).mono fun _ => aside_of_tearsDown

theorem aside_retire (thing id : String) : Only Aside (retire thing id) := by
  have hretire : Only (TearsDown thing fun _ => True) (retire thing id) := only_retire thing trivial
  exact hretire.mono fun _ => aside_of_tearsDown

/-- Attaching what was delivered. -/
theorem attach_leftovers (spec : Specification) (thing : Thing) (certificate : Certificate)
    (h : Steady first [spec.certificatePath, spec.keyPath] u)
    (hwritten : u.written = t.written ++ [spec.certificatePath, spec.keyPath]) :
    Ensures (filmed Workspace.stepwise) (attach spec thing certificate) u
      (Attempt (fun setback => SetBack first t setback.written) (Carries first spec)) := by
  have hsetBack : SetBack first t [spec.certificatePath, spec.keyPath] u := ⟨h.loose, hwritten⟩
  refine (unchanged_request _ u).bind fun policy v hv => ?_
  cases policy with
  | error cause => exact hsetBack.unchanged hv
  | ok _ =>
      refine (unchanged_request _ v).bind fun principal x hx => ?_
      cases principal with
      | error cause => exact (hsetBack.unchanged hv).unchanged hx
      | ok _ => exact ⟨(h.unchanged hv).unchanged hx, rfl, rfl⟩

/-- Writing the credentials. The key is pending from its write on, and the certificate, which
    is accounted for anyhow, with it. -/
theorem deliver_leftovers (spec : Specification) (thing : Thing) (certificate : Certificate)
    (h : Tidy first [] u) (hwritten : u.written = t.written) :
    Ensures (filmed Workspace.stepwise) (deliver spec thing certificate) u
      (Attempt (fun setback => SetBack first t setback.written) (Carries first spec)) := by
  rw [deliver, ensures_question_bind]
  rintro answer ⟨film, w⟩ ⟨rfl, hstep⟩
  have hwrote := wrote_of_stepwise hstep
  have htidy := h.wrote hwrote
  cases answer with
  | error e =>
      refine ⟨⟨htidy, by simp⟩, ?_⟩
      rw [Footage.written_concat, hwritten]
      rfl
  | ok _ =>
      have hfirst : Footage.written (u.1 ++ [⟨u.2, .write spec.certificatePath certificate.pem,
          .ok ()⟩], w) = t.written ++ [spec.certificatePath] := by
        rw [Footage.written_concat, hwritten]
        rfl
      have hfirm := hwrote.firm rfl
      refine (ensures_question_bind _ _ _ _ _).mpr ?_
      rintro answer ⟨film, w'⟩ ⟨rfl, hstep'⟩
      cases answer with
      | error e =>
          have hfailed := failedPrivately_of_stepwise hstep'
          refine ⟨⟨(htidy.failedPrivately hfailed).mono (List.nil_subset _), ?_⟩, ?_⟩
          · intro path hpath
            rw [List.mem_singleton.mp hpath]
            exact hfailed.harmless _ hfirm
          · rw [Footage.written_concat]
            exact (List.append_nil _).trans hfirst
      | ok _ =>
          have hwrote' := wrotePrivately_of_stepwise hstep'
          refine attach_leftovers spec thing certificate ⟨?_, ?_⟩ ?_
          · exact (htidy.wrotePrivately hwrote').mono (by simp)
          · intro path hpath
            rcases List.mem_cons.mp hpath with rfl | hpath
            · exact hfirm.of_overlays hwrote'.workingDirectory hwrote'.overlays
            · rw [List.mem_singleton.mp hpath]
              exact hwrote'.firm
          · rw [Footage.written_concat]
            exact (congrArg (· ++ [spec.keyPath]) hfirst).trans (List.append_assoc _ _ _)

theorem complete_leftovers (spec : Specification) (thing : Thing) (h : Tidy first [] u)
    (hwritten : u.written = t.written) :
    Ensures (filmed Workspace.stepwise) (complete spec thing) u
      (Attempt (fun setback => SetBack first t setback.written) (Carries first spec)) := by
  have hnothing : ∀ {v : Footage}, Unchanged u v → SetBack first t [] v := by
    intro v hv
    refine ⟨⟨h.unchanged hv, by simp⟩, ?_⟩
    rw [hv.written, hwritten, List.append_nil]
  -- Up to the first write, with a group or without one, nothing happens to the files.
  have hcertify : ∀ v, Unchanged u v →
      Ensures (filmed Workspace.stepwise) (certify spec thing) v
        (Attempt (fun setback => SetBack first t setback.written) (Carries first spec)) := by
    intro v hv
    refine (unchanged_request _ v).bind fun issued x hx => ?_
    have hsame : Unchanged u x :=
      ⟨hx.files.trans hv.files, List.Subset.trans hv.film hx.film, hx.written.trans hv.written⟩
    cases issued with
    | error cause => exact hnothing hsame
    | ok certificate =>
        exact deliver_leftovers spec thing certificate (h.unchanged hsame)
          (hsame.written.trans hwritten)
  unfold complete
  cases spec.group with
  | none => exact hcertify u ⟨rfl, List.Subset.refl _, rfl⟩
  | some group =>
      refine (unchanged_request _ u).bind fun grouped v hv => ?_
      cases grouped with
      | error cause => exact hnothing hv
      | ok _ => exact hcertify v hv

/-- A rollback clears the paths that were written. -/
theorem rollback_leftovers (thing : String) (setback : Setback)
    (h : SetBack first t setback.written u) :
    Ensures (filmed Workspace.stepwise) (rollback thing setback) u fun _ v =>
      Undone first t v := by
  -- With or without a certificate to retire, the rest is the same.
  have hclear : ∀ v, SetBack first t setback.written v →
      Ensures (filmed Workspace.stepwise)
        (do removeAll setback.written; let _ ← deprovision thing; pure ()) v fun _ x =>
          Undone first t x := by
    intro v hv
    refine (ensures_removeAll_loose hv.loose).bind ?_
    rintro _ x ⟨hcleared, -, hwritten⟩
    refine (unchanged_of_only (aside_deprovision thing) x).bind fun _ y hy => ?_
    exact ⟨setback.written, hcleared.unchanged hy,
      hy.written.trans (hwritten.trans hv.written)⟩
  unfold rollback
  rcases setback.certificate with _ | id
  · exact hclear u h
  · refine (unchanged_of_only (aside_retire thing id) u).bind fun _ v hv => ?_
    exact hclear v (h.unchanged hv)

/-- What a setup leaves: nothing of what it wrote, or the credentials with both paths
    pending. -/
theorem provision_leftovers (spec : Specification) (h : Tidy first [] t) :
    Ensures (filmed Workspace.stepwise) (provision spec) t
      (Attempt (fun _ u => Undone first t u) (Carries first spec)) := by
  refine (unchanged_request _ t).bind fun registered u hu => ?_
  cases registered with
  | error cause =>
      refine ⟨[], ⟨h.unchanged hu, by simp⟩, ?_⟩
      rw [hu.written, List.append_nil]
  | ok thing =>
      refine (complete_leftovers spec thing (h.unchanged hu) hu.written).attempt ?_ ?_
      · intro setback v hv
        exact (rollback_leftovers spec.thing setback hv).bind fun _ x hx => hx
      · intro identity v hv
        exact hv

/-- Removing the credentials of an identity clears both paths. -/
theorem removeCredentials_leftovers {certificatePath keyPath : Path}
    (h : Loose first [certificatePath, keyPath] t) :
    Ensures (filmed Workspace.stepwise) (removeCredentials certificatePath keyPath) t fun _ u =>
      Cleared first [certificatePath, keyPath] u := by
  refine h.ensures_remove.bind ?_
  rintro certificate u ⟨hloose, -, hgone, -⟩
  refine hloose.ensures_remove.bind ?_
  rintro key v ⟨hlast, hshrinks, hgone', -⟩
  have hcleared : Cleared first [certificatePath, keyPath] v := by
    refine ⟨hlast.tidy, fun path hpath => ?_⟩
    rcases List.mem_cons.mp hpath with rfl | hpath
    · exact hshrinks.found?_eq_none hgone
    · rw [List.mem_singleton.mp hpath]
      exact hgone'
  rcases certificate with e | _
  · exact hcleared
  · rcases key with e | _ <;> exact hcleared

end Qualifier
