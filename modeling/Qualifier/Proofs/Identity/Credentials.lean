import Qualifier.Identity.Setup
import Qualifier.Proofs.Identity.Teardown
import Qualifier.Proofs.Storage.Replacing

/-!
# The Credential Files of a Failed Setup

A setup writes two files, and a setup that fails removes those it wrote. Here the
services may answer in any way; only the files matter. A write may also fail at any of
the calls it makes, with the calls before it done, but a removal does what the workspace
does (`Workspace.behaviour`).

The setback of a failed setup names the files that were written. `Undoable` ties it
to the conversation and to the workspace: they are all the files that were written,
and each of them can be removed. The second write may get in the way of the first
one's path, since it replaces a link, and then the first file can no longer be
reached; it has no entry all the same.

## Main definitions

* `writtenIn`: The paths a conversation managed to write.
* `issuedAt?`: The certificate that an exchange issued.
* `Undoable`: What a setback tells about the files.

## Theorems

* `files_of_only`: Requests do not touch files, and so teardowns do not.
* `ensures_removeAll`: What can be removed is removed.
* `provision_files`: A failed setup leaves no entry under a path it wrote.
-/

namespace Qualifier

open Program Storage

/-- The path an exchange managed to write. -/
def written? : Exchange → Option Path
  | ⟨.write path _, .ok _⟩ => some path
  | ⟨.writePrivate path _, .ok _⟩ => some path
  | _ => none

/-- The paths a conversation managed to write, in order. -/
def writtenIn (talk : List Exchange) : List Path :=
  talk.filterMap written?

/-- The certificate that is issued in an exchange. -/
def issuedAt? : Exchange → Option Certificate
  | ⟨.service .createCertificate, .ok certificate⟩ => some certificate
  | _ => none

theorem writtenIn_concat (talk : List Exchange) (x : Exchange) :
    writtenIn (talk ++ [x]) = writtenIn talk ++ (written? x).toList := by
  unfold writtenIn
  rw [List.filterMap_append]
  rcases hx : written? x with _ | path <;> simp [hx]

/-- The questions put to the services. -/
def IsRequest : Ask → Prop
  | .service _ => True
  | _ => False

theorem isRequest_of_tearsDown {name : String} {about : String → Prop} {q : Ask}
    (h : TearsDown name about q) : IsRequest q := by
  cases q with
  | service r => trivial
  | _ => exact h.elim

variable {s : List Exchange × Workspace}

/-- Programs that put all their questions to the services write nothing and remove
    nothing. -/
theorem files_of_only {α : Type} {p : Program α} (hp : Only IsRequest p)
    (s : List Exchange × Workspace) :
    Ensures Workspace.behaviour.recorded p s fun _ t =>
      writtenIn t.1 = writtenIn s.1 ∧ t.2 = s.2 := by
  refine ensures_of_only ?_ hp ⟨rfl, rfl⟩
  rintro q hq ⟨talk, w⟩ ⟨hwritten, hw⟩ answer ⟨talk', w'⟩ ⟨htalk, hstep⟩
  cases q with
  | service request =>
      refine ⟨?_, (show w' = w from hstep).trans hw⟩
      rw [show talk' = talk ++ [⟨.service request, answer⟩] from htalk]
      exact ((writtenIn_concat _ _).trans (List.append_nil _)).trans hwritten
  | _ => exact hq.elim

theorem files_of_request (r : Request) (s : List Exchange × Workspace) :
    Ensures Workspace.behaviour.recorded (request r) s fun _ t =>
      writtenIn t.1 = writtenIn s.1 ∧ t.2 = s.2 :=
  files_of_only (only_question (show IsRequest (.service r) from trivial)) s

/-- What can be removed is removed, and stays removed. -/
theorem ensures_removeAll (paths : List Path) (s : List Exchange × Workspace)
    (h : ∀ path ∈ paths, s.2.Clearable path) :
    Ensures Workspace.behaviour.recorded (removeAll paths) s fun _ t =>
      writtenIn t.1 = writtenIn s.1 ∧ s.2.Shrinks t.2 ∧
        ∀ path ∈ paths, t.2.found? path = none := by
  induction paths generalizing s with
  | nil => exact ⟨rfl, Workspace.Shrinks.refl _, by simp⟩
  | cons path rest ih =>
      rw [removeAll, ensures_question_bind]
      rintro answer ⟨talk, w⟩ ⟨htalk, hstep⟩
      obtain ⟨-, rfl⟩ := Prod.mk.inj (show (answer, w) = s.2.removeIfPresent path from hstep)
      have hshrinks := Workspace.shrinks_removeIfPresent s.2 path
      have hgone := Workspace.found?_removeIfPresent (h path List.mem_cons_self)
      -- Removing one path may take others along, but puts nothing in their place.
      have hrest : ∀ other ∈ rest, (s.2.removeIfPresent path).2.Clearable other :=
        fun other hmem => hshrinks.clearable (h other (List.mem_cons_of_mem _ hmem))
      refine (ih (talk, (s.2.removeIfPresent path).2) hrest).mono ?_
      rintro _ t ⟨hwritten, hmore, hnone⟩
      refine ⟨?_, hshrinks.trans hmore, ?_⟩
      · rw [hwritten, show talk = s.1 ++ [⟨.remove path, answer⟩] from htalk, writtenIn_concat]
        exact List.append_nil _
      · intro other hmem
        rcases List.mem_cons.mp hmem with rfl | hmem
        · exact hmore.found?_eq_none hgone
        · exact hnone other hmem

/-- The files that were written are the ones named, and each can be removed. -/
def Undoable (named : List Path) (s : List Exchange × Workspace) : Prop :=
  writtenIn s.1 = named ∧ ∀ path ∈ named, s.2.Clearable path

theorem attach_files (spec : Specification) (thing : Thing) (certificate : Certificate)
    (h : Undoable [spec.certificatePath, spec.keyPath] s) :
    Ensures Workspace.behaviour.recorded (attach spec thing certificate) s
      (Attempt (fun setback => Undoable setback.written) fun _ _ => True) := by
  refine (files_of_request _ s).bind ?_
  rintro policy ⟨talk, w⟩ ⟨hwritten, rfl⟩
  cases policy with
  | error cause => exact ⟨hwritten.trans h.1, h.2⟩
  | ok _ =>
      refine (files_of_request _ _).bind ?_
      rintro principal ⟨talk', w'⟩ ⟨hwritten', rfl⟩
      cases principal with
      | error cause => exact ⟨(hwritten'.trans hwritten).trans h.1, h.2⟩
      | ok _ => trivial

/-- Writing the credentials. What a failure leaves behind are the files written up to
    then. -/
theorem deliver_files (spec : Specification) (thing : Thing) (certificate : Certificate)
    (h : writtenIn s.1 = []) :
    Ensures Workspace.behaviour.recorded (deliver spec thing certificate) s
      (Attempt (fun setback => Undoable setback.written) fun _ _ => True) := by
  rw [deliver, ensures_question_bind]
  rintro first ⟨talk, w⟩ ⟨htalk, hstep⟩
  cases first with
  | error cause =>
      refine ⟨?_, by simp⟩
      rw [show talk = _ from htalk, writtenIn_concat, h]
      rfl
  | ok _ =>
      have hwritten : writtenIn talk = [spec.certificatePath] := by
        rw [show talk = _ from htalk, writtenIn_concat, h]
        rfl
      have hsettled : w.Settled spec.certificatePath :=
        Workspace.settled_of_write (Workspace.done_of_ok hstep)
      refine (ensures_question_bind _ _ _ _ _).mpr ?_
      rintro second ⟨talk', w'⟩ ⟨htalk', hstep'⟩
      -- However the second write ends, the first file can still be removed.
      have hclearable : w'.Clearable spec.certificatePath :=
        hsettled.clearable_of_callwise hstep'
      cases second with
      | error cause =>
          refine ⟨?_, ?_⟩
          · rw [show talk' = _ from htalk', writtenIn_concat]
            exact (List.append_nil _).trans hwritten
          · intro path hmem
            rw [List.mem_singleton.mp hmem]
            exact hclearable
      | ok _ =>
          have hkey : w'.Clearable spec.keyPath :=
            Workspace.clearable_of_writePrivate (Workspace.done_of_ok hstep')
          refine attach_files spec thing certificate ⟨?_, ?_⟩
          · rw [show talk' = _ from htalk', writtenIn_concat, show writtenIn talk = _ from hwritten]
            rfl
          · intro path hmem
            rcases List.mem_cons.mp hmem with rfl | hmem
            · exact hclearable
            · rw [List.mem_singleton.mp hmem]
              exact hkey

theorem complete_files (spec : Specification) (thing : Thing) (h : writtenIn s.1 = []) :
    Ensures Workspace.behaviour.recorded (complete spec thing) s
      (Attempt (fun setback => Undoable setback.written) fun _ _ => True) := by
  -- Up to the first write, with a group or without one, nothing is written.
  have hcertify : ∀ s : List Exchange × Workspace, writtenIn s.1 = [] →
      Ensures Workspace.behaviour.recorded (certify spec thing) s
        (Attempt (fun setback => Undoable setback.written) fun _ _ => True) := by
    intro s hs
    refine (files_of_request _ s).bind ?_
    rintro issued ⟨talk, w⟩ ⟨hwritten, rfl⟩
    cases issued with
    | error cause => exact ⟨hwritten.trans hs, by simp⟩
    | ok certificate => exact deliver_files spec thing certificate (hwritten.trans hs)
  unfold complete
  cases spec.group with
  | none => exact hcertify s h
  | some group =>
      refine (files_of_request _ s).bind ?_
      rintro grouped ⟨talk, w⟩ ⟨hwritten, rfl⟩
      cases grouped with
      | error cause => exact ⟨hwritten.trans h, by simp⟩
      | ok _ => exact hcertify _ (hwritten.trans h)

/-- A rollback leaves no entry under a path that was written. -/
theorem rollback_files (thing : String) (setback : Setback) (h : Undoable setback.written s) :
    Ensures Workspace.behaviour.recorded (rollback thing setback) s fun _ t =>
      ∀ path ∈ writtenIn t.1, t.2.found? path = none := by
  -- Both cases of the rollback end alike, with or without a certificate to retire.
  have hclear : ∀ s : List Exchange × Workspace, Undoable setback.written s →
      Ensures Workspace.behaviour.recorded
        (do removeAll setback.written; let _ ← deprovision thing; pure ()) s fun _ t =>
          ∀ path ∈ writtenIn t.1, t.2.found? path = none := by
    intro s hs
    refine (ensures_removeAll _ s hs.2).bind ?_
    rintro _ t ⟨hwritten, -, hnone⟩
    have honly := (only_deprovision thing).mono fun _ => isRequest_of_tearsDown
    refine (files_of_only honly t).bind ?_
    rintro _ u ⟨hwritten', hsame⟩ path hmem
    rw [hwritten', hwritten, hs.1] at hmem
    rw [hsame]
    exact hnone path hmem
  unfold rollback
  rcases setback.certificate with _ | id
  · exact hclear s h
  · have hretire : Only (TearsDown thing fun _ => True) (retire thing id) := only_retire thing trivial
    have honly := hretire.mono fun _ => isRequest_of_tearsDown
    refine (files_of_only honly s).bind ?_
    rintro _ ⟨talk, w⟩ ⟨hwritten, rfl⟩
    exact hclear _ ⟨hwritten.trans h.1, h.2⟩

/-- A failed setup leaves no entry under a path that it wrote. -/
theorem provision_files (spec : Specification) (h : writtenIn s.1 = []) :
    Ensures Workspace.behaviour.recorded (provision spec) s
      (Attempt (fun _ t => ∀ path ∈ writtenIn t.1, t.2.found? path = none)
        fun _ _ => True) := by
  refine (files_of_request _ s).bind ?_
  rintro registered ⟨talk, w⟩ ⟨hwritten, rfl⟩
  cases registered with
  | error cause =>
      intro path hmem
      rw [show writtenIn talk = _ from hwritten.trans h] at hmem
      exact absurd hmem List.not_mem_nil
  | ok thing =>
      refine (complete_files spec thing (hwritten.trans h)).attempt ?_ ?_
      · intro setback t hundo
        exact (rollback_files spec.thing setback hundo).bind fun _ _ hnone => hnone
      · intro identity t _
        trivial

end Qualifier
