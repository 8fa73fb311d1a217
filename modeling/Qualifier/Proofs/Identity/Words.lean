import Qualifier.Identity.Setup
import Qualifier.Proofs.Outside.Words

/-!
# The Words of a Setup and of a Teardown

The operations that an identity comes and goes with, in the order in which they may be called.
A setup is one fixed word, with a part for the group if there is one. If it breaks off, then
after an operation of that word, and what follows is the rollback: a certificate that was
issued and is not attached yet is retired, and then the thing is taken down like any other.
A thing that could not even be registered is not rolled back.

A teardown first asks for the principals. It goes through them three operations at a time and
deletes the thing last, unless it is cut short by a failure.

## Main definitions

* `removals`, `TeardownWord`: The words of a teardown.
* `RetireWord`, `RollbackWord`: Those of a rollback with a certificate.
* `groupWord`, `setupWord`: The word of a setup.
* `Certified`, `Completed`: The words of its stages, each with how the stage ended.
* `SetupBroken`: The words of a setup that failed, by the failure.

## Theorems

* `spells_deprovision`: What a teardown calls.
* `spells_rollback`: What a rollback calls.
* `spells_provision`: What a setup calls.
-/

namespace Qualifier

open Program

/-! ## Teardown -/

/-- The operations that remove a number of certificates, and then the thing. -/
def removals : Nat → List Operation
  | 0 => [.deleteThing]
  | n + 1 => [.detachPrincipal, .updateCertificate, .deleteCertificate] ++ removals n

/-- The words of a teardown: the principals are asked for, and as many certificates as there
    are principals and then the thing are removed, up to the first failure. -/
def TeardownWord (word : List Operation) : Prop :=
  ∃ n rest, word = .listPrincipals :: rest ∧ rest <+: removals n

/-- The words of a certificate that is retired: it is deactivated and, unless that failed,
    deleted. -/
def RetireWord (word : List Operation) : Prop :=
  word = [.updateCertificate] ∨ word = [.updateCertificate, .deleteCertificate]

theorem spells_retire (thing id : String) :
    Spells (retire thing id) fun word result =>
      RetireWord word ∧ (∀ wasThere, result = .ok wasThere →
        word = [.updateCertificate, .deleteCertificate]) := by
  unfold retire
  refine spells_request_bind fun answer => ?_
  cases absentOk .deactivateCertificate thing answer with
  | error e => exact spells_pure ⟨Or.inl rfl, fun _ h => absurd h (by simp)⟩
  | ok wasThere =>
      exact spells_request_bind fun answer => spells_pure ⟨Or.inr rfl, fun _ _ => rfl⟩

theorem removals_prefix_of_retireWord {word : List Operation} (h : RetireWord word) (n : Nat) :
    Operation.detachPrincipal :: word <+: removals (n + 1) := by
  rcases h with rfl | rfl
  · exact ⟨_ :: removals n, rfl⟩
  · exact ⟨removals n, rfl⟩

/-- Each principal takes three operations, and any of them may be the last. -/
theorem spells_removeAttached (thing : String) (principals : List String) :
    ∀ deleted, Spells (removeAttached thing deleted principals) fun word _ =>
      word <+: removals principals.length := by
  induction principals with
  | nil =>
      intro deleted
      unfold removeAttached
      refine spells_request_bind fun answer => ?_
      cases absentOk .deleteThing thing answer with
      | error e => exact spells_pure (List.prefix_refl _)
      | ok removed => exact spells_pure (List.prefix_refl _)
  | cons principal rest ih =>
      intro deleted
      unfold removeAttached
      refine spells_request_bind fun answer => ?_
      cases absentOk .detachPrincipal thing answer with
      | error e => exact spells_pure ⟨_, rfl⟩
      | ok _ =>
          refine (spells_retire thing _).bind fun word retired hword => ?_
          cases retired with
          | error e =>
              refine spells_pure ?_
              rw [List.append_nil]
              exact removals_prefix_of_retireWord hword.1 _
          | ok wasThere =>
              rw [hword.2 wasThere rfl]
              refine (ih _).mono ?_
              rintro later _ ⟨cut, hcut⟩
              exact ⟨cut, congrArg
                ([.detachPrincipal, .updateCertificate, .deleteCertificate] ++ ·) hcut⟩

theorem spells_deprovision (thing : String) :
    Spells (deprovision thing) fun word _ => TeardownWord word := by
  unfold deprovision
  refine spells_request_bind fun answer => ?_
  cases answer with
  | error cause =>
      -- A thing that is gone is as good as removed; nothing more is called either way.
      dsimp only
      split <;> exact spells_pure ⟨0, [], rfl, List.nil_prefix⟩
  | ok principals =>
      exact (spells_removeAttached thing principals 0).mono fun word _ hword =>
        ⟨_, word, rfl, hword⟩

/-- The words of a rollback after a certificate was issued. -/
def RollbackWord (word : List Operation) : Prop :=
  ∃ retired down, word = retired ++ down ∧ RetireWord retired ∧ TeardownWord down

theorem spells_removeAll (paths : List Path) :
    Spells (removeAll paths) fun word _ => word = [] := by
  induction paths with
  | nil => exact spells_pure rfl
  | cons path rest ih => exact spells_aside_bind rfl fun _ => ih

theorem spells_removeCredentials (certificatePath keyPath : Path) :
    Spells (removeCredentials certificatePath keyPath) fun word _ => word = [] := by
  refine spells_aside_bind rfl fun certificate => spells_aside_bind rfl fun key => ?_
  cases certificate with
  | error e => exact spells_pure rfl
  | ok removed => cases key <;> exact spells_pure rfl

/-- The files are removed between the certificate and the thing, and that calls nothing. -/
theorem spells_rollback (thing : String) (setback : Setback) :
    Spells (rollback thing setback) fun word _ =>
      if setback.certificate.isSome then RollbackWord word else TeardownWord word := by
  have hclear : Spells
      (do removeAll setback.written; let _ ← deprovision thing; pure ()) fun word _ =>
        TeardownWord word := by
    refine (spells_removeAll _).bind ?_
    rintro _ _ rfl
    refine (spells_deprovision thing).bind fun word _ hword => spells_pure ?_
    rw [List.nil_append, List.append_nil]
    exact hword
  unfold rollback
  cases setback.certificate with
  | none => exact hclear
  | some id =>
      refine (spells_retire thing id).bind fun retired _ hretired => ?_
      exact hclear.mono fun down _ hdown => ⟨retired, down, rfl, hretired.1, hdown⟩

/-! ## Setup -/

/-- The part of a setup for the group, if there is one. -/
def groupWord (group : Option String) : List Operation :=
  if group.isSome then [.addThingToGroup] else []

/-- The word of a setup. -/
def setupWord (group : Option String) : List Operation :=
  .createThing :: groupWord group ++ [.createCertificate, .attachPolicy, .attachPrincipal]

/-- The words of the part of a setup that is about the certificate, by how that part ended. -/
inductive Certified : Except Setback Identity → List Operation → Prop
  | unissued (name : String) (cause : ServiceError) (written : List Path) :
      Certified (.error ⟨.service .createCertificate name cause, none, written⟩)
        [.createCertificate]
  | unwritten (name : String) (cause : Storage.FileError) (id : String) (written : List Path) :
      Certified (.error ⟨.credentials name cause, some id, written⟩) [.createCertificate]
  | unpermitted (name : String) (cause : ServiceError) (id : String) (written : List Path) :
      Certified (.error ⟨.service .attachPolicy name cause, some id, written⟩)
        [.createCertificate, .attachPolicy]
  | unattached (name : String) (cause : ServiceError) (id : String) (written : List Path) :
      Certified (.error ⟨.service .attachPrincipal name cause, some id, written⟩)
        [.createCertificate, .attachPolicy, .attachPrincipal]
  | attached (identity : Identity) :
      Certified (.ok identity) [.createCertificate, .attachPolicy, .attachPrincipal]

theorem spells_certify (spec : Specification) (thing : Thing) :
    Spells (certify spec thing) fun word result => Certified result word := by
  unfold certify
  refine spells_request_bind fun answer => ?_
  cases answer with
  | error cause => exact spells_pure (.unissued _ _ _)
  | ok certificate =>
      refine spells_aside_bind rfl fun answer => ?_
      cases answer with
      | error cause => exact spells_pure (.unwritten _ _ _ _)
      | ok _ =>
          refine spells_aside_bind rfl fun answer => ?_
          cases answer with
          | error cause => exact spells_pure (.unwritten _ _ _ _)
          | ok _ =>
              refine spells_request_bind fun answer => ?_
              cases answer with
              | error cause => exact spells_pure (.unpermitted _ _ _ _)
              | ok _ =>
                  refine spells_request_bind fun answer => ?_
                  cases answer with
                  | error cause => exact spells_pure (.unattached _ _ _ _)
                  | ok _ => exact spells_pure (.attached _)

/-- The words of a setup after the registration of the thing, by how it ended. -/
inductive Completed (group : Option String) : Except Setback Identity → List Operation → Prop
  | ungrouped (name : String) (cause : ServiceError) (hgroup : group.isSome = true) :
      Completed group (.error ⟨.service .addToGroup name cause, none, []⟩) [.addThingToGroup]
  | certified {result : Except Setback Identity} {word : List Operation}
      (h : Certified result word) : Completed group result (groupWord group ++ word)

theorem spells_complete (spec : Specification) (thing : Thing) :
    Spells (complete spec thing) fun word result => Completed spec.group result word := by
  unfold complete
  cases spec.group with
  | none => exact (spells_certify spec thing).mono fun _ _ h => .certified h
  | some group =>
      refine spells_request_bind fun answer => ?_
      cases answer with
      | error cause => exact spells_pure (.ungrouped _ _ rfl)
      | ok _ =>
          refine (spells_certify spec thing).mono fun word result h => ?_
          exact (Completed.certified h : Completed (some group) result _)

/-- The words of a setup that failed, by the failure: the setup up to the operation that
    failed, or up to the certificate if its files could not be written, and then the
    rollback. -/
inductive SetupBroken (group : Option String) : ProvisionError → List Operation → Prop
  | unregistered (name : String) (cause : ServiceError) :
      SetupBroken group (.service .createThing name cause) [.createThing]
  | ungrouped (name : String) (cause : ServiceError) {down : List Operation}
      (hgroup : group.isSome = true) (hdown : TeardownWord down) :
      SetupBroken group (.service .addToGroup name cause)
        ([.createThing, .addThingToGroup] ++ down)
  | unissued (name : String) (cause : ServiceError) {down : List Operation}
      (hdown : TeardownWord down) :
      SetupBroken group (.service .createCertificate name cause)
        (.createThing :: groupWord group ++ [.createCertificate] ++ down)
  | unwritten (name : String) (cause : Storage.FileError) {undone : List Operation}
      (hundone : RollbackWord undone) :
      SetupBroken group (.credentials name cause)
        (.createThing :: groupWord group ++ [.createCertificate] ++ undone)
  | unpermitted (name : String) (cause : ServiceError) {undone : List Operation}
      (hundone : RollbackWord undone) :
      SetupBroken group (.service .attachPolicy name cause)
        (.createThing :: groupWord group ++ [.createCertificate, .attachPolicy] ++ undone)
  | unattached (name : String) (cause : ServiceError) {undone : List Operation}
      (hundone : RollbackWord undone) :
      SetupBroken group (.service .attachPrincipal name cause) (setupWord group ++ undone)

/-- A setup that got as far as it did is rolled back from there. -/
theorem Completed.broken {group : Option String} {setback : Setback}
    {word undone : List Operation} (h : Completed group (.error setback) word)
    (hundone : if setback.certificate.isSome then RollbackWord undone else TeardownWord undone) :
    SetupBroken group setback.error (.createThing :: word ++ undone) := by
  cases h with
  | ungrouped name cause hgroup => exact .ungrouped name cause hgroup hundone
  | certified h =>
      cases h with
      | unissued name cause written => exact .unissued name cause hundone
      | unwritten name cause id written => exact .unwritten name cause hundone
      | unpermitted name cause id written => exact .unpermitted name cause hundone
      | unattached name cause id written => exact .unattached name cause hundone

theorem spells_provision (spec : Specification) :
    Spells (provision spec) fun word result =>
      (∀ identity, result = .ok identity → word = setupWord spec.group) ∧
      (∀ cause, result = .error cause → SetupBroken spec.group cause word) := by
  unfold provision
  refine spells_request_bind fun answer => ?_
  cases answer with
  | error cause =>
      refine spells_pure ⟨fun _ h => absurd h (by simp), ?_⟩
      rintro _ ⟨⟩
      exact .unregistered _ _
  | ok thing =>
      refine (spells_complete spec thing).bind fun word completed hword => ?_
      cases completed with
      | ok identity =>
          refine spells_pure ⟨?_, fun _ h => absurd h (by simp)⟩
          rintro _ -
          rw [List.append_nil]
          cases hword with
          | certified h =>
              cases h with
              | attached => rfl
      | error setback =>
          refine (spells_rollback spec.thing setback).bind fun undone _ hundone => ?_
          refine spells_pure ⟨fun _ h => absurd h (by simp), ?_⟩
          rintro _ ⟨⟩
          rw [List.append_nil]
          exact hword.broken hundone

end Qualifier
