import Qualifier.Identity.Setup
import Qualifier.Proofs.Identity.Teardown

/-!
# A Setup Adds to the Records or Leaves Them Alone

What the records hold after an identity was set up, and after its setup failed. A
setup can fail at seven places, and what is there to be undone is different at each.
The rollback does not know where it was called from; it goes by the setback, which
names the certificate if one was issued. `Leftover` says what that leaves open: there
is a thing with nothing attached to it, and the certificate if and only if the
setback names it. That is enough for the rollback to undo everything.

## Main definitions

* `Leftover`: What a failed setup leaves in the records.
* `Established`: What a completed setup adds to them.

## Theorems

* `Holds.complete`: A setup is completed, or leaves what its setback says.
* `Leftover.rollback`: A rollback leaves nothing of it.
* `Holds.provision`: An identity is added to the records or nothing is.
-/

namespace Qualifier

namespace Simulated

open Program

/-- What a failed setup leaves in the records: a thing without principals, and the
    certificate that was issued for it, if it came to that. -/
inductive Leftover (T : Catalog String Device) (C : Catalog String StoredCertificate)
    (n : UInt32) (name : String) : Option String → Cloud → Prop
  | bare {d : Cloud} {dev : Device} (hbare : dev.principals = [])
      (h : d.Holds (T.add name dev) C n) : Leftover T C n name none d
  | unattached {d : Cloud} {dev : Device} {id : String} {cert : StoredCertificate}
      (hbare : dev.principals = []) (hfree : C.get? id = none)
      (h : d.Holds (T.add name dev) (C.add id cert) (n + 1)) : Leftover T C n name (some id) d

/-- What a completed setup adds to the records: the thing with its group, and attached
    to it the next certificate, which is active and carries the policy. -/
def Established (T : Catalog String Device) (C : Catalog String StoredCertificate)
    (n : UInt32) (spec : Specification) (thing : Thing) (groups : List String)
    (identity : Identity) (d : Cloud) : Prop :=
  identity = spec.identity thing (issue (certificateId (n + 1).toNat)) ∧
    d.Holds
      (T.add thing.name
        ⟨thing.arn, [certificateArn (certificateId (n + 1).toNat)], groups, none⟩)
      (C.add (certificateId (n + 1).toNat) ⟨.active, [spec.policy]⟩) (n + 1)

namespace Cloud

variable {c : Cloud} {T : Catalog String Device} {C : Catalog String StoredCertificate}
  {n : UInt32} {thing : Thing} {groups : List String}

theorem Holds.attach
    (h : c.Holds (T.add thing.name ⟨thing.arn, [], groups, none⟩)
      (C.add (certificateId (n + 1).toNat) ⟨.active, []⟩) (n + 1))
    (hthing : T.get? thing.name = none) (hcert : C.get? (certificateId (n + 1).toNat) = none)
    (spec : Specification) :
    Ensures behaviour (attach spec thing (issue (certificateId (n + 1).toNat))) c
      (Attempt (fun setback => Leftover T C n thing.name setback.certificate)
        (Established T C n spec thing groups)) := by
  refine (h.attachPolicy hcert (slash_not_mem_certificateId _) spec.policy).attempt ?_ ?_
  · intro e d hd
    exact .unattached rfl hcert hd
  · intro _ d hd
    refine (hd.attachPrincipal hthing _).attempt ?_ ?_
    · intro e d hd
      exact .unattached rfl hcert hd
    · intro _ d hd
      exact ⟨rfl, hd⟩

/-- Whether or not the credentials can be written is no concern of the records. -/
theorem Holds.deliver
    (h : c.Holds (T.add thing.name ⟨thing.arn, [], groups, none⟩)
      (C.add (certificateId (n + 1).toNat) ⟨.active, []⟩) (n + 1))
    (hthing : T.get? thing.name = none) (hcert : C.get? (certificateId (n + 1).toNat) = none)
    (spec : Specification) :
    Ensures behaviour (deliver spec thing (issue (certificateId (n + 1).toNat))) c
      (Attempt (fun setback => Leftover T C n thing.name setback.certificate)
        (Established T C n spec thing groups)) := by
  refine (h.quiet rfl).bind fun answer d hd => ?_
  cases answer with
  | error cause => exact .unattached rfl hcert hd
  | ok _ =>
      refine (hd.quiet rfl).bind fun answer d hd => ?_
      cases answer with
      | error cause => exact .unattached rfl hcert hd
      | ok _ => exact hd.attach hthing hcert spec

theorem Holds.certify (h : c.Holds (T.add thing.name ⟨thing.arn, [], groups, none⟩) C n)
    (hthing : T.get? thing.name = none) (hcert : C.get? (certificateId (n + 1).toNat) = none)
    (spec : Specification) :
    Ensures behaviour (certify spec thing) c
      (Attempt (fun setback => Leftover T C n thing.name setback.certificate)
        (Established T C n spec thing groups)) := by
  refine (h.createCertificate hcert).attempt ?_ ?_
  · intro e d hd
    exact .bare rfl hd
  · rintro _ d ⟨rfl, hd⟩
    exact hd.deliver hthing hcert spec

theorem Holds.complete (h : c.Holds (T.add thing.name ⟨thing.arn, [], [], none⟩) C n)
    (hthing : T.get? thing.name = none) (hcert : C.get? (certificateId (n + 1).toNat) = none)
    (spec : Specification) :
    Ensures behaviour (complete spec thing) c
      (Attempt (fun setback => Leftover T C n thing.name setback.certificate)
        (Established T C n spec thing spec.group.toList)) := by
  unfold Qualifier.complete
  cases spec.group with
  | none => exact h.certify hthing hcert spec
  | some group =>
      refine (h.addThingToGroup hthing group).attempt ?_ ?_
      · intro e d hd
        exact .bare rfl hd
      · intro _ d hd
        exact hd.certify hthing hcert spec

theorem Holds.removeAll (h : c.Holds T C n) (paths : List Path) :
    Ensures behaviour (removeAll paths) c fun _ d => d.Holds T C n := by
  induction paths generalizing c with
  | nil => exact h
  | cons path rest ih => exact (h.quiet rfl).bind fun _ _ hd => ih hd

/-- Once the certificate is dealt with, what is left of a rollback is a teardown. -/
theorem Holds.clear {name : String} {dev : Device} (h : c.Holds (T.add name dev) C n)
    (hfree : T.get? name = none) (hbare : dev.principals = []) (paths : List Path) :
    Ensures behaviour (do Qualifier.removeAll paths; let _ ← Qualifier.deprovision name; pure ()) c
      fun _ d => d.Holds T C n := by
  refine (h.removeAll paths).bind fun _ d hd => ?_
  exact (hd.deprovision_bare hfree hbare).bind fun _ d hd => hd

end Cloud

/-- A rollback leaves nothing of what a failed setup left. Only the count of the
    certificates that were issued may have gone up. -/
theorem Leftover.rollback {T : Catalog String Device} {C : Catalog String StoredCertificate}
    {n : UInt32} {name : String} {c : Cloud} {setback : Setback}
    (h : Leftover T C n name setback.certificate c) (hfree : T.get? name = none) :
    Ensures Cloud.behaviour (rollback name setback) c
      fun _ d => d.Holds T C n ∨ d.Holds T C (n + 1) := by
  unfold Qualifier.rollback
  rcases hissued : setback.certificate with _ | id
  · rw [hissued] at h
    cases h with
    | bare hbare h => exact (h.clear hfree hbare _).mono fun _ _ hd => Or.inl hd
  · rw [hissued] at h
    cases h with
    | unattached hbare hcert h =>
        -- The certificate is not attached to the thing, so it is retired by itself.
        refine (h.retire name id).attempt (fun _ _ hno => hno.elim) ?_
        intro _ d hd
        rw [Catalog.erase_add hcert] at hd
        exact (hd.clear hfree hbare _).mono fun _ _ hd => Or.inr hd

namespace Cloud

variable {c : Cloud} {T : Catalog String Device} {C : Catalog String StoredCertificate}
  {n : UInt32}

/-- An identity is set up beside what was on record, or the records are what they
    were. -/
theorem Holds.provision (h : c.Holds T C n)
    (hcert : C.get? (certificateId (n + 1).toNat) = none) (spec : Specification) :
    Ensures behaviour (provision spec) c
      (Attempt (fun _ d => d.Holds T C n ∨ d.Holds T C (n + 1)) fun identity d =>
        T.get? spec.thing = none ∧
          Established T C n spec ⟨spec.thing, thingArn spec.thing⟩ spec.group.toList
            identity d) := by
  refine (h.createThing spec.thing).attempt (fun _ _ hd => Or.inl hd) ?_
  rintro _ d ⟨rfl, hfree, hd⟩
  refine (hd.complete hfree hcert spec).attempt ?_ ?_
  · intro setback d hleft
    exact (hleft.rollback hfree).bind fun _ _ hd => hd
  · intro identity d hmade
    exact ⟨hfree, hmade⟩

end Cloud

end Simulated

end Qualifier
