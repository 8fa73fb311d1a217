import Qualifier.Proofs.Identity.Credentials
import Qualifier.Proofs.Identity.Setup

/-!
# A Setup Succeeds or Leaves Nothing

The two halves of a rollback put together. A world may show a cloud and a workspace,
among whatever else it has in its state. If a setup fails there, the cloud has on
record what it had before, entry for entry, and no path that was written has an
entry. The two halves are proved apart, each for its own part of the world, and they
speak of one and the same run. Nothing is asked of the files for the first half.

## Main definitions

* `Cloud.NextUnissued`: The certificate issued next is a new one.

## Theorems

* `Unissued.next`: It is, as long as none beyond the count is stored.
* `provision_atomic`: A failed setup leaves nothing.
-/

namespace Qualifier

open Program Storage

namespace Simulated

/-- The certificate that is issued next is not in store yet. -/
def Cloud.NextUnissued (c : Cloud) : Prop :=
  c.certificates.get? (certificateId (c.issued + 1).toNat) = none

/-- This is so for a store without certificates beyond its count, as long as the count
    can go up. -/
theorem Unissued.next {c : Cloud} (h : Unissued c.certificates c.issued.toNat)
    (hlimit : c.issued.toNat + 1 < UInt32.size) : c.NextUnissued :=
  h.get?_next hlimit

end Simulated

open Simulated

/-- A setup that fails leaves things and certificates as they were. The services may fail at any
    request that does not clear up, and whatever else there is may answer in any way. If there are
    files, there is no entry under a path that the setup wrote: a write may have failed at any of
    its calls, with the calls before it done, as long as what is there can be removed. -/
theorem provision_atomic {τ : Type} (w : World τ) (cloud : τ → Cloud)
    (hcloud : w.Admits cloud Cloud.behaviour) (spec : Specification) (before after : τ)
    (talk : List Exchange) (cause : ProvisionError) (hnext : (cloud before).NextUnissued)
    (hclears : (cloud before).ClearsFreely)
    (hfailed : (provision spec).run (recording w) ([], before) = (.error cause, talk, after)) :
    (cloud after).things = (cloud before).things ∧
      (cloud after).certificates = (cloud before).certificates ∧
      ∀ files : τ → Workspace, w.Admits files Workspace.behaviour →
        ∀ path ∈ writtenIn talk, (files after).found? path = none := by
  -- The cloud takes no notice of the record; the workspace is judged by it.
  have hrecorded : (recording w).Admits (fun s => cloud s.2) Cloud.behaviour :=
    fun q s => hcloud q s.2
  have hholds : (cloud before).Holds (cloud before).things (cloud before).certificates
      (cloud before).issued := ⟨rfl, rfl, rfl, hclears⟩
  have hrecords := run_of_ensures (s := ([], before)) hrecorded (hholds.provision hnext spec)
  rw [hfailed] at hrecords
  refine ⟨?_, ?_, fun files hfiles => ?_⟩
  · rcases hrecords with h | h <;> exact h.things
  · rcases hrecords with h | h <;> exact h.certificates
  · have hgone := run_of_ensures (s := ([], before)) (admits_recording hfiles)
      (provision_files spec rfl)
    rw [hfailed] at hgone
    exact hgone

/-- An identity with files beside each other. -/
def plainSpecification : Specification :=
  ⟨"thing", "policy", none, ⟨"cert"⟩, ⟨"key"⟩⟩

/-- A test bench without files whose services refuse to attach a certificate. -/
def refusingBench : Bench Cloud where
  service := Cloud.new.failNext .attachPrincipal (.rejected "attach-thing-principal" "denied")
  files := ⟨.empty, []⟩
  companions := ⟨[], []⟩
  clock := ⟨[], []⟩
  names := []

/-- At the last step everything was made, and everything goes. -/
theorem provision_atomic_refused :
    ∃ cause talk after,
      (provision plainSpecification).run (recording (Bench.world Cloud.service))
        ([], refusingBench) = (.error cause, talk, after) ∧
      writtenIn talk = [⟨"cert"⟩, ⟨"key"⟩] ∧
      after.service.things = .empty ∧ after.service.certificates = .empty ∧
      ∀ path ∈ writtenIn talk, after.files.found? path = none := by
  rcases hrun : (provision plainSpecification).run (recording (Bench.world Cloud.service))
    ([], refusingBench) with ⟨result, talk, after⟩
  have hwritten : writtenIn ((provision plainSpecification).run
      (recording (Bench.world Cloud.service)) ([], refusingBench)).2.1
        = [⟨"cert"⟩, ⟨"key"⟩] := by decide +kernel
  have hfailed : ((provision plainSpecification).run
      (recording (Bench.world Cloud.service)) ([], refusingBench)).1.isOk = false := by
    decide +kernel
  have hclears : refusingBench.service.ClearsFreely := by
    intro op hop entry hentry
    cases op <;> first
      | exact absurd hop (by decide)
      | exact absurd hentry List.not_mem_nil
  rw [hrun] at hwritten hfailed
  cases result with
  | ok identity => exact absurd hfailed (by simp [Except.isOk, Except.toBool])
  | error cause =>
      have hnext : refusingBench.service.NextUnissued :=
        Unissued.next (fun _ _ => rfl) (by decide)
      have hatomic := provision_atomic (Bench.world Cloud.service) Bench.service admits_service
        plainSpecification refusingBench after talk cause hnext hclears hrun
      exact ⟨cause, talk, after, rfl, hwritten, hatomic.1, hatomic.2.1,
        hatomic.2.2 Bench.files (Workspace.admits_files Cloud.service)⟩

end Qualifier
