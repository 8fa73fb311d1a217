import Qualifier.Proofs.Identity.Repeated

/-!
# A Complete Teardown

What a teardown does when no failure is queued for the operations it is made of. The
state may be any other than that: a principal may be attached twice or to several
things, two of them may stand for one certificate, and one may stand for none.

The thing is removed and so are the certificates that its principals stand for. All
other records are as they were (`SameElsewhere`, `get?_eraseAttached`), and what was
removed is counted once. After that there is nothing to list, so a second teardown ends
before it begins.

## Main definitions

* `SameElsewhere`: Nothing but the records, the calls and the queues has changed.
* `Cloud.attachedStored`: The certificates of a thing that are in store.

## Theorems

* `same_deprovision`: A teardown is about the records only.
* `finished_deprovision`: What it leaves of them, and what its answer is.
* `deprovision_complete`: A teardown, and another one after it.
-/

namespace Qualifier

open Program

namespace Simulated

/-- Two clouds differ at most in the things and certificates on record, in the calls and
    in the queues. -/
structure SameElsewhere (c d : Cloud) : Prop where
  issued : d.issued = c.issued
  runs : d.runs = c.runs
  lastRun : d.lastRun = c.lastRun
  started : d.started = c.started
  endpoint : d.endpoint = c.endpoint
  logEvents : d.logEvents = c.logEvents
  uploads : d.uploads = c.uploads
  secrets : d.secrets = c.secrets

variable {c d e : Cloud} {name : String} {about : String → Prop}

theorem SameElsewhere.refl (c : Cloud) : SameElsewhere c c :=
  ⟨rfl, rfl, rfl, rfl, rfl, rfl, rfl, rfl⟩

theorem SameElsewhere.trans (h : SameElsewhere c d) (h' : SameElsewhere d e) :
    SameElsewhere c e where
  issued := h'.issued.trans h.issued
  runs := h'.runs.trans h.runs
  lastRun := h'.lastRun.trans h.lastRun
  started := h'.started.trans h.started
  endpoint := h'.endpoint.trans h.endpoint
  logEvents := h'.logEvents.trans h.logEvents
  uploads := h'.uploads.trans h.uploads
  secrets := h'.secrets.trans h.secrets

theorem Removal.same (h : Removal name about c d) : SameElsewhere c d := by
  cases h <;> exact ⟨rfl, rfl, rfl, rfl, rfl, rfl, rfl, rfl⟩

/-- Whatever fails in it, a teardown is about the records only. -/
theorem same_deprovision (name : String) (c : Cloud) :
    Ensures Cloud.behaviour (deprovision name) c fun _ d => SameElsewhere c d := by
  refine ensures_of_only ?_ (only_deprovision name) (SameElsewhere.refl c)
  intro q hq s hs
  cases q with
  | service r =>
      have hnoted : SameElsewhere s (s.noted r.operation) := ⟨rfl, rfl, rfl, rfl, rfl, rfl, rfl, rfl⟩
      refine (Cloud.ensures_request r s _).mpr ?_
      exact hs.trans (hnoted.trans (removal_of_tearsDown hq s).same)
  | _ => exact hq.elim

/-- The certificates that are in store under a name that a principal of a thing stands
    for. -/
def Cloud.attachedStored (c : Cloud) (name : String) : Finset String :=
  Cloud.storedAmong c.certificates (c.attachedIds name)

/-- A certificate is taken out of the store if a principal stands for it, and otherwise
    left as it is. -/
theorem get?_eraseAttached (C : Catalog String StoredCertificate) (principals : List String)
    (id : String) : (Cloud.eraseAttached C principals).get? id =
      if id ∈ principals.map certificateIdOfArn then none else C.get? id := by
  induction principals generalizing C with
  | nil => rfl
  | cons principal rest ih =>
      rw [Cloud.eraseAttached, List.foldl_cons, ← Cloud.eraseAttached, ih, List.map_cons]
      by_cases heq : id = certificateIdOfArn principal
      · simp [heq]
      · simp [heq, Catalog.get?_erase_of_ne _ heq]

/-- What a teardown with nothing in its way answers, and what it leaves of the records. -/
theorem finished_deprovision (hclears : c.ClearsFreely) (name : String) :
    Ensures Cloud.behaviour (deprovision name) c
      (Attempt (fun _ _ => False) fun removed d =>
        removed = ⟨(c.attachedStored name).card, c.things.contains name⟩ ∧
        d.things = c.things.erase name ∧ d.ClearsFreely ∧
        ∃ principals, c.attachedIds name = principals.map certificateIdOfArn ∧
          d.certificates = Cloud.eraseAttached c.certificates principals) := by
  have hholds : c.Holds c.things c.certificates c.issued := ⟨rfl, rfl, rfl, hclears⟩
  cases hthing : c.things.get? name with
  | none =>
      refine (hholds.deprovision_absent hthing).mono fun outcome d hd => ?_
      cases outcome with
      | error e => exact hd
      | ok removed =>
          rcases hd with ⟨rfl, hd⟩
          have hnone : c.attachedIds name = [] := by rw [Cloud.attachedIds, hthing]
          refine ⟨?_, ?_, hd.clears, [], hnone, hd.certificates⟩
          · rw [Cloud.attachedStored, hnone, Catalog.contains, hthing]
            rfl
          · rw [hd.things, Catalog.erase_eq_self hthing]
  | some dev =>
      refine (hholds.deprovision_counted hthing).mono fun outcome d hd => ?_
      cases outcome with
      | error e => exact hd
      | ok removed =>
          rcases hd with ⟨rfl, hd⟩
          have hids : c.attachedIds name = dev.principals.map certificateIdOfArn := by
            rw [Cloud.attachedIds, hthing]
          refine ⟨?_, hd.things, hd.clears, dev.principals, hids, hd.certificates⟩
          rw [Cloud.attachedStored, hids, Catalog.contains, hthing, Option.isSome_some]

end Simulated

open Simulated

/-- With no failure queued for it, a teardown does not fail. The thing is not registered
    any more, and the certificates that its principals stand for are out of the store; all
    other records are as they were. The answer counts the certificates that were in store,
    each once, and tells whether the thing was there. A second teardown finds nothing to
    remove and leaves the records as they are. -/
theorem deprovision_complete {τ : Type} (w : World τ) (cloud : τ → Cloud)
    (hcloud : w.Admits cloud Cloud.behaviour) (name : String) (start : τ)
    (hclears : (cloud start).ClearsFreely) :
    let first := (deprovision name).run w start
    let second := (deprovision name).run w first.2
    let before := cloud start
    let after := cloud first.2
    first.1 = .ok ⟨(before.attachedStored name).card, before.things.contains name⟩ ∧
      after.things.get? name = none ∧
      (∀ other, other ≠ name → after.things.get? other = before.things.get? other) ∧
      (∀ id, after.certificates.get? id =
        if id ∈ before.attachedIds name then none else before.certificates.get? id) ∧
      SameElsewhere before after ∧
      second.1 = .ok ⟨0, false⟩ ∧ (cloud second.2).things = after.things ∧
      (cloud second.2).certificates = after.certificates ∧
      SameElsewhere after (cloud second.2) := by
  intro first second before after
  have hfirst := run_of_ensures hcloud ((finished_deprovision hclears name).and
    (same_deprovision name before))
  change Attempt _ _ first.1 after ∧ _ at hfirst
  cases hresult : first.1 with
  | error e => exact (hresult ▸ hfirst.1).elim
  | ok removed =>
      rw [hresult] at hfirst
      rcases hfirst with ⟨⟨rfl, hthings, hafter, principals, hids, hcertificates⟩, hsame⟩
      have hgone : after.things.get? name = none := by rw [hthings, Catalog.get?_erase_self]
      have hnothing : after.attachedIds name = [] := by rw [Cloud.attachedIds, hgone]
      have hsecond := run_of_ensures hcloud ((finished_deprovision hafter name).and
        (same_deprovision name after))
      change Attempt _ _ second.1 (cloud second.2) ∧ SameElsewhere after (cloud second.2)
        at hsecond
      cases hagain : second.1 with
      | error e => exact (hagain ▸ hsecond.1).elim
      | ok removed =>
          rw [hagain] at hsecond
          rcases hsecond with ⟨⟨rfl, hthings', -, principals', hids', hcertificates'⟩, hsame'⟩
          obtain rfl : principals' = [] := List.map_eq_nil_iff.mp (hids'.symm.trans hnothing)
          refine ⟨rfl, hgone, fun other hother => ?_, fun id => ?_, hsame, ?_, ?_, hcertificates',
            hsame'⟩
          · rw [hthings, Catalog.get?_erase_of_ne _ hother]
          · rw [hcertificates, get?_eraseAttached, ← hids]
          · rw [Cloud.attachedStored, hnothing, Catalog.contains, hgone]
            rfl
          · rw [hthings', Catalog.erase_eq_self hgone]

/-- A test bench with a thing that has a principal twice, two principals for one
    certificate and one for none, and with another thing that shares a principal. -/
def sharingBench : Bench Cloud where
  service :=
    { Cloud.new with
      things := ⟨[("other", ⟨thingArn "other", ["a/c1"], [], none⟩),
        ("device", ⟨thingArn "device", ["a/c1", "b/c1", "a/c1", "a/gone", "c2"], [], none⟩)]⟩
      certificates := ⟨[("c1", ⟨.active, []⟩), ("c2", ⟨.active, []⟩), ("c3", ⟨.active, []⟩)]⟩ }
  files := ⟨.empty, []⟩
  companions := ⟨[], []⟩
  clock := ⟨[], []⟩
  names := []

/-- Two certificates are deleted, though the principals are five. -/
theorem deprovision_complete_sharing :
    let first := (deprovision "device").run (Bench.world Cloud.service) sharingBench
    let second := (deprovision "device").run (Bench.world Cloud.service) first.2
    sharingBench.service.ClearsFreely ∧ first.1 = .ok ⟨2, true⟩ ∧
      first.2.service.things.get? "other" = some ⟨thingArn "other", ["a/c1"], [], none⟩ ∧
      first.2.service.certificates.get? "c3" = some ⟨.active, []⟩ ∧
      second.1 = .ok ⟨0, false⟩ := by
  have hclears : sharingBench.service.ClearsFreely := fun op _ entry hentry =>
    absurd hentry List.not_mem_nil
  rcases deprovision_complete (Bench.world Cloud.service) Bench.service admits_service "device"
    sharingBench hclears with ⟨hfirst, -, hothers, hcerts, -, hsecond, -⟩
  refine ⟨hclears, ?_, ?_, ?_, hsecond⟩
  · rw [hfirst]
    decide +kernel
  · rw [hothers "other" (by decide)]
    decide +kernel
  · rw [hcerts "c3"]
    decide +kernel

end Qualifier
