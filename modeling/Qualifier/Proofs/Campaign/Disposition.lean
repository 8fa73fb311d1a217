import Qualifier.Proofs.Campaign.Records

/-!
# What a Campaign Leaves on Record

A campaign sets up and takes down one identity after another, and it may be broken
off in between. What it leaves on record is what was there before and the things of
the suites reported as failed, each with the certificate that was issued for it. All
else that a campaign adds to the records it takes away again.

The induction is on the suites. Each of them starts from records of its own: those
the campaign started from, with an entry more for each failed suite before it. The
certificates are numbered without end as far as this module is concerned, and so the
count has to be far enough from its limit for all suites that are enabled.

## Main definitions

* `Catalog.Gains`: A catalog with some entries more.
* `Retained`: What is kept of a failed suite.
* `Disposition`: What is on record after a campaign.
* `retainedThings`: The things of the suites that are reported as failed.

## Theorems

* `Gains.cons`: Entries are gained one by one.
* `Holds.runSuites`: The suites from any point on.
* `runCampaign_disposition`: A whole campaign.
-/

namespace Qualifier

namespace Catalog

variable {κ α : Type} [DecidableEq κ] {c c' : Catalog κ α}

/-- The catalog `c'` is the catalog `c` with the entries `added`, which stand under keys
    of their own. -/
structure Gains (c c' : Catalog κ α) (added : List (κ × α)) : Prop where
  distinct : (added.map Prod.fst).Nodup
  free : ∀ e ∈ added, c.get? e.1 = none
  there : ∀ e ∈ added, c'.get? e.1 = some e.2
  others : ∀ key, key ∉ added.map Prod.fst → c'.get? key = c.get? key

theorem Gains.refl (c : Catalog κ α) : c.Gains c [] :=
  ⟨List.nodup_nil, by simp, by simp, fun _ _ => rfl⟩

/-- What is gained after a first entry was added is gained besides it. -/
theorem Gains.cons {key : κ} {value : α} {added : List (κ × α)} (hfree : c.get? key = none)
    (h : (c.add key value).Gains c' added) : c.Gains c' ((key, value) :: added) := by
  have hne : ∀ e ∈ added, e.1 ≠ key := by
    intro e he heq
    have hnone := h.free e he
    rw [heq, get?_add_self] at hnone
    exact absurd hnone (by simp)
  -- The keys added later were free beside the first one, so they differ from it.
  have hnew : key ∉ added.map Prod.fst := by
    intro hmem
    rcases List.mem_map.mp hmem with ⟨e, he, heq⟩
    exact hne e he heq
  refine ⟨List.nodup_cons.mpr ⟨hnew, h.distinct⟩, ?_, ?_, ?_⟩
  · intro e he
    rcases List.mem_cons.mp he with rfl | he
    · exact hfree
    · rw [← get?_add_of_ne c value (hne e he)]
      exact h.free e he
  · intro e he
    rcases List.mem_cons.mp he with rfl | he
    · rw [h.others _ hnew, get?_add_self]
    · exact h.there e he
  · intro other hother
    rw [List.map_cons, List.mem_cons, not_or] at hother
    rw [h.others other hother.2, get?_add_of_ne c value hother.1]

end Catalog

open Program Simulated Cloud

/-- What is kept of a failed suite: its thing as it is registered, and the name of its
    certificate. -/
structure Retained where
  thing : String
  device : Device
  certificate : String

/-- What is on record after a campaign: what was there before, untouched, and beside it
    the things that were kept, each with exactly its own certificate, which is active
    and carries the policy. -/
structure Disposition (things : Catalog String Device)
    (certificates : Catalog String StoredCertificate) (policy : String)
    (kept : List Retained) (after : Cloud) : Prop where
  things : things.Gains after.things (kept.map fun r => (r.thing, r.device))
  certificates : certificates.Gains after.certificates
    (kept.map fun r => (r.certificate, ⟨.active, [policy]⟩))
  attached : ∀ r ∈ kept, r.device.principals = [certificateArn r.certificate]

/-- The reports of a campaign, also of one that was broken off. -/
def reportsOf : Except SetupFailure Summary → List SuiteReport
  | .ok summary => summary.reports
  | .error failure => failure.completed.reports

/-- The things of the suites that are reported as failed. -/
def retainedThings (reports : List SuiteReport) : List (Option String) :=
  (reports.filter fun r => r.result.retains).map SuiteReport.thing

theorem retainedThings_concat (reports : List SuiteReport) (r : SuiteReport) :
    retainedThings (reports ++ [r]) =
      retainedThings reports ++ if r.result.retains then [r.thing] else [] := by
  unfold retainedThings
  rw [List.filter_append, List.map_append]
  cases hretains : r.result.retains <;> simp [hretains]

variable {T : Catalog String Device} {C : Catalog String StoredCertificate} {n : UInt32}
  {policy : String} {c : Cloud}

theorem Disposition.of_holds (h : c.Holds T C n) (policy : String) :
    Disposition T C policy [] c where
  things := h.things ▸ Catalog.Gains.refl _
  certificates := h.certificates ▸ Catalog.Gains.refl _
  attached := by simp

/-- What is kept of a suite is kept beside what is kept of the suites after it. -/
theorem Disposition.cons {name id : String} {dev : Device} {kept : List Retained}
    (hthing : T.get? name = none) (hcert : C.get? id = none)
    (hdev : dev.principals = [certificateArn id])
    (h : Disposition (T.add name dev) (C.add id ⟨.active, [policy]⟩) policy kept c) :
    Disposition T C policy (⟨name, dev, id⟩ :: kept) c where
  things := h.things.cons hthing
  certificates := h.certificates.cons hcert
  attached := by
    intro r hr
    rcases List.mem_cons.mp hr with rfl | hr
    · exact hdev
    · exact h.attached r hr

/-- Suites from any point on, with the reports made before. What is kept of them is
    what their reports say, in the same order. -/
theorem Simulated.Cloud.Holds.runSuites (s : RunSettings) (suites : List Suite)
    (reports : List SuiteReport) (h : c.Holds T C n) (hnew : Unissued C n.toNat)
    (hlimit : n.toNat + (suites.filter fun suite => !suite.disabled).length < UInt32.size) :
    Ensures behaviour (runSuites s reports suites) c fun outcome d =>
      ∃ kept, retainedThings (reportsOf outcome) =
          retainedThings reports ++ kept.map (fun r => some r.thing) ∧
        Disposition T C s.policyName kept d := by
  induction suites generalizing reports c T C n with
  | nil => exact ⟨[], (List.append_nil _).symm, .of_holds h _⟩
  | cons suite rest ih =>
      unfold Qualifier.runSuites
      by_cases hdisabled : suite.disabled
      · rw [List.filter_cons_of_neg (by simpa using hdisabled)] at hlimit
        rw [if_pos hdisabled]
        refine (ih _ h hnew hlimit).mono fun outcome d hd => ?_
        rwa [retainedThings_concat, if_neg (by simp [SuiteResult.retains]),
          List.append_nil] at hd
      · rw [List.filter_cons_of_pos (by simpa using hdisabled), List.length_cons] at hlimit
        have hsucc := toNat_succ (n := n) (by omega)
        have hcert := hnew.get?_next (by omega)
        rw [if_neg hdisabled]
        -- A setup that fails breaks the campaign off with the records it found.
        refine (h.runSuite hcert s suite).attempt ?_ ?_
        · rintro cause d (hd | hd)
          · exact ⟨[], (List.append_nil _).symm, .of_holds hd _⟩
          · exact ⟨[], (List.append_nil _).symm, .of_holds hd _⟩
        · rintro report d ⟨name, hthing, hdone⟩
          cases hretains : report.result.retains with
          | false =>
              refine (ih _ (hdone.2 hretains) (hnew.mono (by omega)) (by omega)).mono ?_
              intro outcome d' hd'
              rwa [retainedThings_concat, if_neg (by simp [hretains]), List.append_nil] at hd'
          | true =>
              -- The suites to come start from records with the kept entries in them.
              rcases hdone.1 hretains with ⟨hfree, dev, hdev, hd⟩
              have hnew' : Unissued (C.add (certificateId (n + 1).toNat)
                  ⟨.active, [s.policyName]⟩) (n + 1).toNat := by
                rw [← Catalog.insert_eq_add hcert, hsucc]
                exact hnew.insert _
              refine (ih _ hd hnew' (by omega)).mono ?_
              rintro outcome d' ⟨kept, hkept, hleft⟩
              refine ⟨⟨name, dev, _⟩ :: kept, ?_, hleft.cons hfree hcert hdev⟩
              rw [hkept, retainedThings_concat, if_pos hretains, hthing, List.append_assoc]
              rfl

/-- After a campaign, broken off or not, the records are those from before together
    with the things of the suites reported as failed and their certificates. -/
theorem runCampaign_disposition {τ : Type} (w : World τ) (cloud : τ → Cloud)
    (hcloud : w.Admits cloud behaviour) (s : RunSettings) (file : SuiteFile) (before : τ)
    (hnew : Unissued (cloud before).certificates (cloud before).issued.toNat)
    (hlimit : (cloud before).issued.toNat + file.enabled.length < UInt32.size)
    (hclears : (cloud before).ClearsFreely) :
    ∃ kept, retainedThings (reportsOf ((runCampaign s file).run w before).1) =
        kept.map (fun r => some r.thing) ∧
      Disposition (cloud before).things (cloud before).certificates s.policyName kept
        (cloud ((runCampaign s file).run w before).2) := by
  have hholds : (cloud before).Holds (cloud before).things (cloud before).certificates
      (cloud before).issued := ⟨rfl, rfl, rfl, hclears⟩
  rcases run_of_ensures hcloud (hholds.runSuites s file.suites [] hnew hlimit) with
    ⟨kept, hkept, hleft⟩
  exact ⟨kept, hkept, hleft⟩

/-- Settings for a campaign of short watches. -/
def briefSettings : RunSettings where
  policyName := "policy"
  thingGroup := none
  thingNamePrefix := "thing-"
  certificatePath := ⟨"cert"⟩
  keyPath := ⟨"key"⟩
  logDirectory := ⟨"logs"⟩
  logBucket := none
  poll := ⟨.ofSeconds 1, .ofSeconds 1, 3⟩
  companionTimeout := .ofSeconds 1
  shadow := none

def twoSuites : SuiteFile :=
  ⟨[⟨"first", "suite-1", false, ⟨"device", [], none⟩⟩,
    ⟨"second", "suite-2", false, ⟨"device", [], none⟩⟩]⟩

/-- A test bench on which one run fails and the next one passes. -/
def mixedBench : Bench Cloud where
  service := (Cloud.new.pushRun (.ok ⟨.fail, []⟩)).pushRun (.ok ⟨.pass, []⟩)
  files := ⟨.empty, []⟩
  companions := ⟨[], []⟩
  clock := ⟨[], []⟩
  names := ["a", "b"]

/-- Of two suites, only the one that failed leaves its thing. -/
theorem runCampaign_disposition_mixed :
    ∃ kept : List Retained, kept.map (fun r => some r.thing) = [some "thing-a"] ∧
      Disposition .empty .empty "policy" kept
        ((runCampaign briefSettings twoSuites).run (Bench.world Cloud.service)
          mixedBench).2.service := by
  have hthings : retainedThings (reportsOf ((runCampaign briefSettings twoSuites).run
      (Bench.world Cloud.service) mixedBench).1) = [some "thing-a"] := by decide +kernel
  have hclears : mixedBench.service.ClearsFreely := by
    intro op _ entry hentry
    exact absurd hentry List.not_mem_nil
  rcases runCampaign_disposition (Bench.world Cloud.service) Bench.service admits_service
    briefSettings twoSuites mixedBench (fun _ _ => rfl) (by decide) hclears with
    ⟨kept, hkept, hleft⟩
  exact ⟨kept, hkept.symm.trans hthings, hleft⟩

end Qualifier
