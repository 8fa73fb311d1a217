import Qualifier.Campaign.Run
import Qualifier.Proofs.Identity.Setup
import Qualifier.Proofs.Outside.Moments

/-!
# What a Suite Leaves on Record

One suite between its setup and its clean-up, as far as the records of the registry
are concerned. From the end of the setup on, the suite's thing and certificate are on
record beside everything else (`Equipped`), and nothing that is done to exercise the
suite changes that: the shadow of its thing may be set, and all the rest is `quiet`.
Only a teardown takes them away again, and whether there is one is decided by the
result that is reported.

## Main definitions

* `Quiet`, `Blind`: Programs that do nothing to the records, and see nothing of them.
* `Calm`: Programs that launch nothing besides.
* `Equipped`: The thing and the certificate of a suite are on record.
* `SuiteResult.retains`: The results that keep them there.
* `Concluded`: They are kept or gone, as the result says.

## Theorems

* `only_watchFrom`: What a watch asks for.
* `keepUrl_asks`, `removeCredentials_asks`: What two programs ask for, both of them calm.
* `only_startAndWatch`: One that is quiet.
* `Equipped.exercise`: Exercising a suite keeps it equipped.
* `Equipped.conclude`, `Equipped.settle`: What the end of a suite leaves.
* `Holds.runSuite`: A whole suite.
-/

namespace Qualifier

open Program Simulated Cloud

/-- A quiet program asks nothing that has to do with the records. -/
abbrev Quiet {α : Type} (p : Program α) : Prop :=
  Only (fun q => quiet q = true) p

/-- A blind program is not even given an answer that has to do with them. -/
abbrev Blind {α : Type} (p : Program α) : Prop :=
  Only (fun q => blind q = true) p

theorem Blind.quiet {α : Type} {p : Program α} (hp : Blind p) : Quiet p :=
  hp.mono fun _ => quiet_of_blind

/-- A calm program is blind and launches nothing. -/
abbrev Calm {α : Type} (p : Program α) : Prop :=
  Only (fun q => blind q = true ∧ q.isLaunch = false) p

theorem Calm.blind {α : Type} {p : Program α} (hp : Calm p) : Blind p :=
  hp.mono fun _ => And.left

theorem Calm.launchless {α : Type} {p : Program α} (hp : Calm p) : Launchless p :=
  hp.mono fun _ => And.right

/-- A watch waits, looks at the run and launches the companion, and does nothing else. -/
theorem only_watchFrom (policy : Policy) (job : Job) (invocation : Invocation) {P : Ask → Prop}
    (hpause : P (.pause policy)) (hlook : P (.service (.getSuiteRun job)))
    (hlaunch : P (.launch invocation)) (left count : Nat) (companion : CompanionState) :
    Only P (watchFrom policy job invocation left count companion) := by
  induction left generalizing count companion with
  | zero => trivial
  | succ left ih =>
      refine only_question_bind hpause fun _ => ?_
      refine only_question_bind hlook fun answer => ?_
      split
      · split
        · exact ih _ _
        · trivial
      · split
        · trivial
        · exact only_question_bind hlaunch fun _ => ih _ _
        · exact ih _ _
        · exact ih _ _

theorem only_watch (policy : Policy) (job : Job) (invocation : Invocation) :
    Blind (watch policy job invocation) := by
  refine only_watchFrom policy job invocation ?_ ?_ ?_ _ _ _ <;> rfl

/-- To start a run is quiet, but it is answered from the records. -/
theorem only_startAndWatch (s : RunSettings) (suite : Suite) (identity : Identity)
    {P : Ask → Prop} (hblind : ∀ q, blind q = true → P q)
    (hstart : P (.service (.startSuiteRun suite.suiteId identity.thingArn))) :
    Only P (startAndWatch s suite identity) := by
  refine only_question_bind (hblind _ rfl) fun _ => ?_
  refine only_question_bind hstart fun started => ?_
  split
  · trivial
  · refine only_question_bind (hblind _ rfl) fun endpoint => ?_
    split
    · trivial
    · refine ((only_watch _ _ _).mono hblind).bind fun watched => ?_
      split <;> trivial

theorem quiet_startAndWatch (s : RunSettings) (suite : Suite) (identity : Identity) :
    Quiet (startAndWatch s suite identity) :=
  only_startAndWatch s suite identity (fun _ => quiet_of_blind) rfl

/-- A log is fetched, written, uploaded and removed. -/
theorem keepUrl_asks {P : Ask → Prop}
    (hfetch : ∀ group stream, P (.service (.getLogEvents group stream)))
    (hwrite : ∀ path text, P (.write path text))
    (hupload : ∀ path bucket key, P (.service (.upload path bucket key)))
    (hremove : ∀ path, P (.remove path)) (a : Archive) (url : Option String) (thing : String) :
    Only P (a.keepUrl url thing) := by
  unfold Archive.keepUrl
  split
  · trivial
  split
  · trivial
  refine only_question_bind (hfetch _ _) fun events => ?_
  split
  · trivial
  refine only_question_bind (hwrite _ _) fun written => ?_
  split
  · trivial
  split
  · trivial
  refine only_question_bind (hupload _ _ _) fun uploaded => ?_
  split
  · trivial
  · exact only_question_bind (hremove _) fun _ => trivial

theorem only_keepUrl (a : Archive) (url : Option String) (thing : String) :
    Calm (a.keepUrl url thing) :=
  keepUrl_asks (fun _ _ => ⟨rfl, rfl⟩) (fun _ _ => ⟨rfl, rfl⟩) (fun _ _ _ => ⟨rfl, rfl⟩)
    (fun _ => ⟨rfl, rfl⟩) a url thing

theorem removeCredentials_asks {P : Ask → Prop} (hremove : ∀ path, P (.remove path))
    (certificatePath keyPath : Path) : Only P (removeCredentials certificatePath keyPath) := by
  refine only_question_bind (hremove _) fun certificate => ?_
  refine only_question_bind (hremove _) fun key => ?_
  split <;> trivial

theorem only_removeCredentials (certificatePath keyPath : Path) :
    Calm (removeCredentials certificatePath keyPath) :=
  removeCredentials_asks (fun _ => ⟨rfl, rfl⟩) certificatePath keyPath

/-- The thing and the certificate of a suite are on record beside what was there
    before: the thing was new, and all that is attached to it is the certificate, which
    is active and carries the policy. -/
def Equipped (T : Catalog String Device) (C : Catalog String StoredCertificate) (n : UInt32)
    (policy name : String) (d : Cloud) : Prop :=
  T.get? name = none ∧
    ∃ dev : Device, dev.principals = [certificateArn (certificateId (n + 1).toNat)] ∧
      d.Holds (T.add name dev) (C.add (certificateId (n + 1).toNat) ⟨.active, [policy]⟩) (n + 1)

/-- Whether a suite that ended so keeps its thing. -/
def SuiteResult.retains : SuiteResult → Bool
  | .failed _ _ => true
  | _ => false

/-- The thing and the certificate are kept or gone, as the result says. -/
def Concluded (T : Catalog String Device) (C : Catalog String StoredCertificate) (n : UInt32)
    (policy name : String) (result : SuiteResult) (d : Cloud) : Prop :=
  (result.retains = true → Equipped T C n policy name d) ∧
    (result.retains = false → d.Holds T C (n + 1))

variable {T : Catalog String Device} {C : Catalog String StoredCertificate} {n : UInt32}
  {policy name : String} {c : Cloud}

theorem Simulated.Cloud.Holds.of_quiet {α : Type} {p : Program α} (h : c.Holds T C n)
    (hp : Quiet p) : Ensures behaviour p c fun _ d => d.Holds T C n :=
  ensures_of_only (fun _ hq _ hs => Holds.quiet hs hq) hp h

theorem Equipped.of_quiet {α : Type} {p : Program α} (h : Equipped T C n policy name c)
    (hp : Quiet p) : Ensures behaviour p c fun _ d => Equipped T C n policy name d := by
  rcases h with ⟨hfree, dev, hdev, h⟩
  exact (h.of_quiet hp).mono fun _ _ hd => ⟨hfree, dev, hdev, hd⟩

/-- A teardown takes away the thing and its certificate, and nothing else. -/
theorem Equipped.deprovision (h : Equipped T C n policy name c)
    (hcert : C.get? (certificateId (n + 1).toNat) = none) :
    Ensures behaviour (deprovision name) c fun _ d => d.Holds T C (n + 1) := by
  rcases h with ⟨hfree, dev, hdev, h⟩
  exact h.deprovision_attached hfree hcert (slash_not_mem_certificateId _) hdev

/-- A suite stays equipped while it is exercised. Only the shadow of its thing may
    change. -/
theorem Equipped.exercise (h : Equipped T C n policy name c) (s : RunSettings) (suite : Suite)
    (identity : Identity) (hname : identity.thingName = name) :
    Ensures behaviour (exercise s suite identity) c fun _ d => Equipped T C n policy name d := by
  unfold Qualifier.exercise
  rcases s.shadow with _ | ⟨property, value⟩
  · exact h.of_quiet (quiet_startAndWatch s suite identity)
  · have hseed : Ensures behaviour (seedShadow identity.thingName property value) c
        fun _ d => Equipped T C n policy name d := by
      rcases h with ⟨hfree, dev, hdev, h⟩
      rw [hname]
      refine (h.updateShadow hfree _).attempt ?_ ?_
      · intro cause d hd
        exact ⟨hfree, dev, hdev, hd⟩
      · intro _ d hd
        refine ⟨hfree, _, ?_, hd⟩
        exact hdev
    -- Seeded or not, the suite is equipped; what is left to do is quiet.
    refine hseed.bind fun answer d hd => ?_
    cases answer with
    | error cause => exact hd
    | ok _ => exact hd.of_quiet (quiet_startAndWatch s suite identity)

theorem SuiteFailure.result_retains (failure : SuiteFailure) : failure.result.retains = false := by
  unfold SuiteFailure.result
  split <;> rfl

/-- A suite that came to an end is taken down if it passed, and kept if it did not. -/
theorem Equipped.conclude (h : Equipped T C n policy name c)
    (hcert : C.get? (certificateId (n + 1).toNat) = none) (s : RunSettings)
    (identity : Identity) (hname : identity.thingName = name) (report : PollReport) :
    Ensures behaviour (conclude s identity report) c fun result d =>
      Concluded T C n policy name result d := by
  unfold Qualifier.conclude
  cases Verdict.ofStatus report.status with
  | passed =>
      rw [hname]
      refine (h.deprovision hcert).bind fun _ d hd => ?_
      exact ⟨fun hno => absurd hno Bool.false_ne_true, fun _ => hd⟩
  | failed =>
      refine (h.of_quiet (only_keepUrl _ _ _).blind.quiet).bind fun _ d hd => ?_
      exact ⟨fun _ => hd, fun hno => absurd hno.symm Bool.false_ne_true⟩

/-- A suite that did not come to an end is taken down. -/
theorem Equipped.settle (h : Equipped T C n policy name c)
    (hcert : C.get? (certificateId (n + 1).toNat) = none) (s : RunSettings)
    (identity : Identity) (hname : identity.thingName = name)
    (outcome : Except SuiteFailure PollReport) :
    Ensures behaviour (settle s identity outcome) c fun result d =>
      Concluded T C n policy name result d := by
  cases outcome with
  | ok report => exact h.conclude hcert s identity hname report
  | error failure =>
      unfold Qualifier.settle
      rw [hname]
      refine (h.deprovision hcert).bind fun _ d hd => ?_
      refine ⟨fun hyes => ?_, fun _ => hd⟩
      rw [failure.result_retains] at hyes
      exact absurd hyes Bool.false_ne_true

/-- Removing the credential files is no concern of the records. -/
theorem Concluded.removeCredentials {result : SuiteResult}
    (h : Concluded T C n policy name result c) (certificatePath keyPath : Path) :
    Ensures behaviour (removeCredentials certificatePath keyPath) c fun _ d =>
      Concluded T C n policy name result d := by
  -- Only one half of what is known applies, and the removal does not change which.
  cases hretains : result.retains with
  | true =>
      refine ((h.1 hretains).of_quiet (only_removeCredentials _ _).blind.quiet).mono fun _ d hd => ?_
      exact ⟨fun _ => hd, fun hno => absurd (hretains.symm.trans hno) (by simp)⟩
  | false =>
      refine ((h.2 hretains).of_quiet (only_removeCredentials _ _).blind.quiet).mono fun _ d hd => ?_
      exact ⟨fun hno => absurd (hretains.symm.trans hno) (by simp), fun _ => hd⟩

/-- A suite leaves the records as they were, but for the thing and the certificate of
    a suite that is reported as failed. -/
theorem Simulated.Cloud.Holds.runSuite (h : c.Holds T C n)
    (hcert : C.get? (certificateId (n + 1).toNat) = none) (s : RunSettings) (suite : Suite) :
    Ensures behaviour (runSuite s suite) c
      (Attempt (fun _ d => d.Holds T C n ∨ d.Holds T C (n + 1)) fun report d =>
        ∃ name, report.thing = some name ∧
          Concluded T C n s.policyName name report.result d) := by
  refine (h.quiet rfl).bind fun fresh d hd => ?_
  refine (hd.provision hcert _).attempt (fun cause d hd => hd) ?_
  rintro identity d ⟨hfree, rfl, hd⟩
  have hequipped : Equipped T C n s.policyName (s.thingNamePrefix ++ fresh) d :=
    ⟨hfree, _, rfl, hd⟩
  refine (hequipped.exercise s suite _ rfl).bind fun outcome d hd => ?_
  refine (hd.settle hcert s _ rfl outcome).bind fun result d hd => ?_
  refine (hd.removeCredentials _ _).bind fun _ d hd => ?_
  exact ⟨_, rfl, hd⟩

end Qualifier
