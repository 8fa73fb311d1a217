import Qualifier.Proofs.Campaign.Launches
import Qualifier.Proofs.Identity.Words

/-!
# The Call Protocol of a Campaign

The operations that a campaign calls, in the order in which it may call them. Each enabled
suite that is attempted has a word of its own, and the campaign calls these words one after
the other, in the order of the file. A suite that could not be set up has the last one.

What the word of a suite is depends on how the suite ended, and `SuiteWord` lists the ways:
one constructor for each place where a suite may end early, with the operations up to that
place and what follows them, and one for each way in which a watch may end. A suite is taken
down after all of them but a failure that its own run reports, and then the only calls left
are those that keep its log.

The watch has no words of its own to be worked out here, as its conversations are known to be
rounds of one look each (`trace_watch`).

## Main definitions

* `watchedWord`: A suite up to some look at its run.
* `EvidenceWord`: The words of an export.
* `SuiteWord`: The words of a suite, by how it ended.
* `CampaignWord`: The words of a campaign, with its reports.

## Theorems

* `spells_watch`, `spells_exercise`, `spells_settle`: The stages of a suite.
* `spells_runSuite`: What one suite calls.
* `spells_runSuites`: What several suites call.
* `runCampaign_protocol`: The list of calls after a campaign.
-/

namespace Qualifier

open Program Simulated

/-- The part for the shadow, if there is one to be set. -/
def shadowWord (shadow : Option (String × String)) : List Operation :=
  if shadow.isSome then [.updateShadow] else []

/-- A suite from its setup to some look at its run. -/
def watchedWord (s : RunSettings) (looks : Nat) : List Operation :=
  setupWord s.thingGroup ++ shadowWord s.shadow ++ [.startSuiteRun, .getEndpoint] ++
    List.replicate looks .getSuiteRun

/-- The words of an export: there may be no log to be found, and only what was fetched is
    uploaded, if there is a bucket. -/
inductive EvidenceWord (bucket : Option String) : List Operation → Prop
  | unknown : EvidenceWord bucket []
  | fetched : EvidenceWord bucket [.getLogEvents]
  | uploaded (hbucket : bucket.isSome = true) : EvidenceWord bucket [.getLogEvents, .upload]

/-- The words of a suite, by how it ended: with a failure of its setup, before the watch, or
    with the watch. -/
inductive SuiteWord (s : RunSettings) : Except ProvisionError SuiteResult → List Operation → Prop
  | broken {cause : ProvisionError} {word : List Operation}
      (h : SetupBroken s.thingGroup cause word) : SuiteWord s (.error cause) word
  | unseeded (cause : ProvisionError) {down : List Operation} (hshadow : s.shadow.isSome = true)
      (hdown : TeardownWord down) :
      SuiteWord s (.ok (.errored cause.message))
        (setupWord s.thingGroup ++ [.updateShadow] ++ down)
  | unstarted (cause : ServiceError) {down : List Operation} (hdown : TeardownWord down) :
      SuiteWord s (.ok (.errored (SuiteFailure.start cause).message))
        (setupWord s.thingGroup ++ shadowWord s.shadow ++ [.startSuiteRun] ++ down)
  | unlocated (cause : ServiceError) {down : List Operation} (hdown : TeardownWord down) :
      SuiteWord s (.ok (.errored (SuiteFailure.endpoint cause).message))
        (setupWord s.thingGroup ++ shadowWord s.shadow ++ [.startSuiteRun, .getEndpoint] ++ down)
  | timedOut {down : List Operation} (hdown : TeardownWord down) :
      SuiteWord s (.ok (.timedOut s.poll.cycles.toNat))
        (watchedWord s s.poll.cycles.toNat ++ down)
  | lost (runId : String) (cause : ServiceError) {looks : Nat} {down : List Operation}
      (hfirst : 1 ≤ looks) (hbudget : looks ≤ s.poll.cycles.toNat) (hdown : TeardownWord down) :
      SuiteWord s (.ok (.errored (PollError.query runId cause).message))
        (watchedWord s looks ++ down)
  | passed {status : RunStatus} {looks : Nat} {down : List Operation}
      (hstatus : status.isSuccess = true) (hfirst : 1 ≤ looks)
      (hbudget : looks ≤ s.poll.cycles.toNat) (hdown : TeardownWord down) :
      SuiteWord s (.ok (.passed status)) (watchedWord s looks ++ down)
  | failed {status : RunStatus} {log : Option String} {looks : Nat} {evidence : List Operation}
      (hended : status.isInProgress = false) (hstatus : status.isSuccess = false)
      (hfirst : 1 ≤ looks) (hbudget : looks ≤ s.poll.cycles.toNat)
      (hevidence : EvidenceWord s.logBucket evidence) :
      SuiteWord s (.ok (.failed status log)) (watchedWord s looks ++ evidence)

/-- The words of a campaign, with the reports it makes of its suites and the suite that broke
    it off, if there is one. A suite that is disabled is not attempted, and after one that
    could not be set up none is. -/
inductive CampaignWord (s : RunSettings) :
    List Suite → List SuiteReport → Option (String × ProvisionError) → List Operation → Prop
  | done : CampaignWord s [] [] none []
  | skipped {suite : Suite} {rest : List Suite} {reports : List SuiteReport}
      {broken : Option (String × ProvisionError)} {words : List Operation}
      (hdisabled : suite.disabled = true) (h : CampaignWord s rest reports broken words) :
      CampaignWord s (suite :: rest) (⟨suite.name, none, .skipped⟩ :: reports) broken words
  | attempted {suite : Suite} {rest : List Suite} {report : SuiteReport}
      {reports : List SuiteReport} {broken : Option (String × ProvisionError)}
      {word words : List Operation} (henabled : suite.disabled = false)
      (hname : report.name = suite.name) (hword : SuiteWord s (.ok report.result) word)
      (h : CampaignWord s rest reports broken words) :
      CampaignWord s (suite :: rest) (report :: reports) broken (word ++ words)
  | broken {suite : Suite} {rest : List Suite} {cause : ProvisionError} {word : List Operation}
      (henabled : suite.disabled = false) (hword : SuiteWord s (.error cause) word) :
      CampaignWord s (suite :: rest) [] (some (suite.name, cause)) word

/-! ## The stages of a suite -/

/-- The number of looks with which a watch may end as it did. -/
def Looked (policy : Policy) (looks : Nat) : Except PollError PollReport → Prop
  | .error (.timeout _ cycles _ _) => looks = policy.cycles.toNat ∧ cycles = looks
  | .error (.query _ _) => 1 ≤ looks ∧ looks ≤ policy.cycles.toNat
  | .ok report =>
    1 ≤ looks ∧ looks ≤ policy.cycles.toNat ∧ report.status.isInProgress = false

theorem looked_of_scanned {policy : Policy} {job : Job} {looks : List Look}
    {result : Except PollError PollReport}
    (h : Scanned policy job policy.cycles.toNat 0 looks result) :
    Looked policy looks.length result := by
  rcases h.cases with ⟨before, look, rfl, hbudget, -, hlook, hend⟩ | ⟨hlength, -, rfl⟩
  · rw [List.length_append, List.length_singleton]
    cases look with
    | error cause =>
        rw [show result = _ from hend]
        exact ⟨Nat.le_add_left _ _, hbudget⟩
    | ok snapshot =>
        rcases hend with ⟨report, rfl, hstatus, -, -⟩
        refine ⟨Nat.le_add_left _ _, hbudget, ?_⟩
        simpa only [Look.decides_ok, hstatus, Bool.not_eq_true'] using hlook
  · rw [Nat.zero_add]
    exact ⟨hlength, hlength.symm⟩

theorem operationsIn_withoutLaunches (talk : List Exchange) :
    operationsIn (withoutLaunches talk) = operationsIn talk := by
  induction talk with
  | nil => rfl
  | cons e talk ih =>
      rcases e with ⟨q, answer⟩
      cases q with
      | service r => exact congrArg (r.operation :: ·) ih
      | _ => exact ih

theorem operationsIn_rounds (policy : Policy) (job : Job) (looks : List Look) :
    operationsIn (rounds policy job looks) = List.replicate looks.length .getSuiteRun := by
  induction looks with
  | nil => rfl
  | cons look looks ih => exact congrArg (Operation.getSuiteRun :: ·) ih

theorem spells_watch (policy : Policy) (job : Job) (invocation : Invocation) :
    Spells (watch policy job invocation) fun word result =>
      ∃ looks, word = List.replicate looks .getSuiteRun ∧ Looked policy looks result := by
  intro talk result htrace
  rcases trace_watch htrace with ⟨looks, hrounds, hscan⟩
  refine ⟨looks.length, ?_, looked_of_scanned hscan⟩
  rw [← operationsIn_withoutLaunches, hrounds, operationsIn_rounds]

/-- The words of a suite from the start of its run on, by how its watch ended. -/
inductive Watched (policy : Policy) : Except SuiteFailure PollReport → List Operation → Prop
  | unstarted (cause : ServiceError) : Watched policy (.error (.start cause)) [.startSuiteRun]
  | unlocated (cause : ServiceError) :
      Watched policy (.error (.endpoint cause)) [.startSuiteRun, .getEndpoint]
  | failed {cause : PollError} {looks : Nat} (hlooks : Looked policy looks (.error cause)) :
      Watched policy (.error (.poll cause))
        ([.startSuiteRun, .getEndpoint] ++ List.replicate looks .getSuiteRun)
  | ended {seen : PollReport} {looks : Nat} (hlooks : Looked policy looks (.ok seen)) :
      Watched policy (.ok seen)
        ([.startSuiteRun, .getEndpoint] ++ List.replicate looks .getSuiteRun)

theorem spells_startAndWatch (s : RunSettings) (suite : Suite) (identity : Identity) :
    Spells (startAndWatch s suite identity) fun word outcome => Watched s.poll outcome word := by
  unfold startAndWatch
  refine spells_aside_bind rfl fun _ => spells_request_bind fun answer => ?_
  cases answer with
  | error cause => exact spells_pure (.unstarted cause)
  | ok job =>
      refine spells_request_bind fun answer => ?_
      cases answer with
      | error cause => exact spells_pure (.unlocated cause)
      | ok endpoint =>
          refine (spells_watch _ _ _).bind ?_
          rintro _ watched ⟨looks, rfl, hlooks⟩
          cases watched with
          | error cause =>
              refine spells_pure ?_
              rw [List.append_nil]
              exact .failed hlooks
          | ok seen =>
              refine spells_pure ?_
              rw [List.append_nil]
              exact .ended hlooks

/-- The words of a suite on an identity, by how its watch ended. -/
inductive Exercised (s : RunSettings) : Except SuiteFailure PollReport → List Operation → Prop
  | unseeded (cause : ProvisionError) (hshadow : s.shadow.isSome = true) :
      Exercised s (.error (.shadow cause)) [.updateShadow]
  | watched {outcome : Except SuiteFailure PollReport} {word : List Operation}
      (h : Watched s.poll outcome word) : Exercised s outcome (shadowWord s.shadow ++ word)

theorem spells_exercise (s : RunSettings) (suite : Suite) (identity : Identity) :
    Spells (exercise s suite identity) fun word outcome => Exercised s outcome word := by
  have hwatched := spells_startAndWatch s suite identity
  unfold exercise
  cases hshadow : s.shadow with
  | none =>
      refine hwatched.mono fun word outcome h => ?_
      have hexercised := Exercised.watched (s := s) h
      rwa [hshadow] at hexercised
  | some shadow =>
      rcases shadow with ⟨property, value⟩
      have hseed : Spells (seedShadow identity.thingName property value) fun word _ =>
          word = [.updateShadow] := by
        refine spells_request_bind fun answer => ?_
        cases answer <;> exact spells_pure rfl
      refine hseed.bind ?_
      rintro _ seeded rfl
      cases seeded with
      | error cause => exact spells_pure (.unseeded cause (hshadow ▸ rfl))
      | ok _ =>
          refine hwatched.mono fun word outcome h => ?_
          have hexercised := Exercised.watched (s := s) h
          rwa [hshadow] at hexercised

theorem spells_keepUrl (a : Archive) (url : Option String) (thing : String) :
    Spells (a.keepUrl url thing) fun word _ => EvidenceWord a.bucket word := by
  unfold Archive.keepUrl
  cases url with
  | none => exact spells_pure .unknown
  | some url =>
      dsimp only
      cases LogReference.parse? url with
      | none => exact spells_pure .unknown
      | some reference =>
          refine spells_request_bind fun answer => ?_
          cases answer with
          | error cause => exact spells_pure .fetched
          | ok events =>
              refine spells_aside_bind rfl fun answer => ?_
              cases answer with
              | error cause => exact spells_pure .fetched
              | ok _ =>
                  dsimp only
                  cases hbucket : a.bucket with
                  | none => exact spells_pure .fetched
                  | some bucket =>
                      refine spells_request_bind fun answer => ?_
                      cases answer with
                      | error cause => exact spells_pure (.uploaded rfl)
                      | ok _ =>
                          exact spells_aside_bind rfl fun _ => spells_pure (.uploaded rfl)

/-- What follows a watch: a teardown, unless the run failed by its own report. -/
inductive Aftermath (s : RunSettings) :
    Except SuiteFailure PollReport → SuiteResult → List Operation → Prop
  | unfinished (failure : SuiteFailure) {down : List Operation} (hdown : TeardownWord down) :
      Aftermath s (.error failure) failure.result down
  | passed {seen : PollReport} {down : List Operation} (hstatus : seen.status.isSuccess = true)
      (hdown : TeardownWord down) : Aftermath s (.ok seen) (.passed seen.status) down
  | failed {seen : PollReport} (log : Option String) {evidence : List Operation}
      (hstatus : seen.status.isSuccess = false) (hevidence : EvidenceWord s.logBucket evidence) :
      Aftermath s (.ok seen) (.failed seen.status log) evidence

theorem spells_settle (s : RunSettings) (identity : Identity)
    (outcome : Except SuiteFailure PollReport) :
    Spells (settle s identity outcome) fun word result => Aftermath s outcome result word := by
  cases outcome with
  | error failure =>
      refine (spells_deprovision identity.thingName).bind fun down _ hdown => spells_pure ?_
      rw [List.append_nil]
      exact .unfinished failure hdown
  | ok seen =>
      rw [settle, conclude, Verdict.ofStatus]
      cases hstatus : seen.status.isSuccess with
      | true =>
          refine (spells_deprovision identity.thingName).bind fun down _ hdown => spells_pure ?_
          rw [List.append_nil]
          exact .passed hstatus hdown
      | false =>
          refine (spells_keepUrl s.archive seen.logUrl identity.thingName).bind
            fun evidence exported hevidence => spells_pure ?_
          rw [List.append_nil]
          exact .failed _ hstatus hevidence

/-! ## Suites and campaigns -/

/-- A suite that was set up ends in one of the ways there are. -/
theorem suiteWord_of_aftermath {s : RunSettings} {outcome : Except SuiteFailure PollReport}
    {result : SuiteResult} {tried after : List Operation} (htried : Exercised s outcome tried)
    (hafter : Aftermath s outcome result after) :
    SuiteWord s (.ok result) (setupWord s.thingGroup ++ (tried ++ after)) := by
  rw [← List.append_assoc]
  cases htried with
  | unseeded cause hshadow =>
      cases hafter with
      | unfinished _ hdown => exact .unseeded cause hshadow hdown
  | watched hwatched =>
      rw [← List.append_assoc]
      cases hwatched with
      | unstarted cause =>
          cases hafter with
          | unfinished _ hdown => exact .unstarted cause hdown
      | unlocated cause =>
          cases hafter with
          | unfinished _ hdown => exact .unlocated cause hdown
      | @failed cause looks hlooks =>
          rw [← List.append_assoc]
          cases hafter with
          | unfinished _ hdown =>
              cases cause with
              | timeout runId cycles least most =>
                  rcases hlooks with ⟨rfl, rfl⟩
                  exact .timedOut hdown
              | query runId cause => exact .lost runId cause hlooks.1 hlooks.2 hdown
      | ended hlooks =>
          rw [← List.append_assoc]
          rcases hlooks with ⟨hfirst, hbudget, hended⟩
          cases hafter with
          | passed hstatus hdown => exact .passed hstatus hfirst hbudget hdown
          | failed log hstatus hevidence =>
              exact .failed hended hstatus hfirst hbudget hevidence

theorem spells_runSuite (s : RunSettings) (suite : Suite) :
    Spells (runSuite s suite) fun word ending =>
      SuiteWord s (ending.map SuiteReport.result) word ∧
        ∀ report, ending = .ok report → report.name = suite.name := by
  unfold runSuite
  refine spells_aside_bind rfl fun fresh => ?_
  refine (spells_provision _).bind fun setup provided hsetup => ?_
  cases provided with
  | error cause =>
      refine spells_pure ⟨?_, fun _ h => absurd h (by simp)⟩
      rw [List.append_nil]
      exact .broken (hsetup.2 cause rfl)
  | ok identity =>
      rw [hsetup.1 identity rfl]
      refine (spells_exercise s suite identity).bind fun tried outcome htried => ?_
      refine (spells_settle s identity outcome).bind fun after result hafter => ?_
      refine (spells_removeCredentials _ _).bind ?_
      rintro _ _ rfl
      refine spells_pure ⟨?_, ?_⟩
      · rw [List.append_nil, List.append_nil]
        exact suiteWord_of_aftermath htried hafter
      · rintro _ ⟨⟩
        rfl

/-- The suites still to come, after some were reported on. -/
theorem spells_runSuites (s : RunSettings) (suites : List Suite) :
    ∀ reports, Spells (runSuites s reports suites) fun word ending =>
      (∃ more, ending = .ok ⟨reports ++ more⟩ ∧ CampaignWord s suites more none word) ∨
      (∃ name cause more, ending = .error ⟨name, cause, ⟨reports ++ more⟩⟩ ∧
        CampaignWord s suites more (some (name, cause)) word) := by
  induction suites with
  | nil =>
      intro reports
      refine spells_pure (Or.inl ⟨[], ?_, .done⟩)
      rw [List.append_nil]
  | cons suite rest ih =>
      intro reports
      unfold runSuites
      by_cases hdisabled : suite.disabled = true
      · rw [if_pos hdisabled]
        refine (ih _).mono ?_
        rintro word _ (⟨more, rfl, hword⟩ | ⟨name, cause, more, rfl, hword⟩)
        · exact Or.inl ⟨_ :: more, by rw [List.append_assoc]; rfl, .skipped hdisabled hword⟩
        · exact Or.inr ⟨name, cause, _ :: more, by rw [List.append_assoc]; rfl,
            .skipped hdisabled hword⟩
      · rw [if_neg hdisabled]
        rw [Bool.not_eq_true] at hdisabled
        refine (spells_runSuite s suite).bind fun first ending hfirst => ?_
        cases ending with
        | error cause =>
            refine spells_pure (Or.inr ⟨suite.name, cause, [], by rw [List.append_nil], ?_⟩)
            rw [List.append_nil]
            exact .broken hdisabled hfirst.1
        | ok report =>
            refine (ih _).mono ?_
            rintro word _ (⟨more, rfl, hword⟩ | ⟨name, cause, more, rfl, hword⟩)
            · exact Or.inl ⟨report :: more, by rw [List.append_assoc]; rfl,
                .attempted hdisabled (hfirst.2 report rfl) hfirst.1 hword⟩
            · exact Or.inr ⟨name, cause, report :: more, by rw [List.append_assoc]; rfl,
                .attempted hdisabled (hfirst.2 report rfl) hfirst.1 hword⟩

/-- The list of calls after a campaign on the simulated services, whatever is queued in them
    and whatever the rest of the world does: what the campaign adds to it are the words of the
    suites that were attempted, in the order of the file, each as its report says the suite
    ended. -/
theorem runCampaign_protocol {τ : Type} (w : World τ) (cloud : τ → Cloud)
    (hcloud : w.Admits cloud Cloud.behaviour) (s : RunSettings) (file : SuiteFile) (start : τ) :
    let done := (runCampaign s file).run w start
    ∃ words, (cloud done.2).calls = (cloud start).calls ++ words ∧
      match done.1 with
      | .ok summary => CampaignWord s file.suites summary.reports none words
      | .error failure =>
        CampaignWord s file.suites failure.completed.reports
          (some (failure.suite, failure.cause)) words := by
  intro done
  rcases calls_run hcloud (spells_runSuites s file.suites []) start with
    ⟨words, hcalls, ⟨more, hending, hwords⟩ | ⟨name, cause, more, hending, hwords⟩⟩
  · refine ⟨words, hcalls, ?_⟩
    rw [show done.1 = _ from hending]
    exact hwords
  · refine ⟨words, hcalls, ?_⟩
    rw [show done.1 = _ from hending]
    exact hwords

/-- Both runs are seen to pass, the first one at the second look, the other at the first. -/
theorem runCampaign_protocol_running :
    let done := (runCampaign briefSettings twoSuites).run (Bench.world Cloud.service) runningBench
    (∃ reports, CampaignWord briefSettings twoSuites.suites reports none done.2.service.calls) ∧
      done.2.service.calls =
        watchedWord briefSettings 2 ++ .listPrincipals :: removals 1 ++
          (watchedWord briefSettings 1 ++ .listPrincipals :: removals 1) := by
  have hprotocol := runCampaign_protocol (Bench.world Cloud.service) Bench.service admits_service
    briefSettings twoSuites runningBench
  have hthrough : ((runCampaign briefSettings twoSuites).run (Bench.world Cloud.service)
      runningBench).1.isOk = true := by decide +kernel
  have hcalled : ((runCampaign briefSettings twoSuites).run (Bench.world Cloud.service)
      runningBench).2.service.calls =
        watchedWord briefSettings 2 ++ .listPrincipals :: removals 1 ++
          (watchedWord briefSettings 1 ++ .listPrincipals :: removals 1) := by decide +kernel
  generalize (runCampaign briefSettings twoSuites).run (Bench.world Cloud.service) runningBench
    = done at hprotocol hthrough hcalled ⊢
  refine ⟨?_, hcalled⟩
  rcases hprotocol with ⟨words, hcalls, hwords⟩
  obtain rfl : done.2.service.calls = words := hcalls
  rcases done with ⟨failure | summary, b⟩
  · exact absurd hthrough Bool.false_ne_true
  · exact ⟨summary.reports, hwords⟩

end Qualifier
