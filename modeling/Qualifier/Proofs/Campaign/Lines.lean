import Qualifier.CommandLine.Session
import Qualifier.Proofs.Campaign.Launches
import Qualifier.Proofs.Outside.Ensures
import Qualifier.Proofs.Text.Lines

/-!
# The Lines a Campaign Prints

A campaign prints a line for each suite, and one for the reason if it could not go on. Every
message is put together from fixed words and from texts that come from elsewhere, so it has a line
break exactly if one of these texts has (`flat_line_iff`, `SetupFailure.flat_message_iff`). Which
texts these are is followed through the program: the name of a suite comes from the suite file,
and all others are part of some answer, or of a path or a name that the settings make of it
(`RunSettings.echo`). If every answer only gives rise to texts of some kind (`RunSettings.heard`),
then only these are reported, which is proved stage by stage.

Nothing on these ways takes line breaks out. The name of a suite is whatever the file says, and
what a client says when it fails is trimmed at its ends only (`flat_classify_iff`). So a suite
may take several lines, and so may the reason of a failure (`runCampaign_breaks_lines`).

## Main definitions

* `ServiceError.texts` and the like: The texts from elsewhere in a message.
* `SuiteResult.Shows`, `SuiteReport.Shows`: The texts in what is reported of a suite.
* `RunSettings.echo`: The texts that may be reported on account of an answer.
* `RunSettings.heard`: Answers on account of which only texts of some kind are reported.
* `RunSettings.Told`: The texts that a run may report.
* `Summary.Printed`, `SetupFailure.Printed`: How reports and a failure are printed.

## Theorems

* `flat_line_iff`, `SetupFailure.flat_message_iff`: A line has a break only if a text in it has.
* `flat_classify_iff`: What a client said is told as it was said.
* `tells_provision`, `tells_exercise`, `tells_settle`, `tells_runSuite`: The stages of a suite.
* `tells_runSuites`: Where all texts come from.
* `runCampaign_lines`: The lines that are printed.
* `runCampaign_breaks_lines`: They may be more than the reports.
-/

namespace Qualifier

open Program Simulated Storage Text

/-! ## Texts in messages -/

/-- The texts in the wording of a fault. -/
def Storage.Fault.texts : Fault → List String
  | .other text => [text]
  | _ => []

theorem Storage.Fault.flat_message_iff (fault : Fault) :
    Flat fault.message ↔ ∀ t ∈ fault.texts, Flat t := by
  cases fault with
  | other text => simp [message, texts]
  | _ => exact iff_of_true (flat_ofList (by decide)) (by simp [texts])

/-- The texts in the wording of a failed access. -/
def Storage.FileError.texts : FileError → List String
  | .access path fault => path.text :: fault.texts
  | .missingFileName path => [path.text]

theorem Storage.FileError.flat_message_iff (e : FileError) :
    Flat e.message ↔ ∀ t ∈ e.texts, Flat t := by
  have hwords : Flat "failed to access " ∧ Flat ": " ∧ Flat " is missing a file name" := by
    and_intros <;> exact flat_ofList (by decide)
  unfold message
  cases e with
  | access path fault => simp [texts, hwords, fault.flat_message_iff]
  | missingFileName path => simp [texts, hwords]

/-- The texts in the wording of a failed start. -/
def SpawnFailure.texts (f : SpawnFailure) : List String :=
  [f.program, f.reason]

theorem SpawnFailure.flat_message_iff (f : SpawnFailure) :
    Flat f.message ↔ ∀ t ∈ f.texts, Flat t := by
  have hwords : Flat "failed to spawn " ∧ Flat ": " := by
    and_intros <;> exact flat_ofList (by decide)
  unfold message
  simp [texts, hwords]

/-- The texts in the wording of a failed call. -/
def ServiceError.texts : ServiceError → List String
  | .notFound operation detail => [operation, detail]
  | .transient operation detail => [operation, detail]
  | .rejected operation detail => [operation, detail]
  | .malformedResponse operation detail => [operation, detail]
  | .invocation operation cause => operation :: cause.texts

theorem ServiceError.flat_message_iff (e : ServiceError) :
    Flat e.message ↔ ∀ t ∈ e.texts, Flat t := by
  have hwords : Flat ": resource not found: " ∧ Flat ": transient failure: " ∧
      Flat ": request rejected: " ∧ Flat ": malformed response: " ∧ Flat ": " := by
    and_intros <;> exact flat_ofList (by decide)
  unfold message
  cases e <;> simp [texts, hwords, SpawnFailure.flat_message_iff]

/-- The texts in the wording of a failure in the life of an identity. -/
def ProvisionError.texts : ProvisionError → List String
  | .service _ thing cause => thing :: cause.texts
  | .credentials thing cause => thing :: cause.texts

theorem ProvisionError.flat_message_iff (e : ProvisionError) :
    Flat e.message ↔ ∀ t ∈ e.texts, Flat t := by
  have hwords : Flat "failed to " ∧ Flat " for " ∧ Flat ": " ∧
      Flat "failed to write credentials for " := by
    and_intros <;> exact flat_ofList (by decide)
  unfold message
  cases e with
  | service step thing cause =>
      have hlabel : Flat step.label := by cases step <;> exact flat_ofList (by decide)
      simp [texts, hwords, hlabel, cause.flat_message_iff]
  | credentials thing cause => simp [texts, hwords, cause.flat_message_iff]

/-- The texts in the wording of a poll error. -/
def PollError.texts : PollError → List String
  | .timeout runId _ _ _ => [runId]
  | .query runId cause => runId :: cause.texts

theorem PollError.flat_message_iff (e : PollError) :
    Flat e.message ↔ ∀ t ∈ e.texts, Flat t := by
  have hwords : Flat "suite run " ∧ Flat " still in progress after " ∧ Flat " polls (" ∧
      Flat "-" ∧ Flat "s apart)" ∧ Flat "failed to query suite run " ∧ Flat ": " := by
    and_intros <;> exact flat_ofList (by decide)
  unfold message
  cases e with
  | timeout runId cycles least most => simp [texts, hwords]
  | query runId cause => simp [texts, hwords, cause.flat_message_iff]

/-- The texts in the wording of a suite failure. -/
def SuiteFailure.texts : SuiteFailure → List String
  | .shadow cause => cause.texts
  | .start cause => cause.texts
  | .endpoint cause => cause.texts
  | .poll cause => cause.texts

theorem SuiteFailure.flat_message_iff (e : SuiteFailure) :
    Flat e.message ↔ ∀ t ∈ e.texts, Flat t := by
  have hwords : Flat "failed to start suite run: " ∧
      Flat "failed to fetch device endpoint: " := by
    and_intros <;> exact flat_ofList (by decide)
  unfold message
  cases e <;> simp [texts, hwords, ProvisionError.flat_message_iff,
    ServiceError.flat_message_iff, PollError.flat_message_iff]

/-- The texts in the wording of a setup failure. -/
def SetupFailure.texts (f : SetupFailure) : List String :=
  f.suite :: f.cause.texts

theorem SetupFailure.flat_message_iff (f : SetupFailure) :
    Flat f.message ↔ ∀ t ∈ f.texts, Flat t := by
  have hwords : Flat "setup failed for suite " ∧ Flat ": " := by
    and_intros <;> exact flat_ofList (by decide)
  unfold message
  simp [texts, hwords, ProvisionError.flat_message_iff]

/-- The texts in what is reported of the end of a suite. -/
inductive SuiteResult.Shows : SuiteResult → List String → Prop
  | skipped : Shows .skipped []
  | passed (status : RunStatus) : Shows (.passed status) [status.text]
  | failed (status : RunStatus) (log : Option String) :
      Shows (.failed status log) (status.text :: log.toList)
  | timedOut (cycles : Nat) : Shows (.timedOut cycles) []
  | errored (failure : SuiteFailure) : Shows (.errored failure.message) failure.texts

theorem SuiteResult.Shows.flat_iff {result : SuiteResult} {texts : List String}
    (h : result.Shows texts) : Flat result.text ↔ ∀ t ∈ texts, Flat t := by
  have hwords : Flat "passed (" ∧ Flat ")" ∧ Flat "failed (" ∧ Flat "); log at " ∧
      Flat "timed out after " ∧ Flat " polls" ∧ Flat "error: " := by
    and_intros <;> exact flat_ofList (by decide)
  unfold text
  cases h with
  | skipped => exact iff_of_true (by decide) (by simp)
  | passed status => simp [hwords]
  | failed status log => cases log <;> simp [hwords]
  | timedOut cycles => simp [hwords]
  | errored failure => simp [hwords, failure.flat_message_iff]

/-- The texts in a report: its name, its thing, and those in the end of the suite. -/
def SuiteReport.Shows (r : SuiteReport) (texts : List String) : Prop :=
  ∃ ended, r.result.Shows ended ∧ texts = r.name :: r.thing.toList ++ ended

/-- The line for a suite has a break only if a text in it has one. -/
theorem flat_line_iff {r : SuiteReport} {texts : List String} (h : r.Shows texts) :
    Flat r.line ↔ ∀ t ∈ texts, Flat t := by
  rcases h with ⟨ended, hended, rfl⟩
  have hwords : Flat " [" ∧ Flat "]: " ∧ Flat ": " := by
    and_intros <;> exact flat_ofList (by decide)
  unfold SuiteReport.line
  cases r.thing <;> simp [hwords, hended.flat_iff, and_assoc]

theorem CommandOutput.flat_statusText (output : CommandOutput) : Flat output.statusText := by
  unfold statusText
  rcases output.code with _ | n | n
  · decide
  · exact flat_repr n
  · exact (flat_append "-" _).mpr ⟨by decide, flat_repr (n + 1)⟩

/-- A failed command is told with what it said, but for the blanks around it. -/
theorem flat_classify_iff (request : Request) (output : CommandOutput) :
    Flat (Client.classify (Client.Call.ofRequest request).label output).message ↔
      Flat (Text.trim output.stderr) := by
  have hlabel : Flat (Client.Call.ofRequest request).label := by
    unfold Client.Call.label
    rw [flat_append, flat_append]
    cases request <;> and_intros <;> exact flat_ofList (by decide)
  generalize (Client.Call.ofRequest request).label = label at hlabel
  rw [ServiceError.flat_message_iff]
  -- What a command did not say is made up for by its exit code.
  have hdetail : Flat (if trim output.stderr = "" then "exit status " ++ output.statusText
      else trim output.stderr) ↔ Flat (trim output.stderr) := by
    have hwords : Flat "exit status " ∧ Flat "" := ⟨flat_ofList (by decide), by decide⟩
    split
    next hsilent => simp [hsilent, hwords, output.flat_statusText]
    next => exact Iff.rfl
  unfold Client.classify
  dsimp only
  split
  · simp [ServiceError.texts, hlabel, hdetail]
  · split <;> simp [ServiceError.texts, hlabel, hdetail]

/-! ## Where the texts come from -/

/-- Whether a failure of a request may be reported. Those of a teardown and of an export are
    not. -/
def Request.isTold : Request → Bool
  | .listPrincipals _ | .detachPrincipal _ _ | .updateCertificate _ _ | .deleteCertificate _
  | .deleteThing _ | .getLogEvents _ _ | .upload _ _ _ | .getSecret _ => false
  | _ => true

/-- The places at which the log of a thing may be said to be. -/
def Archive.places (a : Archive) (thing : String) : List String :=
  (a.pathFor thing).text ::
    (a.bucket.map fun bucket => (Exported.uploaded bucket (logFileName thing)).text).toList

/-- The texts that may be reported on account of an answer. -/
def RunSettings.echo (s : RunSettings) : Exchange → List String
  | ⟨.freshName, fresh⟩ => [s.thingNamePrefix ++ fresh]
  | ⟨.service r, .error cause⟩ => if r.isTold then cause.texts else []
  | ⟨.service (.createThing _), .ok thing⟩ => thing.name :: s.archive.places thing.name
  | ⟨.service (.startSuiteRun _ _), .ok job⟩ => [job.runId]
  | ⟨.service (.getSuiteRun _), .ok snapshot⟩ => [snapshot.status.text]
  | ⟨.write _ _, .error cause⟩ => cause.texts
  | ⟨.writePrivate _ _, .error cause⟩ => cause.texts
  | _ => []

/-- Answers on account of which only texts of some kind may be reported. -/
def RunSettings.heard (s : RunSettings) (P : String → Prop) : Behaviour Unit :=
  fun q _ answer _ => ∀ t ∈ s.echo ⟨q, answer⟩, P t

/-- The texts in a report are of some kind. -/
def SuiteReport.Sourced (P : String → Prop) (r : SuiteReport) : Prop :=
  ∃ texts, r.Shows texts ∧ ∀ t ∈ texts, P t

section Stages

variable {s : RunSettings} {P : String → Prop}

theorem tells_attach (spec : Specification) (thing : Thing) (certificate : Certificate)
    (hthing : P thing.name) :
    Ensures (s.heard P) (attach spec thing certificate) ()
      (Attempt (fun setback _ => ∀ t ∈ setback.error.texts, P t)
        fun identity _ => identity.thingName = thing.name) := by
  intro permitted _ hpermitted
  cases permitted with
  | error cause => exact List.forall_mem_cons.mpr ⟨hthing, hpermitted⟩
  | ok _ =>
      intro attached _ hattached
      cases attached with
      | error cause => exact List.forall_mem_cons.mpr ⟨hthing, hattached⟩
      | ok _ => exact rfl

theorem tells_certify (spec : Specification) (thing : Thing) (hthing : P thing.name) :
    Ensures (s.heard P) (certify spec thing) ()
      (Attempt (fun setback _ => ∀ t ∈ setback.error.texts, P t)
        fun identity _ => identity.thingName = thing.name) := by
  intro issued _ hissued
  cases issued with
  | error cause => exact List.forall_mem_cons.mpr ⟨hthing, hissued⟩
  | ok certificate =>
      intro written _ hwritten
      cases written with
      | error cause => exact List.forall_mem_cons.mpr ⟨hthing, hwritten⟩
      | ok _ =>
          intro kept _ hkept
          cases kept with
          | error cause => exact List.forall_mem_cons.mpr ⟨hthing, hkept⟩
          | ok _ => exact tells_attach spec thing certificate hthing

theorem tells_complete (spec : Specification) (thing : Thing) (hthing : P thing.name) :
    Ensures (s.heard P) (complete spec thing) ()
      (Attempt (fun setback _ => ∀ t ∈ setback.error.texts, P t)
        fun identity _ => identity.thingName = thing.name) := by
  unfold complete
  cases spec.group with
  | none => exact tells_certify spec thing hthing
  | some group =>
      intro added _ hadded
      cases added with
      | error cause => exact List.forall_mem_cons.mpr ⟨hthing, hadded⟩
      | ok _ => exact tells_certify spec thing hthing

/-- A setup that failed is told with the thing and with what the failed call said. One that did
    not leaves the name that the registry gave. -/
theorem tells_provision (spec : Specification) (hthing : P spec.thing) :
    Ensures (s.heard P) (provision spec) ()
      (Attempt (fun cause _ => ∀ t ∈ cause.texts, P t)
        fun identity _ =>
          ∀ t ∈ identity.thingName :: s.archive.places identity.thingName, P t) := by
  intro created _ hcreated
  cases created with
  | error cause => exact List.forall_mem_cons.mpr ⟨hthing, hcreated⟩
  | ok thing =>
      refine (tells_complete spec thing (hcreated _ List.mem_cons_self)).attempt ?_ ?_
      · intro setback _ hsetback
        exact (ensures_true _ _ _).bind fun _ _ _ => hsetback
      · intro identity _ hidentity
        show ∀ t ∈ identity.thingName :: s.archive.places identity.thingName, P t
        rw [hidentity]
        exact hcreated

theorem tells_watchFrom (policy : Policy) (job : Job) (invocation : Invocation)
    (hjob : P job.runId) (left : Nat) :
    ∀ count companion, Ensures (s.heard P) (watchFrom policy job invocation left count companion) ()
      (Attempt (fun cause _ => ∀ t ∈ cause.texts, P t) fun seen _ => P seen.status.text) := by
  induction left with
  | zero => exact fun count companion => List.forall_mem_singleton.mpr hjob
  | succ left ih =>
      intro count companion
      refine (ensures_question_bind _ (.pause policy) _ _ _).mpr fun _ _ _ => ?_
      refine (ensures_question_bind _ (.service (.getSuiteRun job)) _ _ _).mpr
        fun look _ hlook => ?_
      cases look with
      | error cause =>
          dsimp only
          split
          · exact ih _ _
          · exact List.forall_mem_cons.mpr ⟨hjob, hlook⟩
      | ok snapshot =>
          have hstatus : P snapshot.status.text := hlook _ List.mem_cons_self
          dsimp only
          cases hphase : Phase.observe snapshot companion.wasLaunched with
          | terminal status =>
              cases hended : snapshot.status.isInProgress with
              | true => exact absurd hphase (observe_ne_terminal hended _ _)
              | false =>
                  obtain rfl := Phase.terminal.inj ((observe_of_ended hended _).symm.trans hphase)
                  exact hstatus
          | launchCompanion => exact fun launched _ _ => ih _ _
          | loading => exact ih _ _
          | inProgress => exact ih _ _

theorem tells_startAndWatch (suite : Suite) (identity : Identity) :
    Ensures (s.heard P) (startAndWatch s suite identity) ()
      (Attempt (fun failure _ => ∀ t ∈ failure.texts, P t) fun seen _ => P seen.status.text) := by
  intro _ _ _ started _ hstarted
  cases started with
  | error cause => exact hstarted
  | ok job =>
      intro located _ hlocated
      cases located with
      | error cause => exact hlocated
      | ok endpoint =>
          refine (tells_watchFrom s.poll job _ (hstarted _ List.mem_cons_self) _ _ _).attempt ?_ ?_
          · exact fun cause _ hcause => hcause
          · exact fun seen _ hseen => hseen

theorem tells_exercise (suite : Suite) (identity : Identity) (hthing : P identity.thingName) :
    Ensures (s.heard P) (exercise s suite identity) ()
      (Attempt (fun failure _ => ∀ t ∈ failure.texts, P t) fun seen _ => P seen.status.text) := by
  unfold exercise
  cases s.shadow with
  | none => exact tells_startAndWatch suite identity
  | some shadow =>
      intro seeded _ hseeded
      cases seeded with
      | error cause => exact List.forall_mem_cons.mpr ⟨hthing, hseeded⟩
      | ok _ => exact tells_startAndWatch suite identity

/-- A log is reported at one of its places, if at all. -/
theorem tells_keepUrl (a : Archive) (url : Option String) (thing : String) :
    Ensures (s.heard P) (a.keepUrl url thing) () fun exported _ =>
      ∀ log, reportedLog exported = some log → log ∈ a.places thing := by
  have hpath : (a.pathFor thing).text ∈ a.places thing := List.mem_cons_self
  unfold Archive.keepUrl
  cases url with
  | none => exact fun _ h => absurd h (by simp [reportedLog])
  | some url =>
      dsimp only
      cases LogReference.parse? url with
      | none => exact fun _ h => absurd h (by simp [reportedLog])
      | some reference =>
          refine (ensures_question_bind _ (.service _) _ _ _).mpr fun fetched _ _ => ?_
          cases fetched with
          | error cause => exact fun _ h => absurd h (by simp [reportedLog])
          | ok events =>
              refine (ensures_question_bind _ (.write _ _) _ _ _).mpr fun written _ _ => ?_
              cases written with
              | error cause => exact fun _ h => absurd h (by simp [reportedLog])
              | ok _ =>
                  dsimp only
                  cases hbucket : a.bucket with
                  | none => exact fun log h => Option.some.inj h ▸ hpath
                  | some bucket =>
                      refine (ensures_question_bind _ (.service _) _ _ _).mpr
                        fun uploaded _ _ => ?_
                      cases uploaded with
                      | error cause => exact fun log h => Option.some.inj h ▸ hpath
                      | ok _ =>
                          intro removed _ _ log h
                          rw [Archive.places, hbucket]
                          exact Option.some.inj h ▸ List.mem_cons_of_mem _ List.mem_cons_self

/-- However a suite failed, its report has no other texts than the failure. -/
theorem SuiteFailure.shows (failure : SuiteFailure) :
    ∃ texts, failure.result.Shows texts ∧ ∀ t ∈ texts, t ∈ failure.texts := by
  cases failure with
  | poll cause =>
      cases cause with
      | timeout runId cycles least most => exact ⟨[], .timedOut cycles, by simp⟩
      | query runId cause => exact ⟨_, .errored _, fun _ h => h⟩
  | _ => exact ⟨_, .errored _, fun _ h => h⟩

/-- A suite is reported with the texts of its failure, or with the state its run ended in and the
    place of its log. -/
theorem tells_settle (identity : Identity) (outcome : Except SuiteFailure PollReport)
    (hlog : ∀ t ∈ s.archive.places identity.thingName, P t)
    (houtcome : Attempt (fun failure (_ : Unit) => ∀ t ∈ failure.texts, P t)
      (fun seen _ => P seen.status.text) outcome ()) :
    Ensures (s.heard P) (settle s identity outcome) () fun result _ =>
      ∃ texts, result.Shows texts ∧ ∀ t ∈ texts, P t := by
  cases outcome with
  | error failure =>
      rcases failure.shows with ⟨texts, hshows, htexts⟩
      refine Ensures.bind (ensures_true _ _ _) fun _ _ _ => ?_
      exact ⟨texts, hshows, fun t ht => houtcome t (htexts t ht)⟩
  | ok seen =>
      rw [settle, conclude]
      cases Verdict.ofStatus seen.status with
      | passed =>
          refine Ensures.bind (ensures_true _ _ _) fun _ _ _ => ?_
          exact ⟨_, .passed seen.status, List.forall_mem_singleton.mpr houtcome⟩
      | failed =>
          refine (tells_keepUrl s.archive seen.logUrl identity.thingName).bind
            fun exported _ hplace => ?_
          refine ⟨_, .failed seen.status (reportedLog exported), ?_⟩
          refine List.forall_mem_cons.mpr ⟨houtcome, fun log h => ?_⟩
          exact hlog log (hplace log (Option.mem_toList.mp h))

/-- One suite: a failure of its setup, or a report. -/
theorem tells_runSuite (suite : Suite) (hname : P suite.name) :
    Ensures (s.heard P) (runSuite s suite) ()
      (Attempt (fun cause _ => ∀ t ∈ cause.texts, P t) fun report _ => report.Sourced P) := by
  intro fresh _ hfresh
  have hthing : P (s.thingNamePrefix ++ fresh) := hfresh _ List.mem_cons_self
  refine (tells_provision (s.specification (s.thingNamePrefix ++ fresh)) hthing).attempt ?_ ?_
  · exact fun cause _ hcause => hcause
  · intro identity _ hidentity
    rw [List.forall_mem_cons] at hidentity
    refine (tells_exercise suite identity hidentity.1).bind fun outcome _ houtcome => ?_
    refine (tells_settle identity outcome hidentity.2 houtcome).bind fun result _ hresult => ?_
    refine Ensures.bind (ensures_true _ _ _) fun _ _ _ => ?_
    rcases hresult with ⟨texts, hshows, htexts⟩
    exact ⟨_, ⟨texts, hshows, rfl⟩,
      List.forall_mem_cons.mpr ⟨hname, List.forall_mem_cons.mpr ⟨hthing, htexts⟩⟩⟩

/-- What a campaign is known to report: its reports, and the failure of a setup if there is
    one. -/
theorem tells_runSuites (suites : List Suite) (hnames : ∀ suite ∈ suites, P suite.name) :
    ∀ reports : List SuiteReport, (∀ r ∈ reports, r.Sourced P) →
      Ensures (s.heard P) (runSuites s reports suites) ()
        (Attempt
          (fun failure _ =>
            (∀ t ∈ failure.texts, P t) ∧ ∀ r ∈ failure.completed.reports, r.Sourced P)
          fun summary _ => ∀ r ∈ summary.reports, r.Sourced P) := by
  induction suites with
  | nil => exact fun reports hreports => hreports
  | cons suite rest ih =>
      rw [List.forall_mem_cons] at hnames
      intro reports hreports
      have hmore : ∀ report : SuiteReport, report.Sourced P →
          ∀ r ∈ reports ++ [report], r.Sourced P := fun report hreport =>
        List.forall_mem_append.mpr ⟨hreports, List.forall_mem_singleton.mpr hreport⟩
      unfold runSuites
      split
      · exact ih hnames.2 _ (hmore _
          ⟨_, ⟨[], .skipped, rfl⟩, List.forall_mem_singleton.mpr hnames.1⟩)
      · refine (tells_runSuite suite hnames.1).attempt ?_ ?_
        · exact fun cause _ hcause => ⟨List.forall_mem_cons.mpr ⟨hnames.1, hcause⟩, hreports⟩
        · exact fun report _ hreport => ih hnames.2 _ (hmore report hreport)

end Stages

/-! ## What is printed -/

/-- A text that comes from somewhere: it is the name of a suite, or it is reported on account of
    an answer. -/
def RunSettings.Told (s : RunSettings) (file : SuiteFile) (talk : List Exchange) (t : String) :
    Prop :=
  (∃ suite ∈ file.suites, suite.name = t) ∨ ∃ x ∈ talk, t ∈ s.echo x

/-- How reports with texts of some kind are printed. -/
structure Summary.Printed (P : String → Prop) (summary : Summary) : Prop where
  /-- The lines are those that the reports take, in their order. -/
  lines : printedLines summary.text = (summary.reports.map SuiteReport.line).flatMap pieces
  /-- They are more than the reports by the line breaks in these. -/
  count : (printedLines summary.text).length =
    summary.reports.length + (summary.reports.flatMap fun r => r.line.toList).count '\n'
  /-- They are one for each report exactly if no report has a line break. -/
  single : printedLines summary.text = summary.reports.map SuiteReport.line ↔
    ∀ r ∈ summary.reports, Flat r.line
  /-- A report has a line break exactly if a text in it has, and all these are of the kind. -/
  sourced : ∀ r ∈ summary.reports, ∃ texts, r.Shows texts ∧
    (Flat r.line ↔ ∀ t ∈ texts, Flat t) ∧ ∀ t ∈ texts, P t
  /-- So there is one for each report if no text of the kind has a line break. -/
  clean : (∀ t, P t → Flat t) → printedLines summary.text = summary.reports.map SuiteReport.line

theorem Summary.printed {P : String → Prop} {summary : Summary}
    (h : ∀ r ∈ summary.reports, r.Sourced P) : summary.Printed P := by
  have hlines : printedLines summary.text =
      (summary.reports.map SuiteReport.line).flatMap pieces := by
    rw [← printedLines_ended, Summary.text, List.flatMap_map]
  have hsingle : printedLines summary.text = summary.reports.map SuiteReport.line ↔
      ∀ r ∈ summary.reports, Flat r.line := by
    rw [hlines, flatMap_pieces_eq_iff, List.forall_mem_map]
  refine ⟨hlines, ?_, hsingle, fun r hr => ?_, fun hclean => hsingle.mpr fun r hr => ?_⟩
  · rw [hlines, length_flatMap_pieces, List.length_map, List.flatMap_map]
  · rcases h r hr with ⟨texts, hshows, htexts⟩
    exact ⟨texts, hshows, flat_line_iff hshows, htexts⟩
  · rcases h r hr with ⟨texts, hshows, htexts⟩
    exact (flat_line_iff hshows).mpr fun t ht => hclean t (htexts t ht)

/-- How a failure with texts of some kind is told. -/
structure SetupFailure.Printed (P : String → Prop) (failure : SetupFailure) : Prop where
  /-- The lines are those that its wording takes. -/
  lines : printedLines (Ending.failure failure.completed.text (.setup failure)).stderr =
    pieces failure.message
  /-- There is one exactly if no text in the wording has a line break. -/
  single : printedLines (Ending.failure failure.completed.text (.setup failure)).stderr =
    [failure.message] ↔ ∀ t ∈ failure.texts, Flat t
  /-- All these texts are of the kind. -/
  sourced : ∀ t ∈ failure.texts, P t
  /-- So there is one if no text of the kind has a line break. -/
  clean : (∀ t, P t → Flat t) →
    printedLines (Ending.failure failure.completed.text (.setup failure)).stderr =
      [failure.message]

theorem SetupFailure.printed {P : String → Prop} {failure : SetupFailure}
    (h : ∀ t ∈ failure.texts, P t) : failure.Printed P := by
  have hended : (Ending.failure failure.completed.text (.setup failure)).stderr =
      String.ofList ([failure.message].flatMap fun t => t.toList ++ ['\n']) := by
    rw [List.flatMap_singleton, String.ofList_append, String.ofList_toList]
    rfl
  have hlines := printedLines_ended [failure.message]
  rw [← hended] at hlines
  have hsingle : printedLines (Ending.failure failure.completed.text (.setup failure)).stderr =
      [failure.message] ↔ ∀ t ∈ failure.texts, Flat t := by
    rw [hlines, flatMap_pieces_eq_iff, List.forall_mem_singleton, failure.flat_message_iff]
  rw [List.flatMap_singleton] at hlines
  exact ⟨hlines, hsingle, h, fun hclean => hsingle.mpr fun t ht => hclean t (h t ht)⟩

/-- The lines that a campaign prints of its reports, whatever it is answered, and those in which
    it tells why it could not go on. All the texts in them come from the suite file or from what
    was answered, and it is only these that may break a line. If a command of a client fails, what
    it said on its error stream is such a text, and it is told with all line breaks but those
    around it. -/
theorem runCampaign_lines {σ : Type} (w : World σ) (s : RunSettings) (file : SuiteFile)
    (start : σ) :
    let done := (runCampaign s file).run (recording w) ([], start)
    let told := s.Told file done.2.1
    (match done.1 with
      | .ok summary => summary.Printed told
      | .error failure => failure.completed.Printed told ∧ failure.Printed told) ∧
    ∀ (request : Request) (output : CommandOutput),
      Flat (Client.classify (Client.Call.ofRequest request).label output).message ↔
        Flat (Text.trim output.stderr) := by
  intro done told
  refine ⟨?_, flat_classify_iff⟩
  rcases run_recording w (runCampaign s file) start with ⟨talk, htrace, hrun⟩
  have htalk : Trace (runCampaign s file) done.2.1 done.1 := by
    rw [show done = _ from hrun]
    exact htrace
  have hnames : ∀ suite ∈ file.suites, told suite.name := fun suite h => Or.inl ⟨suite, h, rfl⟩
  have hheard : ∀ x ∈ done.2.1, ∀ t ∈ s.echo x, told t := fun x hx t ht => Or.inr ⟨x, hx, ht⟩
  have hends := htalk.of_ensures hheard
    (tells_runSuites (s := s) (P := told) file.suites hnames [] (by simp))
  cases hend : done.1 with
  | ok summary =>
      rw [hend] at hends
      exact Summary.printed hends
  | error failure =>
      rw [hend] at hends
      exact ⟨Summary.printed hends.2, SetupFailure.printed hends.1⟩

/-- Two runs that pass take two lines. -/
theorem runCampaign_lines_running :
    let done := (runCampaign briefSettings twoSuites).run (recording (Bench.world Cloud.service))
      ([], runningBench)
    ∃ summary, done.1 = .ok summary ∧ summary.reports.length = 2 ∧
      printedLines summary.text = summary.reports.map SuiteReport.line := by
  have hlines := runCampaign_lines (Bench.world Cloud.service) briefSettings twoSuites runningBench
  have hreports : ((runCampaign briefSettings twoSuites).run (recording (Bench.world Cloud.service))
      ([], runningBench)).1.toOption.map (fun summary => summary.reports.length) = some 2 := by
    decide +kernel
  have hheard : (((runCampaign briefSettings twoSuites).run (recording (Bench.world Cloud.service))
      ([], runningBench)).2.1.all fun x => (briefSettings.echo x).all fun t => decide (Flat t)) =
        true := by
    decide +kernel
  have hnames : ∀ suite ∈ twoSuites.suites, Flat suite.name := by decide +kernel
  generalize (runCampaign briefSettings twoSuites).run (recording (Bench.world Cloud.service))
    ([], runningBench) = done at hlines hreports hheard ⊢
  simp only [List.all_eq_true, decide_eq_true_eq] at hheard
  rcases done with ⟨failure | summary, talk, after⟩
  · exact absurd hreports (by simp [Except.toOption])
  · refine ⟨summary, rfl, Option.some.inj hreports, hlines.1.clean ?_⟩
    rintro t (⟨suite, hsuite, rfl⟩ | ⟨x, hx, ht⟩)
    · exact hnames suite hsuite
    · exact hheard x hx t ht

/-- A suite file with one suite, from the words for its name and for whether it is disabled. -/
def singleText (name disabled : String) : String :=
  "\x7b\"test_suites\": [\x7b\"test_name\": \"" ++ name ++
    "\", \"test_suite_id\": \"1\", \"disabled\": " ++ disabled ++
    ", \"companion\": \x7b\"program\": \"device\"\x7d\x7d]\x7d"

/-- The suite of that file. -/
def singleSuite (name : String) (disabled : Bool) : Suite :=
  ⟨name, "1", disabled, ⟨"device", [], none⟩⟩

/-- A test bench on which the client rejects its first command in two lines. -/
def usageBench : Bench Script where
  service := ⟨[⟨some 254, "", "usage: aws iot create-thing\naws: error: unknown option"⟩], []⟩
  files := ⟨.empty, []⟩
  companions := ⟨[], []⟩
  clock := ⟨[], []⟩
  names := ["a"]

/-- A suite whose name has a line break is reported in two lines, and so is told what a client
    said in two lines. -/
theorem runCampaign_breaks_lines :
    (∃ summary, SuiteFile.parse ⟨"suites.json"⟩ (singleText "connect\\nretry" "true") =
        .ok ⟨[singleSuite "connect\nretry" true]⟩ ∧
      ((runCampaign briefSettings ⟨[singleSuite "connect\nretry" true]⟩).run
        (Bench.world Cloud.service) runningBench).1 = .ok summary ∧
      summary.reports.length = 1 ∧ printedLines summary.text = ["connect", "retry: skipped"]) ∧
    ∃ failure, SuiteFile.parse ⟨"suites.json"⟩ (singleText "connect" "false") =
        .ok ⟨[singleSuite "connect" false]⟩ ∧
      ((runCampaign briefSettings ⟨[singleSuite "connect" false]⟩).run
        (Bench.world (Client.service ⟨"aws", "us-east-1"⟩ Script.runner)) usageBench).1 =
          .error failure ∧
      printedLines (Ending.failure failure.completed.text (.setup failure)).stderr =
        ["setup failed for suite connect: failed to create thing for thing-a: " ++
          "iot create-thing: request rejected: usage: aws iot create-thing",
          "aws: error: unknown option"] := by
  refine ⟨⟨⟨[⟨"connect\nretry", none, .skipped⟩]⟩, ?_, ?_, ?_, ?_⟩,
    ⟨⟨"connect", .service .createThing "thing-a" (.rejected "iot create-thing"
      "usage: aws iot create-thing\naws: error: unknown option"), ⟨[]⟩⟩, ?_, ?_, ?_⟩⟩
  · decide +kernel
  · decide +kernel
  · decide +kernel
  · decide +kernel
  · decide +kernel
  · decide +kernel
  · decide +kernel

end Qualifier
