import Qualifier.Campaign.Run
import Qualifier.Proofs.Outside.Conversation

/-!
# What a Campaign Reports

A campaign goes through its suites in order, and each suite has a share in it: what
was said on its behalf, and the report it got. This module takes the conversation
of a campaign apart into those shares, whatever the services and the companions
answer, and reads off what the reports mean.

The loop over the suites carries the reports made so far and may be broken off by
a setup that fails. `trace_runSuites` is the induction that follows it. It has to
say where a campaign that was broken off stops, for the suite that could not be set
up has a conversation too, though no report: it ends with the rollback, and so does
the conversation of the campaign.

What a suite reports is decided by how its watch ended. `trace_exercise_ok_iff`
says exactly when there is such an end, and `isSuccess_iff` and `isSuccess_ofText`
which words of the test service count as success.

## Main definitions

* `opening`: What is said before the watch of a suite begins.
* `WatchEnded`: The watch of a suite came to an end.
* `Course`: How an enabled suite went, from its name to its clean-up.
* `Course.Explains`: A report that is what a course leads to.
* `Share`, `Share.Fair`: A suite's part in a campaign, and what it has to be.
* `Attended`: The shares of the suites a campaign got through.
* `SetupFailed`: The conversation of a suite that could not be set up.

## Theorems

* `isSuccess_iff`, `isSuccess_ofText`: The words that count as success.
* `trace_exercise_ok_iff`: Exactly when a watch comes to an end.
* `trace_runSuite_ok`, `trace_runSuite_error`: One suite.
* `trace_runSuites`: All suites.
* `exitCode_eq_zero_iff`: What the exit code sums up.
* `runCampaign_reports`: What a campaign reports.
-/

namespace Qualifier

open Program

/-- The two states that count as success are those of the two words for it. -/
theorem isSuccess_iff (status : RunStatus) :
    status.isSuccess = true ↔
      status = .ofText "PASS" ∨ status = .ofText "PASS_WITH_WARNINGS" := by
  have hpass : RunStatus.ofText "PASS" = .pass := by decide
  have hwarn : RunStatus.ofText "PASS_WITH_WARNINGS" = .passWithWarnings := by decide
  rw [hpass, hwarn]
  cases status <;> simp [RunStatus.isSuccess]

/-- No other word is read as a success, known or not. -/
theorem isSuccess_ofText (word : String) :
    (RunStatus.ofText word).isSuccess = true ↔ word = "PASS" ∨ word = "PASS_WITH_WARNINGS" := by
  rw [isSuccess_iff]
  constructor
  · rintro (h | h)
    · exact Or.inl (by rw [← RunStatus.text_ofText word, h, RunStatus.text_ofText])
    · exact Or.inr (by rw [← RunStatus.text_ofText word, h, RunStatus.text_ofText])
  · rintro (rfl | rfl)
    · exact Or.inl rfl
    · exact Or.inr rfl

/-- What is said before a watch begins, if nothing fails: the shadow gets its first
    state, if there is one, and the remote run is started. -/
def opening (s : RunSettings) (suite : Suite) (identity : Identity) (job : Job)
    (endpoint : String) : List Exchange :=
  (match s.shadow with
    | none => []
    | some (property, value) =>
        [⟨.service (.updateShadow identity.thingName (shadowDocument property value).render),
          .ok ()⟩]) ++
  [⟨.pause s.poll, ()⟩, ⟨.service (.startSuiteRun suite.suiteId identity.thingArn), .ok job⟩,
    ⟨.service (.getEndpoint identity.thingArn), .ok endpoint⟩]

/-- The run of a suite was started, and its watch came to an end with `seen`. -/
def WatchEnded (s : RunSettings) (suite : Suite) (identity : Identity) (talk : List Exchange)
    (seen : PollReport) : Prop :=
  ∃ job endpoint looked,
    talk = opening s suite identity job endpoint ++ looked ∧
    Trace (watch s.poll job (s.invocation suite.companion identity endpoint)) looked (.ok seen)

theorem trace_startAndWatch_ok_iff (s : RunSettings) (suite : Suite) (identity : Identity)
    (talk : List Exchange) (seen : PollReport) :
    Trace (startAndWatch s suite identity) talk (.ok seen) ↔
      ∃ job endpoint looked,
        talk = [⟨.pause s.poll, ()⟩,
          ⟨.service (.startSuiteRun suite.suiteId identity.thingArn), .ok job⟩,
          ⟨.service (.getEndpoint identity.thingArn), .ok endpoint⟩] ++ looked ∧
        Trace (watch s.poll job (s.invocation suite.companion identity endpoint)) looked
          (.ok seen) := by
  constructor
  · intro h
    rw [startAndWatch, trace_question_bind_iff] at h
    rcases h with ⟨_, _, rfl, h⟩
    rw [trace_request_bind_iff] at h
    rcases h with ⟨started, _, rfl, h⟩
    cases started with
    | error cause => exact absurd ((trace_pure_iff _ _ _).mp h).2 (by simp)
    | ok job =>
        rw [trace_request_bind_iff] at h
        rcases h with ⟨located, _, rfl, h⟩
        cases located with
        | error cause => exact absurd ((trace_pure_iff _ _ _).mp h).2 (by simp)
        | ok endpoint =>
            rw [trace_bind_iff] at h
            rcases h with ⟨looked, watched, rest, rfl, hwatch, h⟩
            cases watched with
            | error cause => exact absurd ((trace_pure_iff _ _ _).mp h).2 (by simp)
            | ok report =>
                rcases (trace_pure_iff _ _ _).mp h with ⟨rfl, hseen⟩
                rw [Except.ok.injEq] at hseen
                rw [hseen, List.append_nil]
                exact ⟨job, endpoint, looked, rfl, hwatch⟩
  · rintro ⟨job, endpoint, looked, rfl, hwatch⟩
    rw [startAndWatch, trace_question_bind_iff]
    refine ⟨(), _, rfl, ?_⟩
    rw [trace_request_bind_iff]
    refine ⟨.ok job, _, rfl, ?_⟩
    rw [trace_request_bind_iff]
    refine ⟨.ok endpoint, _, rfl, ?_⟩
    rw [trace_bind_iff]
    exact ⟨looked, .ok seen, [], (List.append_nil _).symm, hwatch, .done _⟩

theorem trace_exercise_ok_iff (s : RunSettings) (suite : Suite) (identity : Identity)
    (talk : List Exchange) (seen : PollReport) :
    Trace (exercise s suite identity) talk (.ok seen) ↔
      WatchEnded s suite identity talk seen := by
  unfold exercise WatchEnded opening
  cases s.shadow with
  | none => exact trace_startAndWatch_ok_iff s suite identity talk seen
  | some shadow =>
      rcases shadow with ⟨property, value⟩
      constructor
      · intro h
        rw [trace_bind_iff] at h
        rcases h with ⟨seeded, answer, rest, rfl, hseed, h⟩
        rw [seedShadow, trace_request_bind_iff] at hseed
        rcases hseed with ⟨updated, _, rfl, hseed⟩
        cases updated with
        | error cause =>
            rcases (trace_pure_iff _ _ _).mp hseed with ⟨rfl, rfl⟩
            exact absurd ((trace_pure_iff _ _ _).mp h).2 (by simp)
        | ok _ =>
            rcases (trace_pure_iff _ _ _).mp hseed with ⟨rfl, rfl⟩
            rcases (trace_startAndWatch_ok_iff _ _ _ _ _).mp h with
              ⟨job, endpoint, looked, rfl, hwatch⟩
            exact ⟨job, endpoint, looked, rfl, hwatch⟩
      · rintro ⟨job, endpoint, looked, rfl, hwatch⟩
        rw [trace_bind_iff]
        refine ⟨[⟨.service (.updateShadow identity.thingName
          (shadowDocument property value).render), .ok ()⟩], .ok (), _, rfl, ?_, ?_⟩
        · exact .ask (.done _)
        · exact (trace_startAndWatch_ok_iff _ _ _ _ _).mpr ⟨job, endpoint, looked, rfl, hwatch⟩

/-- How an enabled suite went: the fresh part of its thing's name, the identity it
    was given, and what was said to set that up, to run the suite on it, and after
    that. -/
structure Course where
  fresh : String
  identity : Identity
  setup : List Exchange
  tried : List Exchange
  after : List Exchange

/-- Everything that was said on behalf of a suite. -/
def Course.talk (c : Course) : List Exchange :=
  ⟨.freshName, c.fresh⟩ :: (c.setup ++ (c.tried ++ c.after))

/-- A report is what a course leads to: the suite was given an identity, and it is
    reported as passed exactly if its watch ended on one of the two words for
    success. Any other word it may have ended on makes it a failure. -/
structure Course.Explains (c : Course) (s : RunSettings) (suite : Suite)
    (report : SuiteReport) : Prop where
  thing : report.thing = some (s.thingNamePrefix ++ c.fresh)
  provisioned : Trace (provision (s.specification (s.thingNamePrefix ++ c.fresh))) c.setup
    (.ok c.identity)
  exercised : ∃ outcome, Trace (exercise s suite c.identity) c.tried outcome
  not_skipped : report.result ≠ .skipped
  passed_iff : (∃ status, report.result = .passed status) ↔
    ∃ seen, WatchEnded s suite c.identity c.tried seen ∧
      (seen.status = .ofText "PASS" ∨ seen.status = .ofText "PASS_WITH_WARNINGS")
  failed_of_word : ∀ seen word, WatchEnded s suite c.identity c.tried seen →
    seen.status = .ofText word → word ≠ "PASS" → word ≠ "PASS_WITH_WARNINGS" →
    ∃ log, report.result = .failed (.ofText word) log

/-- What a suite that was exercised is reported as, when its watch came to an end. -/
theorem trace_settle_ok (s : RunSettings) (identity : Identity) (seen : PollReport)
    (talk : List Exchange) (result : SuiteResult)
    (h : Trace (settle s identity (.ok seen)) talk result) :
    (seen.status.isSuccess = true ∧ result = .passed seen.status) ∨
    (seen.status.isSuccess = false ∧ ∃ log, result = .failed seen.status log) := by
  rw [settle, conclude, Verdict.ofStatus] at h
  by_cases hs : seen.status.isSuccess
  · rw [if_pos hs, trace_bind_iff] at h
    rcases h with ⟨_, _, _, _, _, h⟩
    exact Or.inl ⟨hs, ((trace_pure_iff _ _ _).mp h).2⟩
  · rw [if_neg hs, trace_bind_iff] at h
    rcases h with ⟨_, exported, _, _, _, h⟩
    rw [Bool.not_eq_true] at hs
    exact Or.inr ⟨hs, reportedLog exported, ((trace_pure_iff _ _ _).mp h).2⟩

/-- What it is reported as when there was no such end. -/
theorem trace_settle_error (s : RunSettings) (identity : Identity) (failure : SuiteFailure)
    (talk : List Exchange) (result : SuiteResult)
    (h : Trace (settle s identity (.error failure)) talk result) : result = failure.result := by
  rw [settle, trace_bind_iff] at h
  rcases h with ⟨_, _, _, _, _, h⟩
  exact ((trace_pure_iff _ _ _).mp h).2

theorem SuiteFailure.result_ne (failure : SuiteFailure) :
    failure.result ≠ .skipped ∧ ∀ status, failure.result ≠ .passed status := by
  unfold SuiteFailure.result
  split <;> simp

/-- A suite that gets to a report went a course that explains it. -/
theorem trace_runSuite_ok (s : RunSettings) (suite : Suite) (talk : List Exchange)
    (report : SuiteReport) (h : Trace (runSuite s suite) talk (.ok report)) :
    report.name = suite.name ∧ ∃ c : Course, talk = c.talk ∧ c.Explains s suite report := by
  rw [runSuite, trace_question_bind_iff] at h
  rcases h with ⟨fresh, _, rfl, h⟩
  rw [trace_bind_iff] at h
  rcases h with ⟨setup, provided, _, rfl, hsetup, h⟩
  cases provided with
  | error cause => exact absurd ((trace_pure_iff _ _ _).mp h).2 (by simp)
  | ok identity =>
      rw [trace_bind_iff] at h
      rcases h with ⟨tried, outcome, _, rfl, htried, h⟩
      rw [trace_bind_iff] at h
      rcases h with ⟨settled, result, _, rfl, hsettled, h⟩
      rw [trace_bind_iff] at h
      rcases h with ⟨removed, _, _, rfl, _, h⟩
      rcases (trace_pure_iff _ _ _).mp h with ⟨rfl, hreport⟩
      rw [Except.ok.injEq] at hreport
      subst hreport
      refine ⟨rfl, ⟨fresh, identity, setup, tried, settled ++ (removed ++ [])⟩, rfl, ?_⟩
      -- A watch that came to an end is the outcome of the exercise, and the only one.
      have hseen : ∀ seen, WatchEnded s suite identity tried seen → outcome = .ok seen :=
        fun seen hended => htried.unique ((trace_exercise_ok_iff _ _ _ _ _).mpr hended)
      cases outcome with
      | error failure =>
          have hresult := trace_settle_error s identity failure settled result hsettled
          refine ⟨rfl, hsetup, ⟨_, htried⟩, ?_, ?_, ?_⟩
          · exact hresult ▸ failure.result_ne.1
          · constructor
            · rintro ⟨status, hpassed⟩
              exact absurd (hresult ▸ hpassed) (failure.result_ne.2 status)
            · rintro ⟨seen, hended, _⟩
              exact absurd (hseen seen hended) (by simp)
          · intro seen word hended
            exact absurd (hseen seen hended) (by simp)
      | ok seen =>
          have hsame : ∀ other, WatchEnded s suite identity tried other → seen = other :=
            fun other hended => Except.ok.inj (hseen other hended)
          have hended := (trace_exercise_ok_iff _ _ _ _ _).mp htried
          rcases trace_settle_ok s identity seen settled result hsettled with
            ⟨hs, rfl⟩ | ⟨hs, log, rfl⟩
          · refine ⟨rfl, hsetup, ⟨_, htried⟩, by simp, ?_, ?_⟩
            · exact ⟨fun _ => ⟨seen, hended, (isSuccess_iff _).mp hs⟩, fun _ => ⟨_, rfl⟩⟩
            · intro other word hother hword hpass hwarn
              rw [hsame other hother, hword, isSuccess_ofText] at hs
              exact absurd hs (by simp [hpass, hwarn])
          · refine ⟨rfl, hsetup, ⟨_, htried⟩, by simp, ?_, ?_⟩
            · constructor
              · rintro ⟨status, hpassed⟩
                exact absurd hpassed (by simp)
              · rintro ⟨other, hother, hword⟩
                rw [← hsame other hother, ← isSuccess_iff, hs] at hword
                exact absurd hword Bool.false_ne_true
            · intro other word hother hword _ _
              exact ⟨log, by rw [hsame other hother, hword]⟩

/-- Setting an identity up failed, and nothing was said after its rollback: either
    the thing was never registered, and there is nothing to roll back, or the
    conversation ends with the rollback. -/
def SetupFailed (spec : Specification) (talk : List Exchange) (cause : ProvisionError) : Prop :=
  Trace (provision spec) talk (.error cause) ∧
  ((∃ refusal, talk = [⟨.service (.createThing spec.thing), .error refusal⟩]) ∨
    ∃ made setback undone, talk = made ++ undone ∧ Trace (rollback spec.thing setback) undone ())

theorem setupFailed_of_trace (spec : Specification) (talk : List Exchange)
    (cause : ProvisionError) (h : Trace (provision spec) talk (.error cause)) :
    SetupFailed spec talk cause := by
  refine ⟨h, ?_⟩
  rw [provision, trace_request_bind_iff] at h
  rcases h with ⟨registered, _, rfl, h⟩
  cases registered with
  | error refusal =>
      rcases (trace_pure_iff _ _ _).mp h with ⟨rfl, -⟩
      exact Or.inl ⟨refusal, rfl⟩
  | ok thing =>
      rw [trace_bind_iff] at h
      rcases h with ⟨made, completed, _, rfl, _, h⟩
      cases completed with
      | ok identity => exact absurd ((trace_pure_iff _ _ _).mp h).2 (by simp)
      | error setback =>
          rw [trace_bind_iff] at h
          rcases h with ⟨undone, _, rest, rfl, hundone, h⟩
          rcases (trace_pure_iff _ _ _).mp h with ⟨rfl, -⟩
          -- The cause is returned as soon as the rollback is done.
          refine Or.inr ⟨⟨.service (.createThing spec.thing), .ok thing⟩ :: made, setback,
            undone, ?_, hundone⟩
          rw [List.append_nil, List.cons_append]

/-- A suite that gets to no report is one that could not be set up. -/
theorem trace_runSuite_error (s : RunSettings) (suite : Suite) (talk : List Exchange)
    (cause : ProvisionError) (h : Trace (runSuite s suite) talk (.error cause)) :
    ∃ fresh said, talk = ⟨.freshName, fresh⟩ :: said ∧
      SetupFailed (s.specification (s.thingNamePrefix ++ fresh)) said cause := by
  rw [runSuite, trace_question_bind_iff] at h
  rcases h with ⟨fresh, _, rfl, h⟩
  rw [trace_bind_iff] at h
  rcases h with ⟨setup, provided, _, rfl, hsetup, h⟩
  cases provided with
  | error cause' =>
      rcases (trace_pure_iff _ _ _).mp h with ⟨rfl, hcause⟩
      rw [Except.error.injEq] at hcause
      subst hcause
      rw [List.append_nil]
      exact ⟨fresh, setup, rfl, setupFailed_of_trace _ _ _ hsetup⟩
  | ok identity =>
      rw [trace_bind_iff] at h
      rcases h with ⟨_, _, _, _, _, h⟩
      rw [trace_bind_iff] at h
      rcases h with ⟨_, _, _, _, _, h⟩
      rw [trace_bind_iff] at h
      rcases h with ⟨_, _, _, _, _, h⟩
      exact absurd ((trace_pure_iff _ _ _).mp h).2 (by simp)

/-- A suite's part in a campaign: what was said on its behalf, and its report. -/
structure Share where
  suite : Suite
  talk : List Exchange
  report : SuiteReport

/-- A share as it should be. The report bears the name of the suite, and says that it
    was skipped, and names no thing, exactly if the suite is disabled; on behalf of
    such a suite nothing is said at all. The report of any other suite is what the
    course of that suite leads to. -/
structure Share.Fair (a : Share) (s : RunSettings) : Prop where
  name : a.report.name = a.suite.name
  skipped_iff : a.report.result = .skipped ↔ a.suite.disabled = true
  nameless_iff : a.report.thing = none ↔ a.suite.disabled = true
  silent : a.suite.disabled = true → a.talk = []
  explained : a.suite.disabled = false →
    ∃ c : Course, a.talk = c.talk ∧ c.Explains s a.suite a.report

/-- The shares of the suites a campaign got through: one for each of them, in their
    order, and together all that was reported and said. -/
structure Attended (s : RunSettings) (shares : List Share) (suites : List Suite)
    (reports : List SuiteReport) (talk : List Exchange) : Prop where
  suites : shares.map Share.suite = suites
  reports : shares.map Share.report = reports
  talk : shares.flatMap Share.talk = talk
  fair : ∀ a ∈ shares, a.Fair s

/-- The share of a suite that is skipped. -/
def Share.skipped (suite : Suite) : Share :=
  ⟨suite, [], ⟨suite.name, none, .skipped⟩⟩

theorem fair_skipped (s : RunSettings) {suite : Suite} (h : suite.disabled = true) :
    (Share.skipped suite).Fair s where
  name := rfl
  skipped_iff := ⟨fun _ => h, fun _ => rfl⟩
  nameless_iff := ⟨fun _ => h, fun _ => rfl⟩
  silent _ := rfl
  explained h' := absurd h' (by rw [Share.skipped, h]; exact Bool.false_ne_true.symm)

theorem fair_of_trace (s : RunSettings) {suite : Suite} {talk : List Exchange}
    {report : SuiteReport} (hd : suite.disabled = false)
    (h : Trace (runSuite s suite) talk (.ok report)) :
    (Share.mk suite talk report).Fair s := by
  rcases trace_runSuite_ok s suite talk report h with ⟨hname, c, htalk, hc⟩
  have hnot : ¬ suite.disabled = true := by rw [hd]; exact Bool.false_ne_true
  refine ⟨hname, ?_, ?_, fun h' => absurd h' hnot, fun _ => ⟨c, htalk, hc⟩⟩
  · exact ⟨fun h' => absurd h' hc.not_skipped, fun h' => absurd h' hnot⟩
  · exact ⟨fun h' => absurd (hc.thing.symm.trans h') (by simp), fun h' => absurd h' hnot⟩

theorem Attended.nil (s : RunSettings) : Attended s [] [] [] [] :=
  ⟨rfl, rfl, rfl, fun _ h => absurd h List.not_mem_nil⟩

theorem Attended.cons {s : RunSettings} {share : Share} {shares : List Share}
    {suites : List Suite} {reports : List SuiteReport} {talk : List Exchange}
    (hfair : share.Fair s) (h : Attended s shares suites reports talk) :
    Attended s (share :: shares) (share.suite :: suites) (share.report :: reports)
      (share.talk ++ talk) where
  suites := by rw [List.map_cons, h.suites]
  reports := by rw [List.map_cons, h.reports]
  talk := by rw [List.flatMap_cons, h.talk]
  fair := by simpa only [List.mem_cons, forall_eq_or_imp] using ⟨hfair, h.fair⟩

/-- What a campaign that was not broken off has done with its suites. -/
def Finished (s : RunSettings) (suites : List Suite) (reports : List SuiteReport)
    (talk : List Exchange) : Prop :=
  ∃ shares, Attended s shares suites reports talk

/-- What a campaign that was broken off has done with its suites: all before some
    enabled one have their shares, and that one could not be set up. Nothing was said
    after its rollback. -/
def BrokenOff (s : RunSettings) (suites : List Suite) (suite : String)
    (cause : ProvisionError) (reports : List SuiteReport) (talk : List Exchange) : Prop :=
  ∃ shares before failed rest earlier fresh said,
    suites = before ++ failed :: rest ∧ failed.disabled = false ∧ suite = failed.name ∧
    Attended s shares before reports earlier ∧
    talk = earlier ++ ⟨.freshName, fresh⟩ :: said ∧
    SetupFailed (s.specification (s.thingNamePrefix ++ fresh)) said cause

/-- The suites still to come, after some were reported on: the reports that are added
    are those of the suites that are got through. -/
theorem trace_runSuites (s : RunSettings) (suites : List Suite) :
    ∀ (reports : List SuiteReport) (talk : List Exchange)
      (result : Except SetupFailure Summary),
      Trace (runSuites s reports suites) talk result →
      (∃ more, result = .ok ⟨reports ++ more⟩ ∧ Finished s suites more talk) ∨
      (∃ suite cause more, result = .error ⟨suite, cause, ⟨reports ++ more⟩⟩ ∧
        BrokenOff s suites suite cause more talk) := by
  induction suites with
  | nil =>
      intro reports talk result h
      rw [runSuites, trace_pure_iff] at h
      rcases h with ⟨rfl, rfl⟩
      exact Or.inl ⟨[], by rw [List.append_nil], [], .nil s⟩
  | cons suite suites ih =>
      intro reports talk result h
      rw [runSuites] at h
      -- What is left of a campaign after the share of its first suite.
      have hgo : ∀ (share : Share) (after : List Exchange), share.suite = suite →
          share.Fair s → talk = share.talk ++ after →
          Trace (runSuites s (reports ++ [share.report]) suites) after result →
          (∃ more, result = .ok ⟨reports ++ more⟩ ∧ Finished s (suite :: suites) more talk) ∨
          (∃ name cause more, result = .error ⟨name, cause, ⟨reports ++ more⟩⟩ ∧
            BrokenOff s (suite :: suites) name cause more talk) := by
        rintro share after rfl hfair rfl hafter
        rcases ih _ _ _ hafter with ⟨more, rfl, shares, hshares⟩ |
          ⟨name, cause, more, rfl, shares, before, failed, rest, earlier, fresh, said, rfl,
            hd, hname, hshares, rfl, hfailed⟩
        · refine Or.inl ⟨share.report :: more, ?_, share :: shares, hshares.cons hfair⟩
          rw [List.append_assoc, List.singleton_append]
        · refine Or.inr ⟨name, cause, share.report :: more, ?_, share :: shares,
            share.suite :: before, failed, rest, share.talk ++ earlier, fresh, said, rfl, hd,
            hname, hshares.cons hfair, ?_, hfailed⟩
          · rw [List.append_assoc, List.singleton_append]
          · rw [List.append_assoc]
      cases hd : suite.disabled with
      | true =>
          rw [hd, if_pos rfl] at h
          exact hgo (.skipped suite) talk rfl (fair_skipped s hd) rfl h
      | false =>
          rw [hd, if_neg Bool.false_ne_true, trace_bind_iff] at h
          rcases h with ⟨own, ended, after, rfl, hown, h⟩
          cases ended with
          | ok report => exact hgo ⟨suite, own, report⟩ after rfl (fair_of_trace s hd hown) rfl h
          | error cause =>
              rcases (trace_pure_iff _ _ _).mp h with ⟨rfl, rfl⟩
              rcases trace_runSuite_error s suite own cause hown with
                ⟨fresh, said, rfl, hfailed⟩
              refine Or.inr ⟨suite.name, cause, [], by rw [List.append_nil], [], [], suite,
                suites, [], fresh, said, rfl, hd, rfl, .nil s, ?_, hfailed⟩
              rw [List.append_nil, List.nil_append]

/-- The exit code is zero exactly if every enabled suite passed; a suite that was
    skipped does not count. -/
theorem exitCode_eq_zero_iff {s : RunSettings} {shares : List Share} {suites : List Suite}
    {summary : Summary} {talk : List Exchange}
    (h : Attended s shares suites summary.reports talk) :
    summary.exitCode = 0 ↔
      ∀ a ∈ shares, a.suite.disabled = false → ∃ status, a.report.result = .passed status := by
  have hcode : summary.exitCode = 0 ↔ ∀ a ∈ shares, a.report.result.isFailure = false := by
    rw [Summary.exitCode, ← h.reports]
    simp
  rw [hcode]
  refine forall_congr' fun a => imp_congr_right fun ha => ?_
  have hskipped := (h.fair a ha).skipped_iff
  cases hresult : a.report.result <;> cases hd : a.suite.disabled <;>
    simp_all [SuiteResult.isFailure]

/-- What a campaign reports, whatever the services and the companions do. If it gets
    through, there is one report for each suite, in order, each what the suite's
    course leads to, and the exit code is zero exactly if all enabled suites passed.
    If it is broken off, then by the first enabled suite that could not be set up;
    the reports are those of the suites before it, and its rollback comes last. -/
theorem runCampaign_reports {σ : Type} (s : RunSettings) (file : SuiteFile) (w : World σ)
    (start : σ) :
    let done := (runCampaign s file).run (recording w) ([], start)
    match done.1 with
    | .ok summary =>
        ∃ shares, Attended s shares file.suites summary.reports done.2.1 ∧
          (summary.exitCode = 0 ↔ ∀ a ∈ shares, a.suite.disabled = false →
            ∃ status, a.report.result = .passed status)
    | .error failure =>
        BrokenOff s file.suites failure.suite failure.cause failure.completed.reports
          done.2.1 := by
  intro done
  have htrace : Trace (runCampaign s file) done.2.1 done.1 := by
    rcases run_recording w (runCampaign s file) start with ⟨talk, htalk, hrun⟩
    simpa only [done, hrun] using htalk
  rcases trace_runSuites s file.suites [] _ _ htrace with
    ⟨more, hresult, shares, hshares⟩ | ⟨suite, cause, more, hresult, hbroken⟩
  · rw [hresult]
    exact ⟨shares, hshares, exitCode_eq_zero_iff hshares⟩
  · rw [hresult]
    exact hbroken

end Qualifier
