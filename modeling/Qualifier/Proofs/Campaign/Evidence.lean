import Qualifier.Proofs.Campaign.Launches
import Qualifier.Proofs.Evidence.Exports

/-!
# Where the Logs of a Campaign Are

A suite is reported as failed only after its log was exported, and the report says where the log
is. Which log that is follows from the suite itself: the address is the one that the end of its
watch was seen with, and the name is that of the thing that was set up for it. The export is found
in the moments of the suite, which are found in those of the campaign, so what is known of an
export in any run (`Archive.Ends`) is known of it there.

## Main definitions

* `Archive.EndsIn`: How the export of a log ends that begins in some state of a world.
* `Turn.named`, `Turn.provided`, `Turn.watched`: A suite up to the end of its watch.
* `Turn.Exports`: What export is made after that.

## Theorems

* `keepUrl_endsIn`: Every export ends in one of the ways there are.
* `runSuite_exports`: A suite that failed has had its log exported.
* `mem_reports_cases`: Every report comes from a suite that was run, or that was skipped.
* `failed_logs_kept`: No log is lost, and the reports tell where it is.
-/

namespace Qualifier

open Program Storage Simulated

variable {τ : Type}

/-- How the export of a log ends that begins in some state of a world. -/
def Archive.EndsIn (w : World τ) (files : τ → Workspace) (a : Archive) (url : Option String)
    (thing : String) (begun : τ) (log : Option String) : Prop :=
  let kept := a.keepUrl url thing
  a.Ends url thing (files begun) (files (kept.run w begun).2)
    ((moments w kept begun).map (Moment.seen files)) (kept.run w begun).1 log

/-- The name that a suite gets for its thing. -/
def Turn.named (w : World τ) (a : Turn τ) : String × τ :=
  (question .freshName).run w a.begun

/-- The identity that is set up for it. -/
def Turn.provided (w : World τ) (s : RunSettings) (a : Turn τ) :
    Except ProvisionError Identity × τ :=
  (provision (s.specification (s.thingNamePrefix ++ (a.named w).1))).run w (a.named w).2

/-- The end of its watch, on that identity. -/
def Turn.watched (w : World τ) (s : RunSettings) (a : Turn τ) (identity : Identity) :
    Except SuiteFailure PollReport × τ :=
  (exercise s a.suite identity).run w (a.provided w s).2

/-- After a watch that saw the end of its run the log is exported that it was told of, for the
    thing that was set up. -/
structure Turn.Exports (w : World τ) (s : RunSettings) (a : Turn τ) (identity : Identity)
    (seen : PollReport) (begun : τ) : Prop where
  provided : (a.provided w s).1 = .ok identity
  watched : a.watched w s identity = (.ok seen, begun)
  exported : Program.moments w (s.archive.keepUrl seen.logUrl identity.thingName) begun
    <:+: a.moments w s

variable {w : World τ} {files : τ → Workspace} {s : RunSettings}

/-- What is reported is where the log is. -/
theorem Archive.Ends.reportedLog_eq {a : Archive} {url log : Option String} {thing : String}
    {before after : Workspace} {film : List (Moment Workspace)}
    {result : Except ExportError Exported} (h : a.Ends url thing before after film result log) :
    reportedLog result = log := by
  cases h <;> rfl

/-- Every export ends in one of the ways there are. -/
theorem keepUrl_endsIn (hfiles : w.Admits files Workspace.fallible) (a : Archive)
    (url : Option String) (thing : String) (begun : τ) :
    a.EndsIn w files url thing begun (reportedLog ((a.keepUrl url thing).run w begun).1) := by
  obtain ⟨log, hends⟩ := run_of_ensures_filmed hfiles (keepUrl_ends a url thing (files begun))
  rw [hends.reportedLog_eq]
  exact hends

/-- A watch that ended in failure is followed by the export of its log. -/
theorem conclude_exports {identity : Identity} {seen : PollReport} {begun : τ}
    {status : RunStatus} {log : Option String}
    (h : ((conclude s identity seen).run w begun).1 = .failed status log) :
    status = seen.status ∧
      log = reportedLog
        ((s.archive.keepUrl seen.logUrl identity.thingName).run w begun).1 ∧
      moments w (s.archive.keepUrl seen.logUrl identity.thingName) begun
        <:+: moments w (conclude s identity seen) begun := by
  unfold conclude at h ⊢
  cases hverdict : Verdict.ofStatus seen.status with
  | passed =>
      rw [hverdict] at h
      exact absurd h (by simp)
  | failed =>
      rw [hverdict] at h
      simp only [run_bind, run_pure, SuiteResult.failed.injEq] at h
      exact ⟨h.1.symm, h.2.symm, infix_moments_left (List.infix_refl _) _⟩

/-- There is no other failure to report. -/
theorem ok_of_settle_failed {identity : Identity} {outcome : Except SuiteFailure PollReport}
    {begun : τ} {status : RunStatus} {log : Option String}
    (h : ((settle s identity outcome).run w begun).1 = .failed status log) :
    ∃ seen, outcome = .ok seen := by
  cases outcome with
  | ok seen => exact ⟨seen, rfl⟩
  | error failure =>
      simp only [settle, run_bind, run_pure] at h
      unfold SuiteFailure.result at h
      split at h <;> exact absurd h (by simp)

/-- A suite that failed has had its log exported, and it is reported where that is. -/
theorem runSuite_exports {a : Turn τ} {r : SuiteReport} {status : RunStatus} {log : Option String}
    (hrun : ((runSuite s a.suite).run w a.begun).1 = .ok r)
    (hfailed : r.result = .failed status log) :
    ∃ identity seen begun, a.Exports w s identity seen begun ∧ status = seen.status ∧
      log = reportedLog ((s.archive.keepUrl seen.logUrl identity.thingName).run w begun).1 := by
  rcases hprovided : a.provided w s with ⟨cause | identity, later⟩
  · have hsame : ((runSuite s a.suite).run w a.begun).1 = .error cause := by
      unfold Turn.provided Turn.named at hprovided
      simp only [runSuite, run_bind, hprovided, run_pure]
    exact absurd (hrun.symm.trans hsame) (by simp)
  rcases hwatched : a.watched w s identity with ⟨outcome, begun⟩
  -- The stages of the suite, with what they come to in this run.
  have hsetup := hprovided
  have hwatch := hwatched
  unfold Turn.watched at hwatch
  rw [hprovided] at hwatch
  unfold Turn.provided Turn.named at hsetup
  simp only [runSuite, run_bind, hsetup, hwatch, run_pure, Except.ok.injEq] at hrun
  subst hrun
  rcases ok_of_settle_failed hfailed with ⟨seen, rfl⟩
  rcases conclude_exports hfailed with ⟨hstatus, hlog, hexport⟩
  refine ⟨identity, seen, begun, ⟨congrArg Prod.fst hprovided, hwatched, ?_⟩, hstatus, hlog⟩
  -- What comes before the suite is settled exports nothing, and is passed over part by part.
  unfold Turn.moments runSuite
  refine infix_moments_right (infix_moments_right ?_)
  rw [hsetup]
  refine infix_moments_right ?_
  rw [hwatch]
  exact infix_moments_left hexport _

/-- Every report of a campaign was there before, or its suite was skipped, or it comes from a suite
    that was run in the course of the campaign. -/
theorem mem_reports_cases (suites : List Suite) (reports : List SuiteReport) (start : τ)
    {r : SuiteReport} (h : r ∈ reportsOf ((runSuites s reports suites).run w start).1) :
    r ∈ reports ∨ r.result = .skipped ∨
      ∃ a : Turn τ, ((runSuite s a.suite).run w a.begun).1 = .ok r ∧
        a.moments w s <:+: moments w (runSuites s reports suites) start := by
  -- The reports there are already grow with every suite, so the induction is for any of them.
  induction suites generalizing reports start with
  | nil => exact Or.inl h
  | cons suite rest ih =>
      unfold runSuites at h ⊢
      by_cases hdisabled : suite.disabled = true
      · rw [if_pos hdisabled] at h ⊢
        rcases ih _ _ h with hmem | hlater
        · rcases List.mem_append.mp hmem with hmem | hmem
          · exact Or.inl hmem
          · exact Or.inr (Or.inl (by rw [List.mem_singleton.mp hmem]))
        · exact Or.inr hlater
      · rw [if_neg hdisabled] at h ⊢
        rw [run_bind] at h
        have hturn : (Turn.mk suite start).moments w s <:+: moments w (runSuite s suite) start :=
          List.infix_refl _
        rcases hrun : (runSuite s suite).run w start with ⟨cause | report, later⟩
        · rw [hrun] at h
          exact Or.inl h
        · rw [hrun] at h
          rcases ih _ _ h with hmem | hskipped | ⟨a, ha, hinfix⟩
          · rcases List.mem_append.mp hmem with hmem | hmem
            · exact Or.inl hmem
            · obtain rfl := List.mem_singleton.mp hmem
              exact Or.inr (Or.inr ⟨⟨suite, start⟩, congrArg Prod.fst hrun,
                infix_moments_left hturn _⟩)
          · exact Or.inr (Or.inl hskipped)
          · refine Or.inr (Or.inr ⟨a, ha, infix_moments_right ?_⟩)
            rw [hrun]
            exact hinfix

/-- No log is lost. The export of a log ends in one of the ways there are, and the simulated
    services have then recorded what they took and nothing else. A suite is reported as failed only
    after such an export of its own log, in the course of that very suite, and the report says
    where the log is. The log itself is its events with one line end each, and the lines of it are
    the events. -/
theorem failed_logs_kept (w : World τ) (files : τ → Workspace)
    (hfiles : w.Admits files Workspace.fallible) :
    (∀ (a : Archive) (url : Option String) (thing : String) (begun : τ),
      (∃ log, a.EndsIn w files url thing begun log) ∧
      ∀ cloud : τ → Cloud, w.Admits cloud Cloud.behaviour →
        (cloud ((a.keepUrl url thing).run w begun).2).uploads = (cloud begun).uploads ++
          takenIn ((moments w (a.keepUrl url thing) begun).map (Moment.seen files))) ∧
    (∀ (s : RunSettings) (file : SuiteFile) (start : τ),
      ∀ r ∈ reportsOf ((runCampaign s file).run w start).1, ∀ status log,
        r.result = .failed status log → ∃ a : Turn τ,
          ((runSuite s a.suite).run w a.begun).1 = .ok r ∧
          a.moments w s <:+: moments w (runCampaign s file) start ∧
          ∃ identity seen begun, a.Exports w s identity seen begun ∧ status = seen.status ∧
            s.archive.EndsIn w files seen.logUrl identity.thingName begun log) ∧
    (∀ events : List String,
      (∃ lines, List.Forall₂ Lined events lines ∧ (renderLog events).toList = lines.flatten) ∧
      ((∀ event ∈ events, '\n' ∉ event.toList.dropLast) →
        linesOf (renderLog events) = events.map chomped) ∧
      ((∀ event ∈ events, '\n' ∉ event.toList) → linesOf (renderLog events) = events)) := by
  refine ⟨fun a url thing begun => ⟨⟨_, keepUrl_endsIn hfiles a url thing begun⟩, ?_⟩, ?_, ?_⟩
  · exact fun cloud hcloud => uploads_run hcloud (a.keepUrl url thing) begun
  · intro s file start r hr status log hfailed
    rcases mem_reports_cases file.suites [] start hr with hmem | hskipped | ⟨a, ha, hinfix⟩
    · exact absurd hmem List.not_mem_nil
    · exact absurd (hskipped.symm.trans hfailed) (by simp)
    · obtain ⟨identity, seen, begun, hexport, hstatus, rfl⟩ := runSuite_exports ha hfailed
      exact ⟨a, ha, hinfix, identity, seen, begun, hexport, hstatus,
        keepUrl_endsIn hfiles s.archive seen.logUrl identity.thingName begun⟩
  · intro events
    refine ⟨toList_renderLog events, linesOf_renderLog, fun h => ?_⟩
    rw [linesOf_renderLog fun event hevent hmem =>
      h event hevent (List.dropLast_subset _ hmem)]
    have hsame : events.map chomped = events.map id :=
      List.map_congr_left fun event hevent => chomped_eq_self (h event hevent)
    rw [hsame, List.map_id]

/-- A test bench on which two runs fail, with two events in their log. The first upload is taken
    and the second one is refused. -/
def failingBench : Bench Cloud :=
  let run : Snapshot := ⟨.fail, [[⟨.fail, some "https://console/#group=/device;stream=run"⟩]]⟩
  let cloud := (((Cloud.new.pushRun (.ok run)).pushRun (.ok run)).passNext .upload).failNext .upload
    (.rejected "cp" "AccessDenied")
  { runningBench with service := { cloud with logEvents := ["connected", "refused\n"] } }

/-- The first log is in the bucket, and the second one is in its file. -/
theorem failed_logs_kept_apart :
    let s := { briefSettings with logBucket := some "bucket" }
    let w := Bench.world Cloud.service
    (∃ a identity seen begun, Turn.Exports w s a identity seen begun ∧
      s.archive.EndsIn w Bench.files seen.logUrl identity.thingName begun
        (some "s3://bucket/suite-log-thing-a.log")) ∧
    (∃ a identity seen begun, Turn.Exports w s a identity seen begun ∧
      s.archive.EndsIn w Bench.files seen.logUrl identity.thingName begun
        (some "logs/suite-log-thing-b.log")) ∧
    ((runCampaign s twoSuites).run w failingBench).2.service.uploads =
      [⟨⟨"logs/suite-log-thing-a.log"⟩, "bucket", "suite-log-thing-a.log"⟩] ∧
    linesOf (renderLog ["connected", "refused\n"]) = ["connected", "refused"] := by
  intro s w
  have hresults : (reportsOf ((runCampaign s twoSuites).run w failingBench).1).map
      SuiteReport.result = [.failed .fail (some "s3://bucket/suite-log-thing-a.log"),
        .failed .fail (some "logs/suite-log-thing-b.log")] := by
    decide +kernel
  obtain ⟨-, hkept, hlines⟩ := failed_logs_kept w Bench.files (admits_fallible Cloud.service)
  have hended : ∀ log, .failed .fail log ∈ (reportsOf ((runCampaign s twoSuites).run w
      failingBench).1).map SuiteReport.result →
        ∃ a identity seen begun, Turn.Exports w s a identity seen begun ∧
          s.archive.EndsIn w Bench.files seen.logUrl identity.thingName begun log := by
    intro log hlog
    obtain ⟨r, hr, hfailed⟩ := List.mem_map.mp hlog
    obtain ⟨a, -, -, identity, seen, begun, hexport, -, hends⟩ :=
      hkept s twoSuites failingBench r hr _ _ hfailed
    exact ⟨a, identity, seen, begun, hexport, hends⟩
  refine ⟨hended _ ?_, hended _ ?_, by decide +kernel,
    (hlines ["connected", "refused\n"]).2.1 (by decide)⟩ <;> rw [hresults] <;> simp

end Qualifier
