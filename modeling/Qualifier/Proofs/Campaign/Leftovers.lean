import Qualifier.Proofs.Campaign.Launches
import Qualifier.Proofs.Identity.Leftovers

/-!
# What Files a Campaign Leaves

After each of its suites a campaign removes both credential files, whatever has become of the
suite; and a suite that could not be set up has removed those it wrote. In between a log may
be written and removed, the two paths may be the same, or one may lead through the other, and
any of them may be a link.

None of this keeps a removal from finding its file, as long as the path still leads there. So
at the end no path of a credential has an entry, and every file is accounted for: a private
file is there only if it was there before, or could not be filled, or was stranded by its own
write (`runCampaign_clears_credentials`). The last of these does happen
(`runCampaign_leaves_stranded_key`): a key whose path leads through the link that the key
replaces is out of reach as soon as it is written, and stays.

## Main definitions

* `Turn.CredentialsGone`: At the end of a suite no credential has an entry.

## Theorems

* `exercise_asks`, `exercise_aside`: A suite that runs changes no file.
* `keepUrl_leftovers`: Keeping a log leaves the credentials where they can be removed.
* `runSuite_leftovers`, `runSuites_tidy`: What one suite leaves, and what several leave.
* `runCampaign_clears_credentials`: What a campaign leaves.
-/

namespace Qualifier

open Program Storage Simulated

variable {first : Workspace} {pending : List Path} {t : Footage}

/-- From its shadow to the end of its watch a suite makes requests, waits and launches its
    companion. -/
theorem exercise_asks {P : Ask → Prop}
    (hrequest : ∀ r, r ≠ .createCertificate → P (.service r)) (hpause : ∀ policy, P (.pause policy))
    (hlaunch : ∀ invocation, P (.launch invocation)) (s : RunSettings) (suite : Suite)
    (identity : Identity) : Only P (exercise s suite identity) := by
  have hwatch : Only P (startAndWatch s suite identity) := by
    refine only_question_bind (hpause _) fun _ => ?_
    refine only_question_bind (hrequest _ (by simp)) fun started => ?_
    split
    · trivial
    refine only_question_bind (hrequest _ (by simp)) fun located => ?_
    split
    · trivial
    refine (only_watchFrom s.poll _ _ (hpause _) (hrequest _ (by simp)) (hlaunch _) _ _ _).bind
      fun watched => ?_
    split <;> trivial
  unfold exercise
  split
  · exact hwatch
  next property value _ =>
    have hseed : Only P (seedShadow identity.thingName property value) := by
      refine only_question_bind (hrequest _ (by simp)) fun answer => ?_
      split <;> trivial
    refine hseed.bind fun seeded => ?_
    split
    · trivial
    · exact hwatch

/-- In the meantime it changes no file. -/
theorem exercise_aside (s : RunSettings) (suite : Suite) (identity : Identity) :
    Only Aside (exercise s suite identity) :=
  exercise_asks (fun _ _ => trivial) (fun _ => trivial) (fun _ => trivial) s suite identity

/-- A log may be written and removed before the credentials are. -/
theorem keepUrl_leftovers (h : Steady first pending t) (a : Archive) (url : Option String)
    (thing : String) :
    Ensures (filmed Workspace.stepwise) (a.keepUrl url thing) t fun _ u =>
      Loose first pending u := by
  unfold Archive.keepUrl
  split
  · exact h.loose
  split
  · exact h.loose
  refine (unchanged_request _ t).bind fun events u hu => ?_
  split
  · exact (h.unchanged hu).loose
  next events =>
  refine (ensures_question_bind _ _ _ _ _).mpr ?_
  rintro answer ⟨film, w⟩ ⟨rfl, hstep⟩
  have hwrote := wrote_of_stepwise hstep
  have hsteady := (h.unchanged hu).wrote hwrote
  split
  · exact hsteady.loose
  split
  · exact hsteady.loose
  next bucket _ =>
  refine (unchanged_request _ _).bind fun uploaded v hv => ?_
  split
  · exact (hsteady.unchanged hv).loose
  · -- The log joins the pending paths, ahead of them, and is the first to go.
    have hlog : Loose first (a.pathFor thing :: pending) v := by
      refine ⟨(hsteady.unchanged hv).tidy.mono (List.subset_cons_self _ _), ?_⟩
      rw [hv.files]
      refine List.forall_mem_cons.mpr ⟨(hwrote.firm rfl).harmless, fun path hpath => ?_⟩
      exact (hsteady.firm path hpath).harmless
    refine hlog.ensures_remove.bind ?_
    rintro _ x ⟨hloose, -⟩
    exact hloose

theorem settle_leftovers (h : Steady first pending t) (s : RunSettings) (identity : Identity)
    (outcome : Except SuiteFailure PollReport) :
    Ensures (filmed Workspace.stepwise) (settle s identity outcome) t fun _ u =>
      Loose first pending u := by
  have hdown : ∀ result : SuiteResult,
      Ensures (filmed Workspace.stepwise)
        (do let _ ← deprovision identity.thingName; pure result) t fun _ u =>
          Loose first pending u := by
    intro result
    refine (unchanged_of_only (aside_deprovision _) t).bind fun _ u hu => ?_
    exact (h.unchanged hu).loose
  cases outcome with
  | error failure => exact hdown failure.result
  | ok seen =>
      rw [settle, conclude]
      cases Verdict.ofStatus seen.status with
      | passed => exact hdown (.passed seen.status)
      | failed => exact (keepUrl_leftovers h _ _ _).bind fun _ u hu => hu

/-- What a suite leaves: both paths cleared, or all that it wrote if it could not be set up. -/
theorem runSuite_leftovers (s : RunSettings) (suite : Suite) (h : Tidy first [] t) :
    Ensures (filmed Workspace.stepwise) (runSuite s suite) t
      (Attempt (fun _ u => Undone first t u) fun _ u =>
        Cleared first [s.certificatePath, s.keyPath] u) := by
  have hname : Only Aside (question .freshName) := only_question trivial
  refine (unchanged_of_only hname t).bind fun fresh u hu => ?_
  refine (provision_leftovers _ (h.unchanged hu)).attempt ?_ ?_
  · rintro cause v ⟨named, hcleared, hwritten⟩
    exact ⟨named, hcleared, by rw [hwritten, hu.written]⟩
  · intro identity v hv
    refine (unchanged_of_only (exercise_aside s suite identity) v).bind fun outcome x hx => ?_
    have hsteady : Steady first [s.certificatePath, s.keyPath] x := hv.steady.unchanged hx
    refine (settle_leftovers hsteady s identity outcome).bind fun result y hy => ?_
    rw [hv.certificatePath, hv.keyPath]
    exact (removeCredentials_leftovers hy).bind fun _ z hz => hz

/-- After any number of suites every file is accounted for. -/
theorem runSuites_tidy (s : RunSettings) (suites : List Suite) (reports : List SuiteReport)
    (h : Tidy first [] t) :
    Ensures (filmed Workspace.stepwise) (runSuites s reports suites) t fun _ u =>
      Tidy first [] u := by
  induction suites generalizing reports t with
  | nil => exact h
  | cons suite rest ih =>
      unfold runSuites
      by_cases hdisabled : suite.disabled = true
      · rw [if_pos hdisabled]
        exact ih _ h
      · rw [if_neg hdisabled]
        refine (runSuite_leftovers s suite h).attempt ?_ ?_
        · rintro cause u ⟨named, hcleared, -⟩
          exact hcleared.tidy
        · intro report u hcleared
          exact ih _ hcleared.tidy

/-- At the end of a suite no credential has an entry: neither of the two if the suite was set
    up, whatever became of it then, and none that it wrote if it was not. -/
def Turn.CredentialsGone {τ : Type} (w : World τ) (files : τ → Workspace) (s : RunSettings)
    (a : Turn τ) : Prop :=
  match (runSuite s a.suite).run w a.begun with
  | (.ok _, ended) => ∀ path ∈ [s.certificatePath, s.keyPath], (files ended).found? path = none
  | (.error _, ended) => ∀ path ∈ writtenIn ((a.moments w s).map Moment.exchange),
      (files ended).found? path = none

theorem Turn.credentialsGone {τ : Type} {w : World τ} {files : τ → Workspace}
    (hfiles : w.Admits files Workspace.stepwise) (s : RunSettings) (a : Turn τ) :
    a.CredentialsGone w files s := by
  have hrun := run_of_ensures_filmed hfiles
    (runSuite_leftovers s a.suite (tidy_start (files a.begun)))
  unfold CredentialsGone Turn.moments
  rcases hended : (runSuite s a.suite).run w a.begun with ⟨cause | report, after⟩
  · rw [hended] at hrun
    rcases hrun with ⟨named, hcleared, hwritten⟩
    have hsame : (Moment.exchange ∘ Moment.seen files : Moment τ → Exchange) = Moment.exchange :=
      rfl
    rw [Footage.written, List.nil_append, List.map_map, hsame] at hwritten
    intro path hpath
    rw [show writtenIn _ = named from hwritten] at hpath
    exact hcleared.gone path hpath
  · rw [hended] at hrun
    exact hrun.gone

/-- After each suite of a campaign its credentials have no entry, and after the campaign each
    file anywhere in the tree is accounted for by what was there before and what was written:
    if it holds a key that was written in the campaign, then not for want of a removal, but
    because its path had ceased to lead to it when it was written. The services and the
    companions may do anything, and a write may stop between any two of its calls. -/
theorem runCampaign_clears_credentials {τ : Type} (w : World τ) (files : τ → Workspace)
    (hfiles : w.Admits files Workspace.stepwise) (s : RunSettings) (file : SuiteFile)
    (start : τ) :
    (∃ turns : List (Turn τ), turns.map Turn.suite <+: file.enabled ∧
      moments w (runCampaign s file) start = turns.flatMap (Turn.moments w s) ∧
      ∀ a ∈ turns, a.CredentialsGone w files s) ∧
    ∀ loc content mode,
      (files ((runCampaign s file).run w start).2).tree.get? loc = some (.file content mode) →
      Accounted (files start) ((moments w (runCampaign s file) start).map (Moment.seen files))
        loc content mode := by
  constructor
  · rcases moments_runSuites w s file.suites [] start with ⟨turns, hturns, hmoments⟩
    exact ⟨turns, hturns, hmoments, fun a _ => a.credentialsGone hfiles s⟩
  · have hrun := run_of_ensures_filmed hfiles
      (runSuites_tidy s file.suites [] (tidy_start (files start)))
    intro loc content mode hfile
    exact hrun.accounted hfile

/-- Two suites pass, and both have written credentials that are gone at their end. -/
theorem runCampaign_clears_credentials_running :
    writtenIn ((moments (Bench.world Cloud.service) (runCampaign briefSettings twoSuites)
        runningBench).map Moment.exchange) = [⟨"cert"⟩, ⟨"key"⟩, ⟨"cert"⟩, ⟨"key"⟩] ∧
      ∃ turns : List (Turn (Bench Cloud)),
        moments (Bench.world Cloud.service) (runCampaign briefSettings twoSuites) runningBench
          = turns.flatMap (Turn.moments (Bench.world Cloud.service) briefSettings) ∧
        ∀ a ∈ turns, a.CredentialsGone (Bench.world Cloud.service) Bench.files briefSettings := by
  have hwritten : writtenIn ((moments (Bench.world Cloud.service)
      (runCampaign briefSettings twoSuites) runningBench).map Moment.exchange)
        = [⟨"cert"⟩, ⟨"key"⟩, ⟨"cert"⟩, ⟨"key"⟩] := by decide +kernel
  rcases runCampaign_clears_credentials (Bench.world Cloud.service) Bench.files
    (admits_stepwise Cloud.service) briefSettings twoSuites runningBench with
    ⟨⟨turns, -, hmoments, hgone⟩, -⟩
  exact ⟨hwritten, turns, hmoments, hgone⟩

/-- Settings under which the key replaces a link that its own path leads through. -/
def strandingSettings : RunSettings :=
  { briefSettings with keyPath := ⟨"x/../x"⟩ }

def oneSuite : SuiteFile :=
  ⟨[⟨"only", "suite-1", false, ⟨"device", [], none⟩⟩]⟩

/-- A test bench on which the run passes, with that link. -/
def strandingBench : Bench Cloud where
  service := Cloud.new.pushRun (.ok ⟨.pass, []⟩)
  files := ⟨(Tree.empty.put ["real"] .directory).put ["x"] (.link "real"), []⟩
  companions := ⟨[], []⟩
  clock := ⟨[], []⟩
  names := ["a"]

/-- The bytes of a file and its mode. -/
def Storage.Entry.file? : Entry → Option (ByteArray × Nat)
  | .file content mode => some (content, mode)
  | _ => none

/-- There the suite passes, and the key that was issued for it stays. -/
theorem runCampaign_leaves_stranded_key :
    let done := (runCampaign strandingSettings oneSuite).run (Bench.world Cloud.service)
      strandingBench
    done.1 = .ok ⟨[⟨"only", some "thing-a", .passed .pass⟩]⟩ ∧
      ∃ m ∈ moments (Bench.world Cloud.service) (runCampaign strandingSettings oneSuite)
          strandingBench,
        ∃ certificate, issuedAt? m.exchange = some certificate ∧
          done.2.files.tree.get? ["x"]
            = some (.file certificate.privateKey.toUTF8 privateMode) := by
  have hpassed : ((runCampaign strandingSettings oneSuite).run (Bench.world Cloud.service)
      strandingBench).1.toOption = some ⟨[⟨"only", some "thing-a", .passed .pass⟩]⟩ := by
    decide +kernel
  have hkey : (moments (Bench.world Cloud.service) (runCampaign strandingSettings oneSuite)
      strandingBench).any (fun m => (issuedAt? m.exchange).any fun certificate =>
        (((runCampaign strandingSettings oneSuite).run (Bench.world Cloud.service)
            strandingBench).2.files.tree.get? ["x"]).any fun e =>
          e.file? = some (certificate.privateKey.toUTF8, privateMode)) = true := by
    decide +kernel
  generalize (runCampaign strandingSettings oneSuite).run (Bench.world Cloud.service)
    strandingBench = done at hpassed hkey ⊢
  refine ⟨?_, ?_⟩
  · rcases hdone : done.1 with failure | summary
    · rw [hdone] at hpassed
      exact absurd hpassed (by simp [Except.toOption])
    · rw [hdone] at hpassed
      exact congrArg Except.ok (Option.some.inj hpassed)
  · rcases List.any_eq_true.mp hkey with ⟨m, hm, hissued⟩
    rcases (Option.any_eq_true _ _).mp hissued with ⟨certificate, hcertificate, hfile⟩
    rcases (Option.any_eq_true _ _).mp hfile with ⟨e, he, hholds⟩
    refine ⟨m, hm, certificate, hcertificate, he.trans ?_⟩
    cases e with
    | file content mode =>
        rcases Option.some.inj (of_decide_eq_true hholds) with ⟨rfl, rfl⟩
        rfl
    | _ => exact absurd (of_decide_eq_true hholds) (by simp [Entry.file?])

end Qualifier
