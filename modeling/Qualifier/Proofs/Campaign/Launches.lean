import Qualifier.Proofs.Campaign.Disposition
import Qualifier.Proofs.Identity.Provided
import Qualifier.Proofs.Poll.Launch

/-!
# What Is in Place at a Launch

The companion of a suite is launched in the middle of a watch, after a setup of nine
steps and the start of a remote run, any of which may fail. If it comes to a launch, none
of them did. This module collects what they have left at that moment: the thing with its
certificate, its group and its shadow, the run that was started on it, the files of the
credentials, and an invocation that tells the companion of all this.

No condition is put on the services, and so nothing is known of what else they have on
record. It does not matter, for all that is claimed is about the one thing and the one
certificate, and between the setup and the launch nothing is done to these
(`InPlace.of_watches`).

The files are the exception. A link on the way to the certificate may be replaced when
the key is written, and then there is no way to the certificate any more.

## Main definitions

* `HandedOver`: What a companion is told.
* `Underway`, `InPlace`: What holds in the services and in the workspace, from the start of
  the run on and at a launch.
* `Ready`: A companion is told of what is in place.
* `Turn`: The part of a suite in a campaign.

## Theorems

* `Furnished.guards_startAndWatch`, `guards_runSuite`: A suite launches only when all is in
  place.
* `atMostOnce_runSuite`: It launches one companion at most.
* `moments_runSuites`: A campaign is the suites one after the other.
* `runCampaign_launches`: The launches of a campaign.
-/

namespace Qualifier

open Program Storage Simulated

/-- What a companion is told: to be the program of its suite, which thing it plays, where
    to connect and with which files, and the property of the shadow if there is one. -/
structure HandedOver (s : RunSettings) (suite : Suite) (name endpoint : String)
    (i : Invocation) : Prop where
  program : i.program = suite.companion.program
  arguments : i.arguments = suite.companion.arguments
  workingDirectory : i.workingDirectory = suite.companion.workingDirectory
  thing : i.envValue? "DA_THING_NAME" = some name
  endpoint : i.envValue? "DA_ENDPOINT" = some endpoint
  certificate : i.envValue? "DA_CERTI" = some s.certificatePath.text
  key : i.envValue? "DA_KEY" = some s.keyPath.text
  property : i.envValue? "DA_SHADOW_PROPERTY" = s.shadow.map Prod.fst
  value : i.envValue? "DA_SHADOW_VALUE_DEFAULT" = s.shadow.map Prod.snd

/-- A thing as it is set up for a suite: its certificate is its only principal, it is in
    the group, and its shadow has the first state that is configured. -/
def RunSettings.device (s : RunSettings) (name : String) (certificate : Certificate) : Device where
  arn := thingArn name
  principals := [certificate.arn]
  groups := s.thingGroup.toList
  shadow := s.shadow.map fun p => (shadowDocument p.1 p.2).render

/-- The run of a suite was started: on its thing, which has an active certificate with the
    policy, and with what was delivered since the suite began. -/
structure Underway (s : RunSettings) (suite : Suite) (begun : Workspace) (name : String)
    (certificate : Certificate) (job : Job) (t : Scene) : Prop where
  furnished : Furnished name (s.device name certificate) certificate [s.policyName] t.1 t.2.1
  started : ⟨.service (.startSuiteRun suite.suiteId (thingArn name)), .ok job⟩ ∈ t.1
  suiteId : job.suiteId = suite.suiteId
  listed : job ∈ t.2.1.started
  delivered : Delivered begun s.certificatePath s.keyPath certificate t.2.2

/-- What is in place when a companion is launched: the run, and the endpoint that was
    asked for. -/
structure InPlace (s : RunSettings) (suite : Suite) (begun : Workspace) (name endpoint : String)
    (certificate : Certificate) (job : Job) (t : Scene) : Prop
    extends Underway s suite begun name certificate job t where
  located : ⟨.service (.getEndpoint (thingArn name)), .ok endpoint⟩ ∈ t.1

/-- A launch on behalf of a suite may take place: the companion is told of what is in
    place. -/
def Ready (s : RunSettings) (suite : Suite) (begun : Workspace) (i : Invocation)
    (t : Scene) : Prop :=
  ∃ name endpoint certificate job, HandedOver s suite name endpoint i ∧
    InPlace s suite begun name endpoint certificate job t

theorem handedOver_invocation (s : RunSettings) (suite : Suite) {identity : Identity}
    (endpoint : String) (hcertificate : identity.certificatePath = s.certificatePath)
    (hkey : identity.keyPath = s.keyPath) :
    HandedOver s suite identity.thingName endpoint
      (s.invocation suite.companion identity endpoint) := by
  have henvironment : (s.invocation suite.companion identity endpoint).environment
      = s.environment identity endpoint := rfl
  constructor
  case program => rfl
  case arguments => rfl
  case workingDirectory => rfl
  all_goals
    rw [Invocation.envValue?, henvironment, RunSettings.environment]
    rcases s.shadow with _ | ⟨property, value⟩ <;> simp [hcertificate, hkey]

section

variable {s : RunSettings} {suite : Suite} {begun : Workspace} {name endpoint : String}
  {certificate : Certificate} {job : Job} {t : Scene} {identity : Identity}

/-- The questions of a watch for a suite. -/
def Watches (job : Job) (invocation : Invocation) : Ask → Prop
  | .pause _ => True
  | .service (.getSuiteRun other) => other = job
  | .launch other => other = invocation
  | _ => False

/-- A run that was started stays so while more is said and nothing is recorded. -/
theorem Underway.later {t' : Scene} (h : Underway s suite begun name certificate job t)
    (hsaid : t.1 ⊆ t'.1) (hthings : t'.2.1.things = t.2.1.things)
    (hcertificates : t'.2.1.certificates = t.2.1.certificates)
    (hstarted : t'.2.1.started = t.2.1.started) (hfiles : t'.2.2 = t.2.2) :
    Underway s suite begun name certificate job t' where
  furnished := h.furnished.later hsaid hthings hcertificates
  started := hsaid h.started
  suiteId := h.suiteId
  listed := hstarted ▸ h.listed
  delivered := hfiles ▸ h.delivered

/-- A look at a run leaves alone what is on record. -/
theorem Simulated.Cloud.service_getSuiteRun (job : Job) (c : Cloud) :
    let d := (Cloud.service (.getSuiteRun job) c).2
    d.things = c.things ∧ d.certificates = c.certificates ∧ d.started = c.started := by
  intro d
  simp only [d, Cloud.service_eq]
  split
  · exact ⟨rfl, rfl, rfl⟩
  · rw [Cloud.perform]
    repeat' split
    all_goals exact ⟨rfl, rfl, rfl⟩

theorem Simulated.Cloud.startSuiteRun_ok {suiteId arn : String} {c d : Cloud}
    (h : Cloud.perform (.startSuiteRun suiteId arn) c = (.ok job, d)) :
    job.suiteId = suiteId ∧ d = { c with started := c.started ++ [job] } := by
  rw [Cloud.perform] at h
  split at h
  · rcases Prod.mk.inj h with ⟨hjob, hd⟩
    obtain rfl := Except.ok.inj hjob
    exact ⟨rfl, hd.symm⟩
  · exact absurd h (by simp)

theorem Furnished.startSuiteRun
    (h : Furnished name (s.device name certificate) certificate [s.policyName] t.1 t.2.1)
    (hdelivered : Delivered begun s.certificatePath s.keyPath certificate t.2.2)
    (suite : Suite) :
    Ensures surroundings.recorded (request (.startSuiteRun suite.suiteId (thingArn name))) t
      (Attempt (fun _ _ => True) fun job u =>
        Underway s suite begun name certificate job u) := by
  refine ensures_request_ok fun job d hd => ?_
  rcases Cloud.startSuiteRun_ok hd with ⟨hsuite, rfl⟩
  exact
    { furnished := h.later (List.subset_append_left _ _) rfl rfl
      started := List.mem_append_right _ List.mem_cons_self
      suiteId := hsuite
      listed := List.mem_append_right _ List.mem_cons_self
      delivered := hdelivered }

theorem Underway.getEndpoint (h : Underway s suite begun name certificate job t) :
    Ensures surroundings.recorded (request (.getEndpoint (thingArn name))) t
      (Attempt (fun _ _ => True) fun endpoint u =>
        InPlace s suite begun name endpoint certificate job u) := by
  refine ensures_request_ok fun endpoint d hd => ?_
  rw [Cloud.perform] at hd
  rw [← (Prod.mk.inj hd).2]
  refine { toUnderway := ?_, located := List.mem_append_right _ List.mem_cons_self }
  exact h.later (List.subset_append_left _ _) rfl rfl rfl rfl

/-- A watch leaves everything in place. -/
theorem InPlace.of_watches {looked : Job} {i : Invocation} {q : Ask} (hq : Watches looked i q)
    (h : InPlace s suite begun name endpoint certificate job t) :
    Ensures surroundings.recorded (question q) t fun _ u =>
      InPlace s suite begun name endpoint certificate job u := by
  rintro answer ⟨talk, c, w⟩ ⟨htalk, hcloud, hfiles⟩
  have hsaid : t.1 ⊆ talk := by
    rw [show talk = _ from htalk]
    exact List.subset_append_left _ _
  have hsame : (c.things = t.2.1.things ∧ c.certificates = t.2.1.certificates ∧
      c.started = t.2.1.started) ∧ w = t.2.2 := by
    cases q with
    | pause policy => exact ⟨(show c = t.2.1 from hcloud) ▸ ⟨rfl, rfl, rfl⟩, hfiles⟩
    | launch i => exact ⟨(show c = t.2.1 from hcloud) ▸ ⟨rfl, rfl, rfl⟩, hfiles⟩
    | service r =>
        cases r with
        | getSuiteRun other =>
            have hservice : (answer, c) = Cloud.service (.getSuiteRun other) t.2.1 := hcloud
            rw [(Prod.mk.inj hservice).2]
            exact ⟨Cloud.service_getSuiteRun other t.2.1, hfiles⟩
        | _ => exact hq.elim
    | _ => exact hq.elim
  rcases hsame with ⟨⟨hthings, hcertificates, hstarted⟩, hsameFiles⟩
  refine { toUnderway := ?_, located := hsaid h.located }
  exact h.toUnderway.later hsaid hthings hcertificates hstarted hsameFiles

theorem InPlace.guards_watch (h : InPlace s suite begun name endpoint certificate job t)
    {i : Invocation} (hhanded : HandedOver s suite name endpoint i) (policy : Policy)
    (looked : Job) :
    Guards surroundings.recorded (Ready s suite begun) (watch policy looked i) t := by
  have honly : Only (Watches looked i) (watch policy looked i) := by
    refine only_watchFrom policy looked i (show Watches looked i _ from trivial) ?_ ?_ _ _ _
    · rfl
    · rfl
  refine guards_of_only ?_ (fun q hq u hu => InPlace.of_watches hq hu) honly h
  rintro _ rfl u hu
  exact ⟨name, endpoint, certificate, job, hhanded, hu⟩

/-- From the setup on, a suite launches only when all is in place. -/
theorem Furnished.guards_startAndWatch
    (h : Furnished identity.thingName (s.device identity.thingName certificate) certificate
      [s.policyName] t.1 t.2.1)
    (hdelivered : Delivered begun s.certificatePath s.keyPath certificate t.2.2)
    (harn : identity.thingArn = thingArn identity.thingName)
    (hcertificate : identity.certificatePath = s.certificatePath)
    (hkey : identity.keyPath = s.keyPath) :
    Guards surroundings.recorded (Ready s suite begun) (startAndWatch s suite identity) t := by
  unfold startAndWatch
  rw [harn]
  refine (h.aside (q := .pause s.poll) fun _ _ hd => hd).guards (only_question rfl) ?_
  rintro _ u ⟨hu, hsame⟩
  rw [← show u.2.2 = t.2.2 from hsame] at hdelivered
  refine (hu.startSuiteRun hdelivered suite).guards (only_question rfl) fun started v hv => ?_
  cases started with
  | error cause => trivial
  | ok job =>
      refine (Underway.getEndpoint hv).guards (only_question rfl) fun located x hx => ?_
      cases located with
      | error cause => trivial
      | ok endpoint =>
          have hhanded := handedOver_invocation s suite endpoint hcertificate hkey
          refine (guards_bind _ _ _).mpr ⟨InPlace.guards_watch hx hhanded s.poll job, ?_⟩
          refine (ensures_true _ _ _).mono fun watched y _ => ?_
          cases watched <;> trivial

theorem launchless_seedShadow (thing property value : String) :
    Launchless (seedShadow thing property value) := by
  refine only_question_bind rfl fun answer => ?_
  split <;> trivial

/-- A suite that is set up gets its shadow, if one is configured, before its run is
    started. -/
theorem Provided.guards_exercise
    (h : Provided (s.specification name) ⟨name, thingArn name⟩ s.thingGroup.toList begun
      identity t) :
    Guards surroundings.recorded (Ready s suite begun) (exercise s suite identity) t := by
  rcases h with ⟨certificate, rfl, h, hdelivered⟩
  have hbare : ∀ u : Scene, u.2.2 = t.2.2 →
      Furnished name (s.device name certificate) certificate [s.policyName] u.1 u.2.1 →
      Guards surroundings.recorded (Ready s suite begun)
        (startAndWatch s suite ((s.specification name).identity ⟨name, thingArn name⟩
          certificate)) u := by
    intro u hsame hu
    rw [← hsame] at hdelivered
    exact hu.guards_startAndWatch hdelivered rfl rfl rfl
  unfold exercise
  cases hshadow : s.shadow with
  | none =>
      refine hbare t rfl ?_
      rw [RunSettings.device, hshadow]
      exact h
  | some shadow =>
      rcases shadow with ⟨property, value⟩
      have hseed : Ensures surroundings.recorded (seedShadow name property value) t
          (Attempt (fun _ _ => True) fun _ u =>
            Furnished name (s.device name certificate) certificate [s.policyName] u.1 u.2.1 ∧
              u.2.2 = t.2.2) := by
        refine (h.updateShadow _).attempt (fun _ _ _ => trivial) ?_
        rintro _ u ⟨hu, hsame⟩
        refine ⟨?_, hsame⟩
        rw [RunSettings.device, hshadow]
        exact hu
      refine hseed.guards (launchless_seedShadow name property value) fun seeded u hu => ?_
      cases seeded with
      | error cause => trivial
      | ok _ => exact hbare u hu.2 hu.1

end

theorem isLaunch_of_tearsDown {name : String} {about : String → Prop} {q : Ask}
    (h : TearsDown name about q) : q.isLaunch = false := by
  cases q with
  | launch i => exact h.elim
  | _ => rfl

theorem launchless_deprovision (name : String) : Launchless (deprovision name) :=
  (only_deprovision name).mono fun _ => isLaunch_of_tearsDown

theorem launchless_removeAll (paths : List Path) : Launchless (removeAll paths) := by
  induction paths with
  | nil => trivial
  | cons path rest ih => exact only_question_bind rfl fun _ => ih

theorem launchless_rollback (thing : String) (setback : Setback) :
    Launchless (rollback thing setback) := by
  have hclear : Launchless (do removeAll setback.written; let _ ← deprovision thing; pure ()) :=
    (launchless_removeAll _).bind fun _ => (launchless_deprovision thing).bind fun _ => trivial
  unfold rollback
  split
  · exact hclear
  next id _ =>
    have hretire : Only (TearsDown thing fun _ => True) (retire thing id) :=
      only_retire thing trivial
    exact (hretire.mono fun _ => isLaunch_of_tearsDown).bind fun _ => hclear

theorem launchless_complete (spec : Specification) (thing : Thing) :
    Launchless (complete spec thing) := by
  have hcertify : Launchless (certify spec thing) := by
    refine only_question_bind rfl fun issued => ?_
    split
    · trivial
    refine only_question_bind rfl fun written => ?_
    split
    · trivial
    refine only_question_bind rfl fun written => ?_
    split
    · trivial
    refine only_question_bind rfl fun attached => ?_
    split
    · trivial
    refine only_question_bind rfl fun attached => ?_
    split <;> trivial
  unfold complete
  split
  · exact hcertify
  · refine only_question_bind rfl fun joined => ?_
    split
    · trivial
    · exact hcertify

theorem launchless_provision (spec : Specification) : Launchless (provision spec) := by
  refine only_question_bind rfl fun registered => ?_
  split
  · trivial
  · refine (launchless_complete _ _).bind fun completed => ?_
    split
    · trivial
    · exact (launchless_rollback _ _).bind fun _ => trivial

theorem launchless_settle (s : RunSettings) (identity : Identity)
    (outcome : Except SuiteFailure PollReport) : Launchless (settle s identity outcome) := by
  cases outcome with
  | error failure => exact (launchless_deprovision _).bind fun _ => trivial
  | ok report =>
      show Launchless (conclude s identity report)
      unfold conclude
      cases Verdict.ofStatus report.status with
      | passed => exact (launchless_deprovision _).bind fun _ => trivial
      | failed => exact (only_keepUrl _ _ _).launchless.bind fun _ => trivial

/-- What follows the watch of a suite launches nothing. -/
theorem launchless_aftermath (s : RunSettings) (suite : Suite) (thing : String)
    (identity : Identity) (outcome : Except SuiteFailure PollReport) :
    Launchless (do
      let result ← settle s identity outcome
      let _ ← removeCredentials identity.certificatePath identity.keyPath
      pure (.ok ⟨suite.name, some thing, result⟩ : Except ProvisionError SuiteReport)) :=
  (launchless_settle s identity outcome).bind fun _ =>
    (only_removeCredentials _ _).launchless.bind fun _ => trivial

/-- A suite launches only when all is in place, whatever state it begins in. -/
theorem guards_runSuite (s : RunSettings) (suite : Suite) (t : Scene) :
    Guards surroundings.recorded (Ready s suite t.2.2) (runSuite s suite) t := by
  have hname : Ensures surroundings.recorded (question .freshName) t fun _ u =>
      u.2.2 = t.2.2 := by
    rintro answer ⟨talk, c, w⟩ ⟨-, -, hfiles⟩
    exact hfiles
  refine hname.guards (only_question rfl) fun fresh u hu => ?_
  refine (ensures_provision _ u).guards (launchless_provision _) fun provided v hv => ?_
  cases provided with
  | error cause => trivial
  | ok identity =>
      rw [hu] at hv
      refine (guards_bind _ _ _).mpr ⟨hv.guards_exercise, ?_⟩
      refine (ensures_true _ _ _).mono fun outcome x _ => ?_
      exact guards_of_launchless (launchless_aftermath s suite _ identity outcome) x

theorem atMostOnce_watch (policy : Policy) (job : Job) (i : Invocation) :
    AtMostOnce (watch policy job i) := by
  intro talk result h
  rcases trace_watch_staged h with ⟨looks, companion, hstaged, -⟩
  have hnone : ∀ looks, launchesIn (rounds policy job looks) = [] :=
    fun looks => launchesIn_eq_nil fun e he => not_isLaunch_of_mem_rounds he
  cases hstaged.from_idle with
  | never _ =>
      rw [hnone]
      exact Nat.zero_le 1
  | @once before after look _ _ answer =>
      rw [launchesIn_append, hnone, List.nil_append, ← List.singleton_append, launchesIn_append,
        hnone]
      exact Nat.le_refl 1

theorem atMostOnce_startAndWatch (s : RunSettings) (suite : Suite) (identity : Identity) :
    AtMostOnce (startAndWatch s suite identity) := by
  refine Launchless.bind_atMostOnce (only_question rfl) fun _ => ?_
  refine Launchless.bind_atMostOnce (only_question rfl) fun started => ?_
  cases started with
  | error cause => exact atMostOnce_pure _
  | ok job =>
      refine Launchless.bind_atMostOnce (only_question rfl) fun located => ?_
      cases located with
      | error cause => exact atMostOnce_pure _
      | ok endpoint =>
          refine (atMostOnce_watch _ _ _).bind fun watched => ?_
          cases watched <;> trivial

theorem atMostOnce_runSuite (s : RunSettings) (suite : Suite) : AtMostOnce (runSuite s suite) := by
  have hexercise : ∀ identity, AtMostOnce (exercise s suite identity) := by
    intro identity
    unfold exercise
    rcases s.shadow with _ | ⟨property, value⟩
    · exact atMostOnce_startAndWatch s suite identity
    · refine (launchless_seedShadow _ _ _).bind_atMostOnce fun seeded => ?_
      cases seeded with
      | error cause => exact atMostOnce_pure _
      | ok _ => exact atMostOnce_startAndWatch s suite identity
  refine Launchless.bind_atMostOnce (only_question rfl) fun fresh => ?_
  refine (launchless_provision _).bind_atMostOnce fun provided => ?_
  cases provided with
  | error cause => exact atMostOnce_pure _
  | ok identity =>
      exact (hexercise identity).bind fun outcome =>
        launchless_aftermath s suite _ identity outcome

/-- The part of a suite in a campaign: the suite, and the state it begins in. -/
structure Turn (τ : Type) where
  suite : Suite
  begun : τ

def Turn.moments {τ : Type} (w : World τ) (s : RunSettings) (a : Turn τ) : List (Moment τ) :=
  Program.moments w (runSuite s a.suite) a.begun

/-- A campaign is made of the turns of enabled suites, in their order. -/
theorem moments_runSuites {τ : Type} (w : World τ) (s : RunSettings) (suites : List Suite)
    (reports : List SuiteReport) (start : τ) :
    ∃ turns : List (Turn τ),
      turns.map Turn.suite <+: suites.filter (fun suite => !suite.disabled) ∧
      moments w (runSuites s reports suites) start = turns.flatMap (Turn.moments w s) := by
  induction suites generalizing reports start with
  | nil => exact ⟨[], List.prefix_refl _, rfl⟩
  | cons suite rest ih =>
      unfold runSuites
      by_cases hdisabled : suite.disabled
      · rw [if_pos hdisabled, List.filter_cons_of_neg (by simpa using hdisabled)]
        exact ih _ _
      · rw [if_neg hdisabled, List.filter_cons_of_pos (by simpa using hdisabled), moments_bind]
        -- A suite that could not be set up has its turn too, and it is the last one.
        rcases hrun : (runSuite s suite).run w start with ⟨cause | report, later⟩
        · refine ⟨[⟨suite, start⟩], ?_, ?_⟩
          · exact List.cons_prefix_cons.mpr ⟨rfl, List.nil_prefix⟩
          · rw [List.flatMap_cons, List.flatMap_nil]
            rfl
        · rcases ih (reports ++ [report]) later with ⟨turns, hturns, hmoments⟩
          refine ⟨⟨suite, start⟩ :: turns, ?_, ?_⟩
          · exact List.cons_prefix_cons.mpr ⟨rfl, hturns⟩
          · rw [List.flatMap_cons, ← hmoments]
            rfl

/-- A campaign has a turn for each of the enabled suites it comes to, in the order of the
    file. In each turn there is one launch at most, and what is launched is the companion
    of that suite, told of what is in place at that moment. -/
theorem runCampaign_launches {τ : Type} (w : World τ) (cloud : τ → Cloud)
    (files : τ → Workspace) (hcloud : w.Admits cloud Cloud.behaviour)
    (hfiles : w.Admits files Workspace.behaviour) (s : RunSettings) (file : SuiteFile)
    (start : τ) :
    ∃ turns : List (Turn τ), turns.map Turn.suite <+: file.enabled ∧
      moments w (runCampaign s file) start = turns.flatMap (Turn.moments w s) ∧
      ∀ a ∈ turns, (launchesIn ((a.moments w s).map Moment.exchange)).length ≤ 1 ∧
        ∀ before m after i, a.moments w s = before ++ m :: after →
          launched? m.exchange = some i →
          Ready s a.suite (files a.begun) i
            (before.map Moment.exchange, cloud m.state, files m.state) := by
  rcases moments_runSuites w s file.suites [] start with ⟨turns, hturns, hmoments⟩
  refine ⟨turns, hturns, hmoments, fun a _ => ⟨?_, ?_⟩⟩
  · exact atMostOnce_runSuite s a.suite _ _ (trace_moments w _ a.begun)
  · intro before m after i hsplit hlaunch
    have hguards := guards_runSuite s a.suite ([], cloud a.begun, files a.begun)
    exact ready_of_guards (hcloud.beside hfiles) hguards hsplit hlaunch

/-- A test bench on which a run is seen running and then to have passed. -/
def runningBench : Bench Cloud where
  service := (Cloud.new.pushRun (.ok ⟨.running, [[⟨.running, none⟩]]⟩)).pushRun (.ok ⟨.pass, []⟩)
  files := ⟨.empty, []⟩
  companions := ⟨[], []⟩
  clock := ⟨[], []⟩
  names := ["a", "b"]

/-- Without links in the way a companion is launched with both files there. -/
theorem runCampaign_launches_in_place :
    ∃ turns : List (Turn (Bench Cloud)),
      moments (Bench.world Cloud.service) (runCampaign briefSettings twoSuites) runningBench
        = turns.flatMap (Turn.moments (Bench.world Cloud.service) briefSettings) ∧
      ∃ a ∈ turns, ∃ before m after i,
        a.moments (Bench.world Cloud.service) briefSettings = before ++ m :: after ∧
        launched? m.exchange = some i ∧
        (m.state.files.found? ⟨"cert"⟩).isSome ∧ (m.state.files.found? ⟨"key"⟩).isSome ∧
        Ready briefSettings a.suite a.begun.files i
          (before.map Moment.exchange, m.state.service, m.state.files) := by
  have hlaunch : (moments (Bench.world Cloud.service) (runCampaign briefSettings twoSuites)
      runningBench).any (fun m => (launched? m.exchange).isSome &&
        ((m.state.files.found? ⟨"cert"⟩).isSome && (m.state.files.found? ⟨"key"⟩).isSome))
        = true := by
    decide +kernel
  rcases runCampaign_launches (Bench.world Cloud.service) Bench.service Bench.files
    admits_service (Workspace.admits_files Cloud.service) briefSettings twoSuites runningBench with
    ⟨turns, -, hmoments, hready⟩
  rw [hmoments, List.any_eq_true] at hlaunch
  rcases hlaunch with ⟨m, hmem, hm⟩
  rw [Bool.and_eq_true, Bool.and_eq_true, Option.isSome_iff_exists] at hm
  rcases hm with ⟨⟨i, hi⟩, hfound⟩
  rcases List.mem_flatMap.mp hmem with ⟨a, ha, hmem⟩
  rcases List.append_of_mem hmem with ⟨before, after, hsplit⟩
  exact ⟨turns, hmoments, a, ha, before, m, after, i, hsplit, hi, hfound.1, hfound.2,
    (hready a ha).2 before m after i hsplit hi⟩

/-- Settings under which the certificate is to lie in a directory that is also where the
    key is to be. -/
def linkedSettings : RunSettings :=
  { briefSettings with certificatePath := ⟨"d/cert.pem"⟩, keyPath := ⟨"d"⟩ }

/-- A test bench on which that directory is a link to another one. -/
def linkedBench : Bench Cloud :=
  { runningBench with
    files := ⟨(Tree.empty.put ["real"] .directory).put ["d"] (.link "real"), []⟩ }

/-- There the key takes the place of the link, and at the launch no entry is found under
    the path the companion is given for the certificate. -/
theorem runCampaign_launches_without_certificate :
    ∃ m ∈ moments (Bench.world Cloud.service) (runCampaign linkedSettings twoSuites) linkedBench,
      (∃ i, launched? m.exchange = some i ∧ i.envValue? "DA_CERTI" = some "d/cert.pem") ∧
        m.state.files.found? ⟨"d/cert.pem"⟩ = none := by
  have hlaunch : (moments (Bench.world Cloud.service) (runCampaign linkedSettings twoSuites)
      linkedBench).any (fun m => ((launched? m.exchange).any fun i =>
        i.envValue? "DA_CERTI" = some "d/cert.pem") &&
          (m.state.files.found? ⟨"d/cert.pem"⟩).isNone) = true := by
    decide +kernel
  rcases List.any_eq_true.mp hlaunch with ⟨m, hmem, hm⟩
  rw [Bool.and_eq_true, Option.any_eq_true, Option.isNone_iff_eq_none] at hm
  rcases hm with ⟨⟨i, hi, hvalue⟩, hnone⟩
  exact ⟨m, hmem, ⟨i, hi, of_decide_eq_true hvalue⟩, hnone⟩

end Qualifier
