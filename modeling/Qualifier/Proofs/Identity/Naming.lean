import Qualifier.Proofs.Identity.Usable

/-!
# One Name for a Certificate

A certificate goes by its name in four places: the rollback of a setup retires it under the name
it was issued with, the registry looks it up when a policy is attached, the identity that was set
up carries its name, and a teardown reads the name off what is attached to the thing. Two of these
are given the name itself, and two cut it out of the full name, in different ways.

All of them agree, on any text (`certificateIdOfArn_append` and what follows it), and so the one
certificate of a setup is the one that everything later is about. What a teardown asks for depends
on what the registry answers first, so that part is about the registry as it is then; it may be
any that still has the thing with its principals.

## Main definitions

* `NamedAlike`: All that names the certificate of an identity names the same one.

## Theorems

* `certificateIdOfArn_append`, `slash_not_mem_certificateIdOfArn`: What is cut out of a text.
* `setback_certificate`: A setback names the certificate that was issued.
* `attachPolicy_of_settingUp`: A policy is attached to this certificate and to no other.
* `deprovision_asks_about`: A teardown is about what is attached to the thing.
* `certificate_named_alike`: One certificate goes by one name from its issue to its removal.
-/

namespace Qualifier

open Program Storage Simulated

/-! ## Cutting the name out of a text -/

/-- What follows the last `/` of a text. -/
theorem certificateIdOfArn_append {id : String} (h : '/' ∉ id.toList) (stem : String) :
    certificateIdOfArn (stem ++ "/" ++ id) = id := by
  have hcut : (stem ++ "/" ++ id).toList = stem.toList ++ '/' :: id.toList := by
    rw [String.toList_append, String.toList_append, List.append_assoc]
    rfl
  rw [certificateIdOfArn, hcut, Text.afterLast_append _ _ _ h, String.ofList_toList]

theorem certificateIdOfArn_eq_self {text : String} (h : '/' ∉ text.toList) :
    certificateIdOfArn text = text := by
  rw [certificateIdOfArn, Text.afterLast_eq_self h, String.ofList_toList]

theorem slash_not_mem_certificateIdOfArn (text : String) :
    '/' ∉ (certificateIdOfArn text).toList := by
  rw [certificateIdOfArn, String.toList_ofList]
  exact Text.not_mem_afterLast _ _

/-! ## The name in a setup -/

variable {spec : Specification} {thing : Thing} {certificate : Certificate} {setback : Setback}
  {name : String} {talk : List Exchange} {x : Exchange}

/-- What fails issues nothing. -/
theorem issuedAt?_of_failure {failure : ProvisionError} (h : failureAt? name x = some failure) :
    issuedAt? x = none := by
  rcases x with ⟨question, answer⟩
  cases question with
  | service request =>
      cases answer with
      | error cause => cases request <;> rfl
      | ok _ => exact absurd h (by simp [failureAt?])
  | _ => rfl

/-- The certificate that is handed on to a rollback is the one that was issued. -/
theorem setback_certificate (h : Trace (complete spec thing) talk (.error setback)) :
    setback.certificate = (certificateIn talk).map Certificate.id := by
  rcases tried_complete h with ⟨before, last, rfl, -, -, hlast, hcertificate, -⟩
  rw [hcertificate, certificateIn_concat, issuedAt?_of_failure hlast, Option.or_none]
  rfl

/-- What a setup asks for after a certificate was issued to it. -/
theorem settingUp_of_certificate (hasked : talk.map Sigma.fst = settingUp spec talk)
    (hissued : certificateIn talk = some certificate) :
    ∃ thing, talk.map Sigma.fst =
      .service (.createThing spec.thing) :: completing spec thing (some certificate) := by
  rcases hthing : thingIn talk with _ | thing
  · -- Without a thing nothing but its registration is asked for, and nothing is issued.
    rw [settingUp, hthing, Option.elim_none] at hasked
    rcases List.map_eq_singleton_iff.mp hasked with ⟨x, rfl, hx⟩
    rcases x with ⟨question, answer⟩
    obtain rfl : question = .service (.createThing spec.thing) := hx
    rw [certificateIn_cons] at hissued
    exact absurd hissued (by simp [issuedAt?, certificateIn])
  · rw [settingUp, hthing, hissued, Option.elim_some] at hasked
    exact ⟨thing, hasked⟩

/-- A setup that has gone well has attached its policy, to the certificate that was issued to
    it, and none to anything else. -/
theorem attachPolicy_of_settingUp (hasked : talk.map Sigma.fst = settingUp spec talk)
    (hsmooth : ∀ x ∈ talk, failureAt? name x = none)
    (hissued : certificateIn talk = some certificate) :
    ⟨.service (.attachPolicy spec.policy certificate.arn), .ok ()⟩ ∈ talk ∧
      ∀ policy target answer, ⟨.service (.attachPolicy policy target), answer⟩ ∈ talk →
        policy = spec.policy ∧ target = certificate.arn := by
  rcases settingUp_of_certificate hasked hissued with ⟨thing, hquestions⟩
  constructor
  · have hmem : Ask.service (.attachPolicy spec.policy certificate.arn) ∈
        talk.map Sigma.fst := by
      rw [hquestions]
      simp [completing, certifying, delivering, attaching]
    rcases List.mem_map.mp hmem with ⟨⟨question, answer⟩, hx, hquestion⟩
    obtain rfl : question = .service (.attachPolicy spec.policy certificate.arn) := hquestion
    cases answer with
    | error cause => exact absurd (hsmooth _ hx) (by simp [failureAt?, Request.setupStep?])
    | ok _ => exact hx
  · intro policy target answer hx
    have hmem := List.mem_map_of_mem (f := Sigma.fst) hx
    rw [hquestions] at hmem
    simpa [completing, certifying, delivering, attaching] using hmem

/-! ## The name in a teardown -/

/-- A registry that lists the principals of a thing lists those it has. -/
theorem listPrincipals_ok {c d : Cloud} {principals : List String}
    (h : Cloud.behaviour (.service (.listPrincipals name)) c (.ok principals) d) :
    ∃ dev, c.things.get? name = some dev ∧ principals = dev.principals := by
  have hservice : (Except.ok principals, d) = Cloud.service (.listPrincipals name) c := h
  rw [Cloud.service_eq] at hservice
  split at hservice
  · exact absurd hservice (by simp)
  rw [Cloud.perform, Cloud.noted_things] at hservice
  rcases hdev : c.things.get? name with _ | dev
  · rw [hdev] at hservice
    exact absurd hservice (by simp)
  · rw [hdev] at hservice
    exact ⟨dev, rfl, Except.ok.inj (Prod.mk.inj hservice).1⟩

/-- A teardown is about the certificates that are attached to the thing when it begins. -/
theorem deprovision_asks_about {about : String → Prop} {c : Cloud}
    (h : ∀ dev, c.things.get? name = some dev →
      ∀ principal ∈ dev.principals, about (certificateIdOfArn principal)) :
    Ensures Cloud.behaviour.recorded (deprovision name) ([], c) fun _ t =>
      ∀ x ∈ t.1, TearsDown name about x.1 := by
  refine (ensures_question_bind _ _ _ _ _).mpr ?_
  rintro listed ⟨said, d⟩ ⟨rfl, hlisted⟩
  have hfirst : ∀ x ∈ ([] : List Exchange) ++ [⟨.service (.listPrincipals name), listed⟩],
      TearsDown name about x.1 := by
    intro x hx
    rw [List.nil_append, List.mem_singleton] at hx
    exact hx ▸ rfl
  cases listed with
  | error cause =>
      simp only
      split <;> exact hfirst
  | ok principals =>
      rcases listPrincipals_ok hlisted with ⟨dev, hdev, rfl⟩
      refine ensures_of_only ?_ (only_removeAttached name 0 _ (h dev hdev)) hfirst
      rintro q hq s hs answer t ⟨hsaid, -⟩ x hx
      rw [hsaid] at hx
      rcases List.mem_append.mp hx with hx | hx
      · exact hs x hx
      · exact List.mem_singleton.mp hx ▸ hq

/-! ## One name -/

/-- All that names the certificate of an identity names the same one: the name it was issued
    with is the one the identity carries, the one the policy was attached under, the one that
    is read off the principal of the thing, and the one it is stored under. -/
structure NamedAlike (spec : Specification) (identity : Identity) (certificate : Certificate)
    (talk : List Exchange) (c : Cloud) : Prop where
  handle : identity.certificateId = certificate.id
  attached : ⟨.service (.attachPolicy spec.policy certificate.arn), .ok ()⟩ ∈ talk
  policy : ∀ policy target answer, ⟨.service (.attachPolicy policy target), answer⟩ ∈ talk →
    storedUnder target = certificate.id
  principals : ∃ dev, c.things.get? identity.thingName = some dev ∧
    dev.principals = [identity.certificateArn] ∧
      certificateIdOfArn identity.certificateArn = certificate.id
  stored : c.certificates.get? certificate.id = some ⟨.active, [spec.policy]⟩

/-- What a completed setup has provided bears one name. -/
theorem namedAlike_of_provided {begun : Workspace} {groups : List String} {identity : Identity}
    {t : Scene} (hprovided : Provided spec thing groups begun identity t)
    (hconcluded : ConcludedSetup spec t.1 (.ok identity))
    (hissued : certificateIn t.1 = some certificate)
    (harn : identity.certificateArn = certificate.arn)
    (hid : identity.certificateId = certificate.id) :
    NamedAlike spec identity certificate t.1 t.2.1 := by
  rcases hprovided with ⟨provided, rfl, hfurnished, -⟩
  rcases hconcluded with ⟨hasked, hsmooth⟩
  rcases attachPolicy_of_settingUp hasked hsmooth hissued with ⟨hattached, hothers⟩
  obtain harn : provided.arn = certificate.arn := harn
  obtain hid : provided.id = certificate.id := hid
  have hname : certificateIdOfArn certificate.arn = certificate.id := by
    rw [← harn, hfurnished.certificateIdOfArn, hid]
  refine ⟨hid, hattached, ?_, ⟨_, hfurnished.thing, rfl, ?_⟩, ?_⟩
  · intro policy target answer hmem
    rw [(hothers policy target answer hmem).2, storedUnder_eq, hname]
  · exact (congrArg certificateIdOfArn harn).trans hname
  · rw [← hid]
    exact hfurnished.certificate

/-- The name that is cut out of a text is the same on both sides of the registry: what follows
    the last `/`, or the whole text without one. So one certificate goes by one name: a setback
    hands it to the rollback, a completed setup has all its names agree, and any later teardown
    of the thing, as long as this has its principals, is about that name alone. -/
theorem certificate_named_alike {τ : Type} (w : World τ) (cloud : τ → Cloud)
    (files : τ → Workspace) (hcloud : w.Admits cloud Cloud.behaviour)
    (hfiles : w.Admits files Workspace.behaviour) (spec : Specification) (start : τ) :
    (∀ text : String, certificateIdOfArn text = storedUnder text ∧
      '/' ∉ (certificateIdOfArn text).toList ∧
      ('/' ∉ text.toList → certificateIdOfArn text = text)) ∧
    (∀ stem id : String, '/' ∉ id.toList → certificateIdOfArn (stem ++ "/" ++ id) = id) ∧
    (∀ thing talk setback, Trace (complete spec thing) talk (.error setback) →
      setback.certificate = (certificateIn talk).map Certificate.id) ∧
    let run := (provision spec).run (recording w) ([], start)
    ∀ identity, run.1 = .ok identity →
      ∃ certificate, certificateIn run.2.1 = some certificate ∧
        NamedAlike spec identity certificate run.2.1 (cloud run.2.2) ∧
        ∀ later, (cloud later).things.get? identity.thingName =
            (cloud run.2.2).things.get? identity.thingName →
          ∀ x ∈ ((deprovision identity.thingName).run (recording w) ([], later)).2.1,
            TearsDown identity.thingName (fun id => id = certificate.id) x.1 := by
  refine ⟨fun text => ⟨(storedUnder_eq text).symm, slash_not_mem_certificateIdOfArn text,
      certificateIdOfArn_eq_self⟩, fun stem id h => certificateIdOfArn_append h stem,
    fun thing talk setback h => setback_certificate h, ?_⟩
  intro run identity hok
  have htrace : Trace (provision spec) run.2.1 run.1 := by
    rcases run_recording w (provision spec) start with ⟨talk, htalk, hrun⟩
    simpa only [run, hrun] using htalk
  -- What is provided is read off the services and the files, the rest off what was said.
  have hprovided := run_of_ensures (s := ([], start)) (admits_recording (hcloud.beside hfiles))
    (ensures_provision spec ([], cloud start, files start))
  have hsupplied := run_of_ensures (s := ([], start)) (admits_recording hfiles)
    (ensures_supplied spec ([], files start) rfl)
  rw [show ((provision spec).run (recording w) ([], start)).1 = .ok identity from hok]
    at hprovided hsupplied
  rw [hok] at htrace
  rcases hsupplied with ⟨thing, certificate, hidentity, hissued, -⟩
  have hnamed := namedAlike_of_provided hprovided (concludedSetup_of_trace htrace) hissued
    (by rw [hidentity]; rfl) (by rw [hidentity]; rfl)
  refine ⟨certificate, hissued, hnamed, fun later hlater => ?_⟩
  refine run_of_ensures (s := ([], later)) (admits_recording hcloud) (deprovision_asks_about ?_)
  intro dev hdev principal hprincipal
  rcases hnamed.principals with ⟨dev', hdev', hprincipals, hname⟩
  obtain rfl : dev = dev' := Option.some.inj (hdev.symm.trans (hlater.trans hdev'))
  rw [hprincipals, List.mem_singleton] at hprincipal
  rw [hprincipal, hname]

/-- A test bench whose registry has a certificate already under the name it issues next. -/
def reissuingBench : Bench Cloud :=
  { benchOver .empty with service := Cloud.new.seedThing "old" ["cert0001"] }

/-- There the setup is completed, and the teardown that follows is about the new certificate. -/
theorem certificate_named_alike_reissued :
    let run := (provision besideSpecification).run (recording (Bench.world Cloud.service))
      ([], reissuingBench)
    ∃ identity certificate, run.1 = .ok identity ∧ identity.certificateId = "cert0001" ∧
      certificateIn run.2.1 = some certificate ∧
      NamedAlike besideSpecification identity certificate run.2.1 run.2.2.service ∧
      ∀ x ∈ ((deprovision identity.thingName).run (recording (Bench.world Cloud.service))
          ([], run.2.2)).2.1,
        TearsDown identity.thingName (fun id => id = certificate.id) x.1 := by
  have hcompleted : ((provision besideSpecification).run (recording (Bench.world Cloud.service))
      ([], reissuingBench)).1.toOption.map Identity.certificateId = some "cert0001" := by
    decide +kernel
  rcases certificate_named_alike (Bench.world Cloud.service) Bench.service Bench.files
    admits_service (Workspace.admits_files Cloud.service) besideSpecification reissuingBench with
    ⟨-, -, -, hnamed⟩
  generalize (provision besideSpecification).run (recording (Bench.world Cloud.service))
    ([], reissuingBench) = run at hcompleted hnamed ⊢
  rcases hidentity : run.1 with cause | identity
  · rw [hidentity] at hcompleted
    exact absurd hcompleted (by simp [Except.toOption])
  · rw [hidentity] at hcompleted
    rcases hnamed identity hidentity with ⟨certificate, hissued, halike, hlater⟩
    exact ⟨identity, certificate, hidentity, Option.some.inj hcompleted, hissued, halike,
      hlater run.2.2 rfl⟩

end Qualifier
