import Qualifier.Proofs.Identity.Answers
import Qualifier.Proofs.Identity.Credentials

/-!
# The First Failure of a Setup and What Follows It

What a setup asks for, up to its first failure, and what it asks for after that, whoever
gives the answers. Nothing is assumed of the services, nor of the files: each call and
each write or removal of a file may be answered in any way.

The questions of a setup depend on two of its answers, the thing that was registered and
the certificate that was issued (`settingUp`). As long as nothing fails the setup goes on
to the next question. A failure ends it, and all that is handed on is a setback, which
is right about what there is to undo because each question adds to it what its answer
made (`Tried.next`). The rollback then goes through its three stages, and no answer it
gets is looked at outside the stage it belongs to.

## Main definitions

* `failureAt?`: The failure that an exchange of a setup amounts to.
* `settingUp`: The questions of a setup, as far as its answers determine them.
* `Tried`: What becomes of the questions of a stage.
* `FirstFailure`: A setup that was broken off.
* `Retires`, `RolledBack`: How a certificate is retired, and how a setup is undone.
* `ConcludedSetup`: A setup with its result and all it asked for.

## Theorems

* `Tried.next`, `Tried.stop`, `Tried.finish`: One question after another, and the last one.
* `tried_attach`, `tried_deliver`, `tried_certify`, `tried_complete`: The stages.
* `rolledBack_of_trace`: What a rollback asks for.
* `failureAt?_cases`: What a failure of a setup can be.
* `provision_rollback`: What a setup asks for and which failure it reports.
-/

namespace Qualifier

open Program

/-- The thing that is registered in an exchange. -/
def registeredAt? : Exchange → Option Thing
  | ⟨.service (.createThing _), .ok thing⟩ => some thing
  | _ => none

/-- The thing that was registered in a conversation. -/
def thingIn (talk : List Exchange) : Option Thing :=
  talk.findSome? registeredAt?

/-- The certificate that was issued in a conversation. -/
def certificateIn (talk : List Exchange) : Option Certificate :=
  talk.findSome? issuedAt?

/-- The name that failures are reported under: the one asked for, until the answer to the
    registration gives one. -/
def nameIn (spec : Specification) (talk : List Exchange) : String :=
  ((thingIn talk).map Thing.name).getD spec.thing

/-- The step of a setup that a request belongs to. -/
def Request.setupStep? : Request → Option Step
  | .createThing _ => some .createThing
  | .addThingToGroup _ _ => some .addToGroup
  | .createCertificate => some .createCertificate
  | .attachPolicy _ _ => some .attachPolicy
  | .attachPrincipal _ _ => some .attachPrincipal
  | _ => none

/-- The failure that an exchange of a setup amounts to, if it is one. -/
def failureAt? (name : String) : Exchange → Option ProvisionError
  | ⟨.service request, .error cause⟩ =>
    request.setupStep?.map fun step => .service step name cause
  | ⟨.write _ _, .error cause⟩ => some (.credentials name cause)
  | ⟨.writePrivate _ _, .error cause⟩ => some (.credentials name cause)
  | _ => none

section Questions

variable (spec : Specification) (thing : Thing)

/-- The questions of a setup from the attachment of the policy on. -/
def attaching (certificate : Certificate) : List Ask :=
  [.service (.attachPolicy spec.policy certificate.arn),
    .service (.attachPrincipal thing.name certificate.arn)]

/-- The questions of a setup from the first credential file on. -/
def delivering (certificate : Certificate) : List Ask :=
  .write spec.certificatePath certificate.pem ::
    .writePrivate spec.keyPath certificate.privateKey :: attaching spec thing certificate

/-- The questions of a setup from the issue of the certificate on. -/
def certifying (certificate? : Option Certificate) : List Ask :=
  .service .createCertificate :: certificate?.elim [] (delivering spec thing)

/-- The questions of a setup after the registration of the thing. -/
def completing (certificate? : Option Certificate) : List Ask :=
  spec.group.toList.map (fun group => .service (.addThingToGroup group thing.name)) ++
    certifying spec thing certificate?

end Questions

/-- The questions of a setup that is answered as in a conversation. -/
def settingUp (spec : Specification) (talk : List Exchange) : List Ask :=
  .service (.createThing spec.thing) ::
    (thingIn talk).elim [] fun thing => completing spec thing (certificateIn talk)

/-- What becomes of the questions of a stage that begins with a certificate issued, or
    none, and some files written: all are asked and none fails, or they end with one that
    does, and the setback has this failure and what there was before it. -/
def Tried (name : String) (certificate? : Option Certificate) (written : List Path)
    (asks : List Ask) (talk : List Exchange) : Except Setback Identity → Prop
  | .ok _ => talk.map Sigma.fst = asks ∧ ∀ x ∈ talk, failureAt? name x = none
  | .error setback => ∃ before last, talk = before ++ [last] ∧ talk.map Sigma.fst <+: asks ∧
      (∀ x ∈ before, failureAt? name x = none) ∧ failureAt? name last = some setback.error ∧
      setback.certificate = (certificate?.or (certificateIn before)).map Certificate.id ∧
      setback.written = written ++ writtenIn before

variable {name : String} {certificate? : Option Certificate} {written : List Path}
  {asks : List Ask} {talk rest : List Exchange} {x : Exchange}
  {result : Except Setback Identity} {setback : Setback}

theorem certificateIn_cons (x : Exchange) (talk : List Exchange) :
    certificateIn (x :: talk) = (issuedAt? x).or (certificateIn talk) := by
  unfold certificateIn
  rw [List.findSome?_cons]
  cases issuedAt? x <;> rfl

theorem writtenIn_cons (x : Exchange) (talk : List Exchange) :
    writtenIn (x :: talk) = (written? x).toList ++ writtenIn talk := by
  unfold writtenIn
  rw [List.filterMap_cons]
  cases written? x <;> rfl

/-- After a question that did not fail comes the rest, with what the answer made. -/
theorem Tried.next (hx : failureAt? name x = none)
    (h : Tried name (certificate?.or (issuedAt? x)) (written ++ (written? x).toList) asks rest
      result) :
    Tried name certificate? written (x.1 :: asks) (x :: rest) result := by
  cases result with
  | ok identity =>
      rcases h with ⟨hasked, hsmooth⟩
      refine ⟨?_, List.forall_mem_cons.mpr ⟨hx, hsmooth⟩⟩
      rw [List.map_cons, hasked]
  | error setback =>
      rcases h with ⟨before, last, rfl, hasked, hsmooth, hlast, hcertificate, hwritten⟩
      refine ⟨x :: before, last, rfl, ?_, List.forall_mem_cons.mpr ⟨hx, hsmooth⟩, hlast, ?_, ?_⟩
      · rw [List.map_cons]
        exact List.cons_prefix_cons.mpr ⟨rfl, hasked⟩
      -- What this answer made was there before anything the later ones made.
      · rw [hcertificate, certificateIn_cons, Option.or_assoc]
      · rw [hwritten, writtenIn_cons, List.append_assoc]

/-- A question that failed is the last one. -/
theorem Tried.stop (hx : failureAt? name x = some setback.error)
    (hcertificate : setback.certificate = certificate?.map Certificate.id)
    (hwritten : setback.written = written) (asks : List Ask) :
    Tried name certificate? written (x.1 :: asks) [x] (.error setback) := by
  refine ⟨[], x, rfl, ?_, fun _ hmem => absurd hmem List.not_mem_nil, hx, ?_, ?_⟩
  · exact List.cons_prefix_cons.mpr ⟨rfl, List.nil_prefix⟩
  · rw [hcertificate, show certificateIn [] = none from rfl, Option.or_none]
  · rw [hwritten, show writtenIn [] = [] from rfl, List.append_nil]

/-- If the last question does not fail either, the stage is complete. -/
theorem Tried.finish (hx : failureAt? name x = none) (identity : Identity) :
    Tried name certificate? written [x.1] [x] (.ok identity) :=
  ⟨rfl, List.forall_mem_singleton.mpr hx⟩

variable {spec : Specification} {thing : Thing} {certificate : Certificate}

theorem tried_attach (h : Trace (attach spec thing certificate) talk result) :
    Tried thing.name (some certificate) [spec.certificatePath, spec.keyPath]
      (attaching spec thing certificate) talk result := by
  rw [attach, trace_request_bind_iff] at h
  rcases h with ⟨policy, rest, rfl, h⟩
  cases policy with
  | error cause =>
      rcases (trace_pure_iff _ _ _).mp h with ⟨rfl, rfl⟩
      exact Tried.stop rfl rfl rfl _
  | ok _ =>
      refine Tried.next rfl ?_
      rw [trace_request_bind_iff] at h
      rcases h with ⟨principal, rest, rfl, h⟩
      cases principal with
      | error cause =>
          rcases (trace_pure_iff _ _ _).mp h with ⟨rfl, rfl⟩
          exact Tried.stop rfl rfl rfl _
      | ok _ =>
          rcases (trace_pure_iff _ _ _).mp h with ⟨rfl, rfl⟩
          exact Tried.finish rfl _

theorem tried_deliver (h : Trace (deliver spec thing certificate) talk result) :
    Tried thing.name (some certificate) [] (delivering spec thing certificate) talk result := by
  rw [deliver, trace_question_bind_iff] at h
  rcases h with ⟨first, rest, rfl, h⟩
  cases first with
  | error cause =>
      rcases (trace_pure_iff _ _ _).mp h with ⟨rfl, rfl⟩
      exact Tried.stop rfl rfl rfl _
  | ok _ =>
      refine Tried.next rfl ?_
      rw [trace_question_bind_iff] at h
      rcases h with ⟨second, rest, rfl, h⟩
      cases second with
      | error cause =>
          rcases (trace_pure_iff _ _ _).mp h with ⟨rfl, rfl⟩
          exact Tried.stop rfl rfl rfl _
      | ok _ => exact Tried.next rfl (tried_attach h)

theorem tried_certify (h : Trace (certify spec thing) talk result) :
    Tried thing.name none [] (certifying spec thing (certificateIn talk)) talk result := by
  rw [certify, trace_request_bind_iff] at h
  rcases h with ⟨issued, rest, rfl, h⟩
  cases issued with
  | error cause =>
      rcases (trace_pure_iff _ _ _).mp h with ⟨rfl, rfl⟩
      exact Tried.stop rfl rfl rfl _
  | ok certificate =>
      -- Only this answer tells what is to be written and attached.
      exact Tried.next rfl (tried_deliver h)

theorem tried_complete (h : Trace (complete spec thing) talk result) :
    Tried thing.name none [] (completing spec thing (certificateIn talk)) talk result := by
  unfold complete at h
  unfold completing
  cases hgroup : spec.group with
  | none =>
      rw [hgroup] at h
      exact tried_certify h
  | some group =>
      rw [hgroup] at h
      dsimp only at h
      rw [trace_request_bind_iff] at h
      rcases h with ⟨grouped, rest, rfl, h⟩
      cases grouped with
      | error cause =>
          rcases (trace_pure_iff _ _ _).mp h with ⟨rfl, rfl⟩
          exact Tried.stop rfl rfl rfl _
      | ok _ => exact Tried.next rfl (tried_certify h)

/-- A certificate is deactivated and then deleted, unless the first call is refused with
    something else than an absence. -/
inductive Retires (id : String) : List Exchange → Prop
  | refused {cause : ServiceError} (h : cause.isNotFound = false) :
      Retires id [⟨.service (.updateCertificate id .inactive), .error cause⟩]
  | passed {updated deleted : Except ServiceError Unit}
      (h : ∀ cause, updated = .error cause → cause.isNotFound = true) :
      Retires id [⟨.service (.updateCertificate id .inactive), updated⟩,
        ⟨.service (.deleteCertificate id), deleted⟩]

/-- The certificate is retired if there is one, each of the files is removed once, in
    order, and the thing is taken down once. -/
def RolledBack (name : String) (certificate? : Option String) (written : List Path)
    (undone : List Exchange) : Prop :=
  ∃ retired removed down result, undone = retired ++ (removed ++ down) ∧
    certificate?.elim (retired = []) (Retires · retired) ∧
    removed.map Sigma.fst = written.map Ask.remove ∧ Trace (deprovision name) down result

theorem retires_of_trace {id : String} {retired : Except ProvisionError Bool}
    (h : Trace (retire name id) talk retired) : Retires id talk := by
  rw [retire, trace_request_bind_iff] at h
  rcases h with ⟨updated, rest, rfl, h⟩
  rcases absentOk_cases .deactivateCertificate name updated with
    ⟨cause, rfl, hcause, hrefused⟩ | ⟨hpasses, hupdated⟩
  · simp only [hrefused] at h
    rcases (trace_pure_iff _ _ _).mp h with ⟨rfl, -⟩
    exact .refused hcause
  · simp only [hupdated] at h
    rw [trace_request_bind_iff] at h
    rcases h with ⟨deleted, rest, rfl, h⟩
    rcases (trace_pure_iff _ _ _).mp h with ⟨rfl, -⟩
    exact .passed hpasses

/-- No removal waits for another one to succeed. -/
theorem asked_removeAll (paths : List Path) {talk : List Exchange}
    (h : Trace (removeAll paths) talk ()) : talk.map Sigma.fst = paths.map Ask.remove := by
  induction paths generalizing talk with
  | nil =>
      rcases (trace_pure_iff _ _ _).mp h with ⟨rfl, -⟩
      rfl
  | cons path paths ih =>
      rw [removeAll, trace_question_bind_iff] at h
      rcases h with ⟨answer, rest, rfl, h⟩
      rw [List.map_cons, List.map_cons, ih h]

theorem rolledBack_of_trace (h : Trace (rollback name setback) talk ()) :
    RolledBack name setback.certificate setback.written talk := by
  -- With or without a certificate to retire, the rollback goes on in the same way.
  have hrest : ∀ retired rest, setback.certificate.elim (retired = []) (Retires · retired) →
      Trace (do removeAll setback.written; let _ ← deprovision name; pure ()) rest () →
      RolledBack name setback.certificate setback.written (retired ++ rest) := by
    intro retired rest hretired h
    rw [trace_bind_iff] at h
    rcases h with ⟨removed, _, rest, rfl, hremoved, h⟩
    rw [trace_bind_iff] at h
    rcases h with ⟨down, result, rest, rfl, hdown, h⟩
    rcases (trace_pure_iff _ _ _).mp h with ⟨rfl, -⟩
    refine ⟨retired, removed, down, result, ?_, hretired, asked_removeAll _ hremoved, hdown⟩
    rw [List.append_nil]
  unfold rollback at h
  cases hcertificate : setback.certificate with
  | none =>
      rw [hcertificate] at h hrest
      exact hrest [] talk rfl h
  | some id =>
      rw [hcertificate] at h hrest
      rw [trace_bind_iff] at h
      rcases h with ⟨retired, result, rest, rfl, hretire, h⟩
      exact hrest retired rest (retires_of_trace hretire) h

/-- A setup asked for the first of its questions, none but the last of them failed, and
    this is its failure. -/
structure FirstFailure (spec : Specification) (before : List Exchange) (last : Exchange)
    (failure : ProvisionError) : Prop where
  asked : (before ++ [last]).map Sigma.fst <+: settingUp spec (before ++ [last])
  smooth : ∀ x ∈ before, failureAt? (nameIn spec before) x = none
  failed : failureAt? (nameIn spec before) last = some failure

/-- A failure of a setup is that of a call at its step, or of a file that was not written. -/
theorem failureAt?_cases {failure : ProvisionError} (hx : failureAt? name x = some failure) :
    (∃ request step cause, x.1 = .service request ∧ request.setupStep? = some step ∧
      failure = .service step name cause) ∨ ∃ cause, failure = .credentials name cause := by
  rcases x with ⟨question, answer⟩
  cases question with
  | service request =>
      cases answer with
      | ok _ => exact absurd hx (by simp [failureAt?])
      | error cause =>
          rcases Option.map_eq_some_iff.mp hx with ⟨step, hstep, rfl⟩
          exact Or.inl ⟨request, step, cause, rfl, hstep, rfl⟩
  | write path text =>
      cases answer with
      | ok _ => exact absurd hx (by simp [failureAt?])
      | error cause => exact Or.inr ⟨cause, (Option.some.inj hx).symm⟩
  | writePrivate path text =>
      cases answer with
      | ok _ => exact absurd hx (by simp [failureAt?])
      | error cause => exact Or.inr ⟨cause, (Option.some.inj hx).symm⟩
  | _ => exact absurd hx (by simp [failureAt?])

/-- A failure that is put down to the registration is one of the registration. -/
theorem question_of_step {failure : ProvisionError} (hx : failureAt? name x = some failure)
    (hfailure : failure.step? = some .createThing) :
    ∃ other, x.1 = .service (.createThing other) := by
  rcases failureAt?_cases hx with ⟨request, step, cause, hrequest, hstep, rfl⟩ | ⟨cause, rfl⟩
  · obtain rfl : step = .createThing := Option.some.inj hfailure
    cases request with
    | createThing other => exact ⟨other, hrequest⟩
    | _ => exact absurd hstep (by simp [Request.setupStep?])
  · exact absurd hfailure (by simp [ProvisionError.step?])

/-- There is one registration only, which comes first. -/
theorem ne_createThing_of_mem_completing {question : Ask}
    (h : question ∈ completing spec thing certificate?) (other : String) :
    question ≠ .service (.createThing other) := by
  rintro rfl
  rcases List.mem_append.mp h with hgroup | hcertify
  · rcases List.mem_map.mp hgroup with ⟨group, -, heq⟩
    exact absurd heq (by simp)
  · cases certificate? with
    | none => exact absurd hcertify (by simp [certifying])
    | some certificate =>
        exact absurd hcertify (by simp [certifying, delivering, attaching])

/-- A setup that succeeds has asked all of its questions, and none has failed. One that
    fails reports its first failure, and either nothing was asked after that or what there
    was before it has been undone. -/
def ConcludedSetup (spec : Specification) (talk : List Exchange) :
    Except ProvisionError Identity → Prop
  | .ok _ => talk.map Sigma.fst = settingUp spec talk ∧
      ∀ x ∈ talk, failureAt? (nameIn spec talk) x = none
  | .error failure => ∃ before last undone, talk = before ++ last :: undone ∧
      FirstFailure spec before last failure ∧
      (failure.step? = some .createThing → undone = []) ∧
      (failure.step? ≠ some .createThing →
        RolledBack spec.thing ((certificateIn before).map Certificate.id) (writtenIn before)
          undone)

/-- The registration comes first, and then everything else has gone well. -/
theorem ConcludedSetup.of_identity {tried : List Exchange} {identity : Identity}
    (htried : Tried thing.name none [] (completing spec thing (certificateIn tried)) tried
      (.ok identity)) :
    ConcludedSetup spec (⟨.service (.createThing spec.thing), .ok thing⟩ :: tried)
      (.ok identity) := by
  rcases htried with ⟨hasked, hsmooth⟩
  refine ⟨?_, List.forall_mem_cons.mpr ⟨rfl, hsmooth⟩⟩
  rw [List.map_cons, hasked]
  rfl

/-- The registration comes first, and last of all what there was to undo is undone. -/
theorem ConcludedSetup.of_setback {tried undone : List Exchange}
    (htried : Tried thing.name none [] (completing spec thing (certificateIn tried)) tried
      (.error setback))
    (hundone : RolledBack spec.thing setback.certificate setback.written undone) :
    ConcludedSetup spec (⟨.service (.createThing spec.thing), .ok thing⟩ :: (tried ++ undone))
      (.error setback.error) := by
  rcases htried with ⟨before, last, rfl, hasked, hsmooth, hlast, hcertificate, hwritten⟩
  rw [hcertificate, hwritten] at hundone
  have hfirst : FirstFailure spec (⟨.service (.createThing spec.thing), .ok thing⟩ :: before)
      last setback.error := by
    refine ⟨?_, List.forall_mem_cons.mpr ⟨rfl, hsmooth⟩, hlast⟩
    exact List.cons_prefix_cons.mpr ⟨rfl, hasked⟩
  -- The registration is not asked for again, so it is not what failed.
  have hother : setback.error.step? ≠ some .createThing := by
    intro hstep
    rcases question_of_step hlast hstep with ⟨other, hquestion⟩
    have hmem : last.1 ∈ completing spec thing (certificateIn (before ++ [last])) :=
      hasked.subset (List.mem_map_of_mem List.mem_concat_self)
    exact absurd hquestion (ne_createThing_of_mem_completing hmem other)
  refine ⟨_, last, undone, ?_, hfirst, fun hstep => absurd hstep hother, fun _ => hundone⟩
  rw [List.append_assoc, List.singleton_append, List.cons_append]

theorem concludedSetup_of_trace {result : Except ProvisionError Identity}
    (h : Trace (provision spec) talk result) : ConcludedSetup spec talk result := by
  rw [provision, trace_request_bind_iff] at h
  rcases h with ⟨registered, rest, rfl, h⟩
  cases registered with
  | error cause =>
      rcases (trace_pure_iff _ _ _).mp h with ⟨rfl, rfl⟩
      have hfirst : FirstFailure spec [] ⟨.service (.createThing spec.thing), .error cause⟩
          (.service .createThing spec.thing cause) :=
        ⟨List.prefix_refl _, fun _ hmem => absurd hmem List.not_mem_nil, rfl⟩
      exact ⟨[], _, [], rfl, hfirst, fun _ => rfl, fun hother => absurd rfl hother⟩
  | ok thing =>
      rw [trace_bind_iff] at h
      rcases h with ⟨tried, completed, rest, rfl, hcomplete, h⟩
      have htried := tried_complete hcomplete
      cases completed with
      | ok identity =>
          rcases (trace_pure_iff _ _ _).mp h with ⟨rfl, rfl⟩
          rw [List.append_nil]
          exact .of_identity htried
      | error setback =>
          rw [trace_bind_iff] at h
          rcases h with ⟨undone, _, rest, rfl, hundone, h⟩
          -- The failure is returned as it was, whatever came of the rollback.
          rcases (trace_pure_iff _ _ _).mp h with ⟨rfl, rfl⟩
          rw [List.append_nil]
          exact .of_setback htried (rolledBack_of_trace hundone)

/-- Whatever a setup is answered, by services of any kind and by any files, the failure it
    reports is that of the first question that failed. If that was the registration, nothing
    else is asked. If not, then everything that was made before is undone, stage by stage,
    whatever becomes of the stages. -/
theorem provision_rollback {σ : Type} (w : World σ) (start : σ) (spec : Specification) :
    let run := (provision spec).run (recording w) ([], start)
    ConcludedSetup spec run.2.1 run.1 := by
  rcases run_recording w (provision spec) start with ⟨talk, htrace, hrun⟩
  rw [hrun]
  generalize ((provision spec).run w start).1 = result at htrace
  exact concludedSetup_of_trace htrace

end Qualifier
