import Qualifier.Proofs.Registry.Records

/-!
# What Requests Do to the Records

One lemma for each request that an identity is set up or taken down with. A request
that sets something up is about the thing or the certificate that was added to the
records; it may fail and then leaves the records as they were. A request that clears
up may be about anything. Nothing is queued for it, so it fails only if what it is
about is not there, and that is as good as done.

All other questions of a program leave the records alone; `Holds.quiet` is the one
lemma for them.

## Main definitions

* `Passes`: What is answered to a request that clears up.
* `quiet`: The questions that do nothing to the records.
* `blind`: Those of them that are not answered from the records either.

## Theorems

* `Holds.onThing`, `Holds.onCertificate`: A change to what was added.
* `Holds.createThing`, `Holds.createCertificate`: What an addition needs and makes.
* `perform_updateCertificate`, `perform_deleteCertificate`: A certificate is retired in
  two steps.
* `Holds.deleteThing`, `Holds.deleteCertificate`: What a removal needs and takes away.
* `Holds.quiet`: Questions without effect on the records.
-/

namespace Qualifier

namespace Simulated

namespace Cloud

open Program

variable {c : Cloud} {T : Catalog String Device} {C : Catalog String StoredCertificate}
  {n : UInt32} {name id : String} {dev : Device} {cert : StoredCertificate}

/-- A change to the thing that was added stays with that thing, and does not fail. -/
theorem Holds.onThing (h : c.Holds (T.add name dev) C n) (hfree : T.get? name = none)
    (operation : String) (f : Device → Device) {bad : ServiceError → Cloud → Prop} :
    Attempt bad (fun _ d => d.Holds (T.add name (f dev)) C n)
      (c.onThing operation name f).1 (c.onThing operation name f).2 := by
  rw [Cloud.onThing, h.things, Catalog.contains_add_self, if_pos rfl]
  exact ⟨Catalog.modify_add hfree dev f, h.certificates, h.issued, h.clears⟩

/-- A change to the certificate that was added stays with that certificate, and does
    not fail. -/
theorem Holds.onCertificate (h : c.Holds T (C.add id cert) n) (hfree : C.get? id = none)
    (operation what : String) (f : StoredCertificate → StoredCertificate)
    {bad : ServiceError → Cloud → Prop} :
    Attempt bad (fun _ d => d.Holds T (C.add id (f cert)) n)
      (c.onCertificate operation what id f).1 (c.onCertificate operation what id f).2 := by
  rw [Cloud.onCertificate, h.certificates, Catalog.contains_add_self, if_pos rfl]
  exact ⟨h.things, Catalog.modify_add hfree cert f, h.issued, h.clears⟩

/-- A thing is registered under a name only if the name was free. -/
theorem Holds.createThing (h : c.Holds T C n) (name : String) :
    Ensures behaviour (request (.createThing name)) c
      (Attempt (fun _ d => d.Holds T C n) fun thing d =>
        thing = ⟨name, thingArn name⟩ ∧ T.get? name = none ∧
          d.Holds (T.add name ⟨thingArn name, [], [], none⟩) C n) := by
  refine h.ensures (fun _ _ _ hd => hd) fun d hd => ?_
  simp only [perform, hd.things]
  by_cases hname : T.contains name
  · rw [if_pos hname]
    exact hd
  · rw [if_neg hname]
    have hfree : T.get? name = none := by simpa [Catalog.contains] using hname
    exact ⟨rfl, hfree, Catalog.insert_eq_add hfree _, hd.certificates, hd.issued, hd.clears⟩

theorem Holds.addThingToGroup (h : c.Holds (T.add name dev) C n) (hfree : T.get? name = none)
    (group : String) :
    Ensures behaviour (request (.addThingToGroup group name)) c
      (Attempt (fun _ d => d.Holds (T.add name dev) C n) fun _ d =>
        d.Holds (T.add name { dev with groups := dev.groups ++ [group] }) C n) := by
  refine h.ensures (fun _ _ _ hd => hd) fun d hd => ?_
  exact hd.onThing hfree _ _

/-- The next certificate is issued under the next number, which has to be free. -/
theorem Holds.createCertificate (h : c.Holds T C n)
    (hfree : C.get? (certificateId (n + 1).toNat) = none) :
    Ensures behaviour (request .createCertificate) c
      (Attempt (fun _ d => d.Holds T C n) fun certificate d =>
        certificate = issue (certificateId (n + 1).toNat) ∧
          d.Holds T (C.add (certificateId (n + 1).toNat) ⟨.active, []⟩) (n + 1)) := by
  refine h.ensures (fun _ _ _ hd => hd) fun d hd => ?_
  simp only [perform, hd.issued, hd.certificates]
  exact ⟨rfl, hd.things, Catalog.insert_eq_add hfree _, rfl, hd.clears⟩

theorem Holds.attachPolicy (h : c.Holds T (C.add id cert) n) (hfree : C.get? id = none)
    (hid : '/' ∉ id.toList) (policy : String) :
    Ensures behaviour (request (.attachPolicy policy (certificateArn id))) c
      (Attempt (fun _ d => d.Holds T (C.add id cert) n) fun _ d =>
        d.Holds T (C.add id { cert with policies := cert.policies ++ [policy] }) n) := by
  refine h.ensures (fun _ _ _ hd => hd) fun d hd => ?_
  simp only [perform, storedUnder_eq, certificateIdOfArn_certificateArn hid]
  exact hd.onCertificate hfree _ _ _

theorem Holds.attachPrincipal (h : c.Holds (T.add name dev) C n) (hfree : T.get? name = none)
    (principal : String) :
    Ensures behaviour (request (.attachPrincipal name principal)) c
      (Attempt (fun _ d => d.Holds (T.add name dev) C n) fun _ d =>
        d.Holds (T.add name { dev with principals := dev.principals ++ [principal] }) C n) := by
  refine h.ensures (fun _ _ _ hd => hd) fun d hd => ?_
  exact hd.onThing hfree _ _

theorem Holds.updateShadow (h : c.Holds (T.add name dev) C n) (hfree : T.get? name = none)
    (document : String) :
    Ensures behaviour (request (.updateShadow name document)) c
      (Attempt (fun _ d => d.Holds (T.add name dev) C n) fun _ d =>
        d.Holds (T.add name { dev with shadow := some document }) C n) := by
  refine h.ensures (fun _ _ _ hd => hd) fun d hd => ?_
  exact hd.onThing hfree _ _

/-- What was asked for is done, or what it is about is not there. -/
def Passes (answer : Except ServiceError Unit) : Prop :=
  ∀ cause, answer = .error cause → cause.isNotFound = true

theorem passes_ok : Passes (.ok ()) := by
  intro cause h
  exact absurd h (by simp)

theorem passes_absent (operation what : String) : Passes (.error (absent operation what)) := by
  intro cause h
  rw [← Except.error.inj h]
  rfl

/-- A thing that is registered answers with its principals. -/
theorem Holds.listPrincipals (h : c.Holds T C n) (hthing : T.get? name = some dev) :
    Ensures behaviour (request (.listPrincipals name)) c
      (Attempt (fun _ _ => False) fun principals d =>
        principals = dev.principals ∧ d.Holds T C n) := by
  refine h.ensures_of_clearsUp rfl fun d hd => ?_
  simp only [perform, hd.things, hthing]
  exact ⟨rfl, hd⟩

/-- Detaching a principal changes at most the thing it is detached from, and there
    leaves the others. -/
theorem Holds.detachPrincipal (h : c.Holds T C n) (name principal : String) :
    Ensures behaviour (request (.detachPrincipal name principal)) c fun answer d =>
      Passes answer ∧ ∃ T' : Catalog String Device, d.Holds T' C n ∧ T'.erase name = T.erase name ∧
        T'.get? name = (T.get? name).map fun dev =>
          { dev with principals := dev.principals.filter (· ≠ principal) } := by
  refine h.ensures_of_clearsUp rfl fun d hd => ?_
  simp only [perform, hd.things]
  cases hthing : T.get? name with
  | none => exact ⟨passes_absent _ _, T, hd, rfl, hthing⟩
  | some dev =>
      simp only
      by_cases hmem : principal ∈ dev.principals
      · have hthere : T.contains name = true := by simp [Catalog.contains, hthing]
        rw [if_pos hmem, Cloud.onThing, hd.things, if_pos hthere]
        refine ⟨passes_ok, _, ⟨rfl, hd.certificates, hd.issued, hd.clears⟩,
          Catalog.erase_modify _ _ _, ?_⟩
        rw [Catalog.get?_modify, if_pos rfl, hthing]
      · rw [if_neg hmem]
        refine ⟨passes_absent _ _, T, hd, rfl, ?_⟩
        -- A principal that is not among the others is filtered out of nothing.
        have hsame : dev.principals.filter (· ≠ principal) = dev.principals :=
          List.filter_eq_self.mpr fun p hp => by
            have hne : p ≠ principal := fun heq => hmem (heq ▸ hp)
            simpa using hne
        rw [hthing, Option.map_some, hsame]

/-- Under a name without a certificate the change shows as little as the refusal. -/
theorem perform_updateCertificate (id : String) (status : CertificateStatus) (c : Cloud) :
    Passes (perform (.updateCertificate id status) c).1 ∧
      (perform (.updateCertificate id status) c).2 =
        { c with certificates := c.certificates.modify id fun cert => { cert with status } } := by
  simp only [perform, Cloud.onCertificate]
  by_cases hthere : c.certificates.contains id
  · rw [if_pos hthere]
    exact ⟨passes_ok, rfl⟩
  · rw [if_neg hthere]
    have hnone : c.certificates.get? id = none := by simpa [Catalog.contains] using hthere
    rw [Catalog.modify_eq_self hnone]
    exact ⟨passes_absent _ _, rfl⟩

/-- A certificate can be deleted once it may no longer be used. -/
theorem perform_deleteCertificate {id : String}
    (hinactive : ∀ cert, c.certificates.get? id = some cert → cert.status = .inactive) :
    Passes (perform (.deleteCertificate id) c).1 ∧
      (perform (.deleteCertificate id) c).2 =
        { c with certificates := c.certificates.erase id } := by
  simp only [perform]
  cases hcert : c.certificates.get? id with
  | none =>
      rw [Catalog.erase_eq_self hcert]
      exact ⟨passes_absent _ _, rfl⟩
  | some cert =>
      dsimp only
      rw [hinactive cert hcert]
      exact ⟨passes_ok, rfl⟩

theorem Holds.updateCertificate (h : c.Holds T C n) (id : String) (status : CertificateStatus) :
    Ensures behaviour (request (.updateCertificate id status)) c fun answer d =>
      Passes answer ∧ d.Holds T (C.modify id fun cert => { cert with status }) n := by
  refine h.ensures_of_clearsUp rfl fun d hd => ?_
  rcases perform_updateCertificate id status d with ⟨hpasses, hdone⟩
  rw [hdone]
  refine ⟨hpasses, hd.things, ?_, hd.issued, hd.clears⟩
  rw [← hd.certificates]

theorem Holds.deleteCertificate (h : c.Holds T C n) {id : String}
    (hinactive : ∀ cert, C.get? id = some cert → cert.status = .inactive) :
    Ensures behaviour (request (.deleteCertificate id)) c fun answer d =>
      Passes answer ∧ d.Holds T (C.erase id) n := by
  refine h.ensures_of_clearsUp rfl fun d hd => ?_
  rw [← hd.certificates] at hinactive
  rcases perform_deleteCertificate hinactive with ⟨hpasses, hdone⟩
  rw [hdone]
  refine ⟨hpasses, hd.things, ?_, hd.issued, hd.clears⟩
  rw [← hd.certificates]

/-- The answer tells whether there was a certificate to delete. -/
theorem Holds.deleteCertificate_isOk (h : c.Holds T C n) {id : String}
    (hinactive : ∀ cert, C.get? id = some cert → cert.status = .inactive) :
    Ensures behaviour (request (.deleteCertificate id)) c fun answer _ =>
      answer.isOk = C.contains id := by
  refine h.ensures_of_clearsUp rfl fun d hd => ?_
  simp only [perform, hd.certificates, Catalog.contains]
  cases hcert : C.get? id with
  | none => rfl
  | some cert =>
      simp only [hinactive cert hcert]
      rfl

/-- A thing can be deleted once nothing is attached to it. -/
theorem Holds.deleteThing (h : c.Holds T C n)
    (hbare : ∀ dev, T.get? name = some dev → dev.principals = []) :
    Ensures behaviour (request (.deleteThing name)) c fun answer d =>
      Passes answer ∧ d.Holds (T.erase name) C n := by
  refine h.ensures_of_clearsUp rfl fun d hd => ?_
  simp only [perform, hd.things]
  cases hthing : T.get? name with
  | none =>
      rw [Catalog.erase_eq_self hthing]
      exact ⟨passes_absent _ _, hd⟩
  | some dev =>
      simp only [hbare dev hthing]
      exact ⟨passes_ok, rfl, hd.certificates, hd.issued, hd.clears⟩

/-- The answer tells whether there was a thing to delete. -/
theorem Holds.deleteThing_isOk (h : c.Holds T C n)
    (hbare : ∀ dev, T.get? name = some dev → dev.principals = []) :
    Ensures behaviour (request (.deleteThing name)) c fun answer _ =>
      answer.isOk = T.contains name := by
  refine h.ensures_of_clearsUp rfl fun d hd => ?_
  simp only [perform, hd.things, Catalog.contains]
  cases hthing : T.get? name with
  | none => rfl
  | some dev =>
      simp only [hbare dev hthing]
      rfl

/-- The questions that have nothing to do with the records: those about files,
    companions, time and names, and the requests for suite runs, logs and secrets. -/
def quiet : Ask → Bool
  | .service request =>
    match request.operation with
    | .startSuiteRun | .getSuiteRun | .getEndpoint | .getLogEvents | .upload | .getSecret => true
    | _ => false
  | _ => true

/-- The quiet questions that are not answered from the records either. -/
def blind : Ask → Bool
  | .service request =>
    match request.operation with
    | .getSuiteRun | .getEndpoint | .getLogEvents | .upload | .getSecret => true
    | _ => false
  | .freshName => false
  | _ => true

theorem quiet_of_blind {q : Ask} (h : blind q = true) : quiet q = true := by
  cases q with
  | service r => cases r <;> first | rfl | exact absurd h Bool.false_ne_true
  | _ => rfl

/-- However they are answered, the records stay as they are. -/
theorem Holds.quiet (h : c.Holds T C n) {q : Ask} (hq : quiet q = true) :
    Ensures behaviour (question q) c fun _ d => d.Holds T C n := by
  cases q with
  | service r =>
      refine (ensures_request r c _).mpr ?_
      rcases h.service_cases r with ⟨_, e, d, heq, hd⟩ | ⟨d, heq, hd⟩
      · rw [heq]
        exact hd
      · rw [heq]
        cases r with
        -- Some of these change the cloud, but never what it has on record.
        | startSuiteRun suiteId arn =>
            simp only [perform]
            split
            · exact ⟨hd.things, hd.certificates, hd.issued, hd.clears⟩
            · exact hd
        | getSuiteRun job =>
            simp only [perform]
            split
            · exact ⟨hd.things, hd.certificates, hd.issued, hd.clears⟩
            · exact ⟨hd.things, hd.certificates, hd.issued, hd.clears⟩
            · split <;> exact hd
        | getEndpoint arn => exact hd
        | getLogEvents group stream => exact hd
        | upload path bucket key => exact ⟨hd.things, hd.certificates, hd.issued, hd.clears⟩
        | getSecret id =>
            simp only [perform]
            split <;> exact hd
        | _ => exact absurd hq (by simp [Cloud.quiet, Request.operation])
  | _ =>
      rintro answer d rfl
      exact h

end Cloud

end Simulated

end Qualifier
