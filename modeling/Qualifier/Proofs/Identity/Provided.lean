import Qualifier.Identity.Setup
import Qualifier.Proofs.Outside.Parts
import Qualifier.Proofs.Registry.Numbering
import Qualifier.Proofs.Registry.Queues
import Qualifier.Proofs.Storage.Replacing

/-!
# What a Completed Setup Provides

A setup that was completed has provided a thing with a certificate of its own, and two
files. Nothing is asked here of the state the services are in: names may be taken,
certificates may be in store under any number, and any request may fail. Whether a
request did what it was asked is read off its answer. One that is answered with success
was performed, and its effect is there to be seen at the keys it is about; any other
ends the setup.

The services and the files are followed side by side, with what was said to them, since
the certificate that is attached to the thing is the one whose key was written.

## Main definitions

* `surroundings`, `Scene`: The services and a workspace side by side.
* `Furnished`: A thing and a certificate on record, in any state of a setup.
* `Delivered`: What comes of the two writes.
* `Provided`: What a completed setup has provided.

## Theorems

* `ensures_request_ok`: A request that succeeds was performed.
* `Furnished.attach`, `Furnished.deliver`: The setup from the certificate on.
* `ensures_provision`: A setup that is completed has provided an identity.
-/

namespace Qualifier

open Program Storage Simulated

namespace Simulated.Cloud

variable {c d : Cloud} {operation name what id : String} {u : Unit}

theorem onThing_ok {f : Device → Device} (h : c.onThing operation name f = (.ok u, d)) :
    d = { c with things := c.things.modify name f } := by
  unfold onThing at h
  split at h
  · exact (Prod.mk.inj h).2.symm
  · exact absurd h (by simp)

theorem onCertificate_ok {f : StoredCertificate → StoredCertificate}
    (h : c.onCertificate operation what id f = (.ok u, d)) :
    d = { c with certificates := c.certificates.modify id f } := by
  unfold onCertificate at h
  split at h
  · exact (Prod.mk.inj h).2.symm
  · exact absurd h (by simp)

theorem createThing_ok {thing : Thing} (h : perform (.createThing name) c = (.ok thing, d)) :
    thing = ⟨name, thingArn name⟩ ∧
      d = { c with things := c.things.insert name ⟨thingArn name, [], [], none⟩ } := by
  rw [perform] at h
  split at h
  · exact absurd h (by simp)
  · rcases Prod.mk.inj h with ⟨hthing, hd⟩
    exact ⟨(Except.ok.inj hthing).symm, hd.symm⟩

end Simulated.Cloud

/-- What the services and a workspace do side by side. -/
abbrev surroundings : Behaviour (Cloud × Workspace) :=
  Cloud.behaviour.beside Workspace.behaviour

/-- What was said, and the services and the files it was said to. -/
abbrev Scene := List Exchange × Cloud × Workspace

/-- A request that succeeds was performed. -/
theorem ensures_request_ok {r : Request} {s : Scene} {good : r.Answer → Scene → Prop}
    (h : ∀ a d, Cloud.perform r (s.2.1.noted r.operation) = (.ok a, d) →
      good a (s.1 ++ [⟨.service r, .ok a⟩], d, s.2.2)) :
    Ensures surroundings.recorded (request r) s (Attempt (fun _ _ => True) good) := by
  rintro answer ⟨talk, d, w⟩ ⟨htalk, hcloud, hfiles⟩
  cases answer with
  | error cause => trivial
  | ok a =>
      have hperformed : Cloud.perform r (s.2.1.noted r.operation) = (.ok a, d) := by
        have hservice : (Except.ok a, d) = Cloud.service r s.2.1 := hcloud
        rw [Cloud.service_eq] at hservice
        split at hservice
        · exact absurd hservice (by simp)
        · exact hservice.symm
      obtain rfl : talk = s.1 ++ [⟨.service r, .ok a⟩] := htalk
      obtain rfl : w = s.2.2 := hfiles
      exact h a d hperformed

/-- A thing as it is registered, and an active certificate that was issued in the course
    of the setup. -/
structure Furnished (name : String) (dev : Device) (certificate : Certificate)
    (policies : List String) (said : List Exchange) (c : Cloud) : Prop where
  thing : c.things.get? name = some dev
  issued : ⟨.service .createCertificate, .ok certificate⟩ ∈ said
  numbered : ∃ n, certificate = issue (certificateId n)
  certificate : c.certificates.get? certificate.id = some ⟨.active, policies⟩

/-- What comes of writing a certificate and then its key. The key is in the place its path led to,
    and there is an entry under both paths, unless a path went through a link that was in this
    place. -/
def Delivered (begun : Workspace) (certificatePath keyPath : Path) (certificate : Certificate)
    (now : Workspace) : Prop :=
  let between := (begun.write certificatePath certificate.pem).2.opened keyPath
  ∃ loc, between.place? keyPath = some loc ∧
    now.tree.get? loc = some (.file certificate.privateKey.toUTF8 privateMode) ∧
    ∀ path ∈ [certificatePath, keyPath],
      now.Present path ∨ between.LeadsThrough path loc ∧ now.found? path = none

/-- What a completed setup has provided: the thing with its group and with one principal,
    which is a new certificate with the policy, and the files of that certificate. -/
def Provided (spec : Specification) (thing : Thing) (groups : List String)
    (begun : Workspace) (identity : Identity) (t : Scene) : Prop :=
  ∃ certificate, identity = spec.identity thing certificate ∧
    Furnished thing.name ⟨thing.arn, [certificate.arn], groups, none⟩ certificate [spec.policy]
      t.1 t.2.1 ∧
    Delivered begun spec.certificatePath spec.keyPath certificate t.2.2

variable {s : Scene} {name : String} {dev : Device} {certificate : Certificate}
  {policies groups : List String} {thing : Thing} {begun : Workspace}

/-- A certificate is in store under the name its full name is cut down to. -/
theorem Furnished.certificateIdOfArn {said : List Exchange} {c : Cloud}
    (h : Furnished name dev certificate policies said c) :
    certificateIdOfArn certificate.arn = certificate.id := by
  rcases h.numbered with ⟨n, rfl⟩
  exact certificateIdOfArn_certificateArn (slash_not_mem_certificateId n)

/-- What is on record stays there while more is said and nothing is recorded. -/
theorem Furnished.later {said said' : List Exchange} {c d : Cloud}
    (h : Furnished name dev certificate policies said c) (hsaid : said ⊆ said')
    (hthings : d.things = c.things) (hcertificates : d.certificates = c.certificates) :
    Furnished name dev certificate policies said' d where
  thing := hthings ▸ h.thing
  issued := hsaid h.issued
  numbered := h.numbered
  certificate := hcertificates ▸ h.certificate

theorem Furnished.noted {said : List Exchange} {c : Cloud}
    (h : Furnished name dev certificate policies said c) (op : Operation) :
    Furnished name dev certificate policies said (c.noted op) :=
  h.later (List.Subset.refl _) (c.noted_things op) (c.noted_certificates op)

/-- A thing that is on record is changed by a request that is about it. -/
theorem Furnished.onThing {said said' : List Exchange} {c d : Cloud} {u : Unit}
    {operation : String} {f : Device → Device}
    (h : Furnished name dev certificate policies said c) (hsaid : said ⊆ said')
    (hd : c.onThing operation name f = (.ok u, d)) :
    Furnished name (f dev) certificate policies said' d := by
  rw [Cloud.onThing_ok hd]
  refine ⟨?_, hsaid h.issued, h.numbered, h.certificate⟩
  rw [Catalog.get?_modify, if_pos rfl, h.thing, Option.map_some]

theorem Furnished.attachPolicy (h : Furnished name dev certificate policies s.1 s.2.1)
    (policy : String) :
    Ensures surroundings.recorded (request (.attachPolicy policy certificate.arn)) s
      (Attempt (fun _ _ => True) fun _ t =>
        Furnished name dev certificate (policies ++ [policy]) t.1 t.2.1 ∧ t.2.2 = s.2.2) := by
  refine ensures_request_ok fun _ d hd => ⟨?_, rfl⟩
  simp only [Cloud.perform, storedUnder_eq, h.certificateIdOfArn] at hd
  rw [Cloud.onCertificate_ok hd]
  refine ⟨h.thing, List.mem_append_left _ h.issued, h.numbered, ?_⟩
  rw [Catalog.get?_modify, if_pos rfl, Cloud.noted_certificates, h.certificate, Option.map_some]

theorem Furnished.attachPrincipal (h : Furnished name dev certificate policies s.1 s.2.1)
    (principal : String) :
    Ensures surroundings.recorded (request (.attachPrincipal name principal)) s
      (Attempt (fun _ _ => True) fun _ t =>
        Furnished name { dev with principals := dev.principals ++ [principal] } certificate
          policies t.1 t.2.1 ∧ t.2.2 = s.2.2) := by
  refine ensures_request_ok fun _ d hd => ⟨?_, rfl⟩
  exact (h.noted .attachPrincipal).onThing (List.subset_append_left _ _) hd

theorem Furnished.updateShadow (h : Furnished name dev certificate policies s.1 s.2.1)
    (document : String) :
    Ensures surroundings.recorded (request (.updateShadow name document)) s
      (Attempt (fun _ _ => True) fun _ t =>
        Furnished name { dev with shadow := some document } certificate policies t.1 t.2.1 ∧
          t.2.2 = s.2.2) := by
  refine ensures_request_ok fun _ d hd => ⟨?_, rfl⟩
  exact (h.noted .updateShadow).onThing (List.subset_append_left _ _) hd

theorem Furnished.attach
    (h : Furnished thing.name ⟨thing.arn, [], groups, none⟩ certificate [] s.1 s.2.1)
    (spec : Specification)
    (hfiles : Delivered begun spec.certificatePath spec.keyPath certificate s.2.2) :
    Ensures surroundings.recorded (attach spec thing certificate) s
      (Attempt (fun _ _ => True) (Provided spec thing groups begun)) := by
  refine (h.attachPolicy spec.policy).attempt (fun _ _ _ => trivial) ?_
  rintro _ t ⟨ht, hsame⟩
  refine (ht.attachPrincipal certificate.arn).attempt (fun _ _ _ => trivial) ?_
  rintro _ t' ⟨ht', hsame'⟩
  refine ⟨certificate, rfl, ht', ?_⟩
  rw [hsame', hsame]
  exact hfiles

/-- Nothing is recorded at a question that is not for the services. -/
theorem Furnished.aside (h : Furnished name dev certificate policies s.1 s.2.1) {q : Ask}
    (hq : ∀ answer d, Cloud.behaviour q s.2.1 answer d → d = s.2.1) :
    Ensures surroundings.recorded (question q) s fun answer t =>
      Furnished name dev certificate policies t.1 t.2.1 ∧
        Workspace.behaviour q s.2.2 answer t.2.2 := by
  rintro answer ⟨talk, c, w⟩ ⟨htalk, hcloud, hfiles⟩
  obtain rfl : talk = s.1 ++ [⟨q, answer⟩] := htalk
  obtain rfl : c = s.2.1 := hq answer c hcloud
  exact ⟨h.later (List.subset_append_left _ _) rfl rfl, hfiles⟩

theorem Furnished.write (h : Furnished name dev certificate policies s.1 s.2.1) (path : Path)
    (text : String) :
    Ensures surroundings.recorded (question (.write path text)) s
      (Attempt (fun _ _ => True) fun _ t =>
        Furnished name dev certificate policies t.1 t.2.1 ∧
          s.2.2.write path text = (.ok (), t.2.2)) := by
  refine (h.aside (q := .write path text) fun _ _ hd => hd).mono ?_
  rintro (cause | _) t ⟨ht, hfiles⟩
  · trivial
  · exact ⟨ht, Workspace.done_of_ok hfiles⟩

theorem Furnished.writePrivate (h : Furnished name dev certificate policies s.1 s.2.1)
    (path : Path) (text : String) :
    Ensures surroundings.recorded (question (.writePrivate path text)) s
      (Attempt (fun _ _ => True) fun _ t =>
        Furnished name dev certificate policies t.1 t.2.1 ∧
          s.2.2.writePrivate path text = (.ok (), t.2.2)) := by
  refine (h.aside (q := .writePrivate path text) fun _ _ hd => hd).mono ?_
  rintro (cause | _) t ⟨ht, hfiles⟩
  · trivial
  · exact ⟨ht, Workspace.done_of_ok hfiles⟩

theorem Furnished.deliver
    (h : Furnished thing.name ⟨thing.arn, [], groups, none⟩ certificate [] s.1 s.2.1)
    (spec : Specification) :
    Ensures surroundings.recorded (deliver spec thing certificate) s
      (Attempt (fun _ _ => True) (Provided spec thing groups s.2.2)) := by
  refine (h.write spec.certificatePath certificate.pem).attempt (fun _ _ _ => trivial) ?_
  rintro _ t ⟨ht, hwritten⟩
  refine (ht.writePrivate spec.keyPath certificate.privateKey).attempt (fun _ _ _ => trivial) ?_
  rintro _ t' ⟨ht', hwritten'⟩
  have hpresent := Workspace.present_of_writes hwritten hwritten'
  refine ht'.attach spec ?_
  unfold Delivered
  rw [hwritten]
  exact hpresent

theorem ensures_certify (hthing : s.2.1.things.get? thing.name = some ⟨thing.arn, [], groups, none⟩)
    (spec : Specification) :
    Ensures surroundings.recorded (certify spec thing) s
      (Attempt (fun _ _ => True) (Provided spec thing groups s.2.2)) := by
  have hissued : Ensures surroundings.recorded (request .createCertificate) s
      (Attempt (fun _ _ => True) fun certificate t =>
        Furnished thing.name ⟨thing.arn, [], groups, none⟩ certificate [] t.1 t.2.1 ∧
          t.2.2 = s.2.2) := by
    refine ensures_request_ok fun certificate d hd => ⟨?_, rfl⟩
    simp only [Cloud.perform, Prod.mk.injEq, Except.ok.injEq] at hd
    rcases hd with ⟨rfl, rfl⟩
    -- Whatever was in store under the new name is replaced.
    refine ⟨hthing, List.mem_append_right _ List.mem_cons_self, ⟨_, rfl⟩, ?_⟩
    exact Catalog.get?_insert_self _ _ _
  refine hissued.attempt (fun _ _ _ => trivial) ?_
  rintro certificate t ⟨ht, hsame⟩
  rw [← hsame]
  exact ht.deliver spec

theorem ensures_complete (hthing : s.2.1.things.get? thing.name = some ⟨thing.arn, [], [], none⟩)
    (spec : Specification) :
    Ensures surroundings.recorded (complete spec thing) s
      (Attempt (fun _ _ => True) (Provided spec thing spec.group.toList s.2.2)) := by
  unfold complete
  cases spec.group with
  | none => exact ensures_certify hthing spec
  | some group =>
      have hjoined : Ensures surroundings.recorded (request (.addThingToGroup group thing.name)) s
          (Attempt (fun _ _ => True) fun _ t =>
            t.2.1.things.get? thing.name = some ⟨thing.arn, [], [group], none⟩ ∧
              t.2.2 = s.2.2) := by
        refine ensures_request_ok fun _ d hd => ⟨?_, rfl⟩
        rw [Cloud.onThing_ok hd, Catalog.get?_modify, if_pos rfl, Cloud.noted_things, hthing]
        rfl
      refine hjoined.attempt (fun _ _ _ => trivial) ?_
      rintro _ t ⟨ht, hsame⟩
      rw [← hsame]
      exact ensures_certify ht spec

/-- A setup that is completed has provided an identity, whatever state it began in. -/
theorem ensures_provision (spec : Specification) (s : Scene) :
    Ensures surroundings.recorded (provision spec) s
      (Attempt (fun _ _ => True)
        (Provided spec ⟨spec.thing, thingArn spec.thing⟩ spec.group.toList s.2.2)) := by
  have hregistered : Ensures surroundings.recorded (request (.createThing spec.thing)) s
      (Attempt (fun _ _ => True) fun thing t => thing = ⟨spec.thing, thingArn spec.thing⟩ ∧
        t.2.1.things.get? spec.thing = some ⟨thingArn spec.thing, [], [], none⟩ ∧
          t.2.2 = s.2.2) := by
    refine ensures_request_ok fun thing d hd => ?_
    rcases Cloud.createThing_ok hd with ⟨rfl, rfl⟩
    exact ⟨rfl, Catalog.get?_insert_self _ _ _, rfl⟩
  refine hregistered.attempt (fun _ _ _ => trivial) ?_
  rintro _ t ⟨rfl, ht, hsame⟩
  have hcompleted : Ensures surroundings.recorded
      (complete spec ⟨spec.thing, thingArn spec.thing⟩) t
      (Attempt (fun _ _ => True)
        (Provided spec ⟨spec.thing, thingArn spec.thing⟩ spec.group.toList t.2.2)) :=
    ensures_complete ht spec
  rw [← hsame]
  refine hcompleted.attempt ?_ ?_
  · intro setback t' _
    exact (ensures_true _ (rollback spec.thing setback) t').bind fun _ _ _ => trivial
  · exact fun identity t' hprovided => hprovided

end Qualifier
