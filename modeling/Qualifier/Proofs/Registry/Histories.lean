import Mathlib.Data.List.Nodup
import Qualifier.Proofs.Registry.Records

/-!
# Histories of Calls

What the simulated services keep to over any calls, from any state. A call is about one
thing or one certificate at most, and what it changes on record is that one. A call that
fails changes nothing that was ever asked for. Nothing leaves the records but by the
request that deletes it, and at a moment when it may be deleted: a certificate when it is
inactive, a thing when no principal is attached to it. Certificates and runs are numbered
in the order they come, so no two of them bear one name.

`effect_perform` says once what a call may do to the records. The rules for a single call
are read off it (`lawful_service`), and those for a history follow by induction on its
calls.

## Main definitions

* `Subject`, `Cloud.subject?`: What a request is about.
* `Untouched`: What a call that fails leaves as it was.
* `Effect`: What a call may do to the records.
* `Lawful`: The rules that a call keeps.
* `Cloud.history`, `Cloud.afterAll`: Calls one after the other, and the state they lead to.
* `issuedIn`, `startedIn`: The names given out in a history.

## Theorems

* `effect_perform`: There are no other effects.
* `Effect.lawful`: All of them keep the rules.
* `lawful_service`: So does every call.
* `issuedIn_history`, `startedIn_history`: The names are given out in order.
* `history_obeys_rules`: What holds of every history.
-/

namespace Qualifier

namespace Simulated

/-- A thing or a certificate, by the name it is on record under. -/
inductive Subject where
  | thing (name : String)
  | certificate (id : String)
deriving DecidableEq, Repr

/-- What a request is about, if that is a thing or a certificate. A request for a
    certificate is about the one that is issued next. -/
def Cloud.subject? (c : Cloud) : Request → Option Subject
  | .createThing name | .addThingToGroup _ name | .attachPrincipal name _ | .listPrincipals name
  | .detachPrincipal name _ | .deleteThing name | .updateShadow name _ => some (.thing name)
  | .createCertificate => some (.certificate (certificateId (c.issued + 1).toNat))
  | .attachPolicy _ target => some (.certificate (certificateIdOfArn target))
  | .updateCertificate id _ | .deleteCertificate id => some (.certificate id)
  | .startSuiteRun _ _ | .getSuiteRun _ | .getEndpoint _ | .getLogEvents _ _ | .upload _ _ _
  | .getSecret _ => none

/-- Two clouds have the same on record about a thing or a certificate. -/
def Cloud.SameOn (c d : Cloud) : Subject → Prop
  | .thing name => d.things.get? name = c.things.get? name
  | .certificate id => d.certificates.get? id = c.certificates.get? id

/-- The records, and all that was ever asked for or set, are the same. Only the calls and
    the queues may differ. -/
structure Untouched (c d : Cloud) : Prop where
  things : d.things = c.things
  certificates : d.certificates = c.certificates
  issued : d.issued = c.issued
  started : d.started = c.started
  uploads : d.uploads = c.uploads
  secrets : d.secrets = c.secrets
  lastRun : d.lastRun = c.lastRun

theorem Untouched.refl (c : Cloud) : Untouched c c :=
  ⟨rfl, rfl, rfl, rfl, rfl, rfl, rfl⟩

theorem untouched_noted (c : Cloud) (op : Operation) : Untouched c (c.noted op) :=
  ⟨rfl, rfl, rfl, rfl, rfl, rfl, rfl⟩

/-- A request deletes a certificate that is inactive. -/
def DeletesInactive (c : Cloud) (r : Request) (id : String) : Prop :=
  r = .deleteCertificate id ∧
    ∃ cert, c.certificates.get? id = some cert ∧ cert.status = .inactive

/-- A request deletes a thing without principals. -/
def DeletesBare (c : Cloud) (r : Request) (name : String) : Prop :=
  r = .deleteThing name ∧ ∃ dev, c.things.get? name = some dev ∧ dev.principals = []

/-- What a call may do to the records, by whether it succeeds. -/
inductive Effect (c : Cloud) (r : Request) : Bool → Cloud → Prop
  | refused {d : Cloud} (h : Untouched c d) : Effect c r false d
  | aside {d : Cloud} (hthings : d.things = c.things)
      (hcertificates : d.certificates = c.certificates) : Effect c r true d
  | registered {name : String} (dev : Device) (hsubject : c.subject? r = some (.thing name)) :
      Effect c r true { c with things := c.things.insert name dev }
  | thingChanged {name : String} (f : Device → Device)
      (hsubject : c.subject? r = some (.thing name)) :
      Effect c r true { c with things := c.things.modify name f }
  | unregistered {name : String} (h : DeletesBare c r name) :
      Effect c r true { c with things := c.things.erase name }
  | issued {id : String} (n : UInt32) (cert : StoredCertificate)
      (hsubject : c.subject? r = some (.certificate id)) :
      Effect c r true { c with issued := n, certificates := c.certificates.insert id cert }
  | certificateChanged {id : String} (f : StoredCertificate → StoredCertificate)
      (hsubject : c.subject? r = some (.certificate id)) :
      Effect c r true { c with certificates := c.certificates.modify id f }
  | deleted {id : String} (h : DeletesInactive c r id) :
      Effect c r true { c with certificates := c.certificates.erase id }

namespace Cloud

/-- A change to a thing is refused or done. -/
theorem effect_onThing (c : Cloud) {r : Request} (operation : String) {name : String}
    (f : Device → Device) (hsubject : c.subject? r = some (.thing name)) :
    Effect c r (c.onThing operation name f).1.isOk (c.onThing operation name f).2 := by
  unfold onThing
  split
  · exact .thingChanged f hsubject
  · exact .refused (.refl c)

/-- A change to a certificate is refused or done. -/
theorem effect_onCertificate (c : Cloud) {r : Request} (operation what : String) {id : String}
    (f : StoredCertificate → StoredCertificate)
    (hsubject : c.subject? r = some (.certificate id)) :
    Effect c r (c.onCertificate operation what id f).1.isOk
      (c.onCertificate operation what id f).2 := by
  unfold onCertificate
  split
  · exact .certificateChanged f hsubject
  · exact .refused (.refl c)

theorem effect_perform (r : Request) (c : Cloud) :
    Effect c r (perform r c).1.isOk (perform r c).2 := by
  cases r with
  | createThing name =>
      simp only [perform]
      split
      · exact .refused (.refl c)
      · exact .registered _ rfl
  | createCertificate => exact .issued _ _ rfl
  | addThingToGroup group thing => exact c.effect_onThing _ _ rfl
  | attachPrincipal thing principal => exact c.effect_onThing _ _ rfl
  | updateShadow thing document => exact c.effect_onThing _ _ rfl
  | attachPolicy policy target =>
      refine c.effect_onCertificate _ _ _ ?_
      rw [storedUnder_eq]
      rfl
  | updateCertificate id status => exact c.effect_onCertificate _ _ _ rfl
  | listPrincipals thing =>
      simp only [perform]
      split
      · exact .aside rfl rfl
      · exact .refused (.refl c)
  | detachPrincipal thing principal =>
      simp only [perform]
      split
      · exact .refused (.refl c)
      · split
        · exact c.effect_onThing _ _ rfl
        · exact .refused (.refl c)
  | deleteCertificate id =>
      simp only [perform]
      split
      · exact .refused (.refl c)
      · rename_i cert hcert
        split
        · exact .refused (.refl c)
        · rename_i hinactive
          exact .deleted ⟨rfl, cert, hcert, hinactive⟩
  | deleteThing name =>
      simp only [perform]
      split
      · exact .refused (.refl c)
      · rename_i dev hdev
        split
        · rename_i hbare
          exact .unregistered ⟨rfl, dev, hdev, hbare⟩
        · exact .refused (.refl c)
  | startSuiteRun suiteId arn =>
      simp only [perform]
      split
      · exact .aside rfl rfl
      · exact .refused (.refl c)
  | getSuiteRun job =>
      simp only [perform]
      split
      · exact .aside rfl rfl
      · exact .refused ⟨rfl, rfl, rfl, rfl, rfl, rfl, rfl⟩
      · split
        · exact .aside rfl rfl
        · exact .refused (.refl c)
  | getEndpoint arn => exact .aside rfl rfl
  | getLogEvents group stream => exact .aside rfl rfl
  | upload path bucket key => exact .aside rfl rfl
  | getSecret id =>
      simp only [perform]
      split
      · exact .aside rfl rfl
      · exact .refused (.refl c)

end Cloud

/-- The rules that a call keeps, by whether it succeeds. -/
structure Lawful (c : Cloud) (r : Request) (succeeded : Bool) (d : Cloud) : Prop where
  /-- A call that fails leaves everything as it was. -/
  failed : succeeded = false → Untouched c d
  /-- No other thing and no other certificate than the one it is about is affected. -/
  others : ∀ s, c.subject? r ≠ some s → c.SameOn d s
  /-- A certificate goes only when it is deleted while inactive. -/
  certificateGone : ∀ id, c.certificates.contains id = true →
    d.certificates.contains id = false → DeletesInactive c r id
  /-- A thing goes only when it is deleted while nothing is attached to it. -/
  thingGone : ∀ name, c.things.contains name = true →
    d.things.contains name = false → DeletesBare c r name

/-- What has gone from a catalog that is the same but for one entry is that entry. -/
theorem gone_at {α : Type} {old new : Catalog String α} {key other : String}
    (hothers : ∀ k, k ≠ key → new.get? k = old.get? k) (hthere : old.contains other = true)
    (hgone : new.contains other = false) : other = key := by
  by_contra hne
  rw [Catalog.contains, hothers other hne, ← Catalog.contains, hthere] at hgone
  exact absurd hgone (by decide)

/-- When both catalogs are the same there is nothing that was affected or has gone. -/
theorem lawful_of_same {c d : Cloud} {r : Request} {succeeded : Bool}
    (hfailed : succeeded = false → Untouched c d) (hthings : d.things = c.things)
    (hcertificates : d.certificates = c.certificates) : Lawful c r succeeded d where
  failed := hfailed
  others s _ := by
    cases s with
    | thing name => exact congrArg (Catalog.get? · name) hthings
    | certificate id => exact congrArg (Catalog.get? · id) hcertificates
  certificateGone id hthere hgone := by
    rw [hcertificates, hthere] at hgone
    exact absurd hgone (by decide)
  thingGone name hthere hgone := by
    rw [hthings, hthere] at hgone
    exact absurd hgone (by decide)

/-- A change to the things alone is lawful if it shows at the thing the call is about only,
    and if that thing has not gone or was deleted while nothing was attached to it. -/
theorem lawful_of_things {c : Cloud} {r : Request} {name : String}
    {things : Catalog String Device} (hsubject : c.subject? r = some (.thing name))
    (hothers : ∀ other, other ≠ name → things.get? other = c.things.get? other)
    (hgone : c.things.contains name = true → things.contains name = false →
      DeletesBare c r name) : Lawful c r true { c with things := things } where
  failed h := absurd h (by decide)
  others s hs := by
    cases s with
    | thing other =>
        refine hothers other fun heq => ?_
        exact hs (heq ▸ hsubject)
    | certificate id => rfl
  certificateGone id hthere hleft := absurd (hthere.symm.trans hleft) (by decide)
  thingGone other hthere hleft := by
    obtain rfl := gone_at hothers hthere hleft
    exact hgone hthere hleft

/-- The same for a change to the certificates. -/
theorem lawful_of_certificates {c : Cloud} {r : Request} {id : String} {n : UInt32}
    {certificates : Catalog String StoredCertificate}
    (hsubject : c.subject? r = some (.certificate id))
    (hothers : ∀ other, other ≠ id → certificates.get? other = c.certificates.get? other)
    (hgone : c.certificates.contains id = true → certificates.contains id = false →
      DeletesInactive c r id) :
    Lawful c r true { c with issued := n, certificates := certificates } where
  failed h := absurd h (by decide)
  others s hs := by
    cases s with
    | thing name => rfl
    | certificate other =>
        refine hothers other fun heq => ?_
        exact hs (heq ▸ hsubject)
  certificateGone other hthere hleft := by
    obtain rfl := gone_at hothers hthere hleft
    exact hgone hthere hleft
  thingGone name hthere hleft := absurd (hthere.symm.trans hleft) (by decide)

/-- Every effect is lawful. -/
theorem Effect.lawful {c d : Cloud} {r : Request} {succeeded : Bool}
    (h : Effect c r succeeded d) : Lawful c r succeeded d := by
  cases h with
  | refused huntouched =>
      exact lawful_of_same (fun _ => huntouched) huntouched.things huntouched.certificates
  | aside hthings hcertificates =>
      exact lawful_of_same (fun h => absurd h (by decide)) hthings hcertificates
  | registered dev hsubject =>
      refine lawful_of_things hsubject (fun _ hne => Catalog.get?_insert_of_ne _ _ hne) ?_
      intro hthere hleft
      rw [Catalog.contains_insert_of_contains _ _ hthere] at hleft
      exact absurd hleft (by decide)
  | thingChanged f hsubject =>
      refine lawful_of_things hsubject (fun _ hne => ?_) fun hthere hleft => ?_
      · rw [Catalog.get?_modify, if_neg hne]
      · rw [Catalog.contains_modify, hthere] at hleft
        exact absurd hleft (by decide)
  | unregistered hbare =>
      refine lawful_of_things ?_ (fun _ hne => Catalog.get?_erase_of_ne _ hne) fun _ _ => hbare
      rw [hbare.1]
      rfl
  | issued n cert hsubject =>
      refine lawful_of_certificates hsubject (fun _ hne => Catalog.get?_insert_of_ne _ _ hne) ?_
      intro hthere hleft
      rw [Catalog.contains_insert_of_contains _ _ hthere] at hleft
      exact absurd hleft (by decide)
  | certificateChanged f hsubject =>
      refine lawful_of_certificates hsubject (fun _ hne => ?_) fun hthere hleft => ?_
      · rw [Catalog.get?_modify, if_neg hne]
      · rw [Catalog.contains_modify, hthere] at hleft
        exact absurd hleft (by decide)
  | deleted hinactive =>
      refine lawful_of_certificates ?_ (fun _ hne => Catalog.get?_erase_of_ne _ hne)
        fun _ _ => hinactive
      rw [hinactive.1]
      rfl

/-- Noting a call makes no difference to what it is about. -/
theorem subject?_noted (c : Cloud) (op : Operation) (r : Request) :
    (c.noted op).subject? r = c.subject? r := by
  cases r <;> rfl

/-- What is lawful after a call was noted is lawful before. -/
theorem Lawful.of_noted {c d : Cloud} {op : Operation} {r : Request} {succeeded : Bool}
    (h : Lawful (c.noted op) r succeeded d) : Lawful c r succeeded d where
  failed hsucceeded := by
    have hsame := h.failed hsucceeded
    exact ⟨hsame.things, hsame.certificates, hsame.issued, hsame.started, hsame.uploads,
      hsame.secrets, hsame.lastRun⟩
  others s hs := by
    have hsame := h.others s (by rwa [subject?_noted])
    cases s <;> exact hsame
  certificateGone := h.certificateGone
  thingGone := h.thingGone

theorem lawful_service (r : Request) (c : Cloud) :
    Lawful c r (c.service r).1.isOk (c.service r).2 := by
  rw [Cloud.service_eq]
  cases (c.pending r.operation).headD none with
  | some error => exact lawful_of_same (fun _ => untouched_noted c _) rfl rfl
  | none => exact (Cloud.effect_perform r _).lawful.of_noted

/-! ## The names given out -/

/-- The certificate that a call issues. -/
def issued? : (r : Request) → Except ServiceError r.Answer → Option String
  | .createCertificate, .ok certificate => some certificate.id
  | _, _ => none

/-- The run that a call starts. -/
def started? : (r : Request) → Except ServiceError r.Answer → Option String
  | .startSuiteRun _ _, .ok job => some job.runId
  | _, _ => none

/-- The name of a run that is the `n`-th to be started. -/
def runName (n : Nat) : String :=
  "run-" ++ toString n

theorem runName_injective : Function.Injective runName := by
  intro n m h
  have hlist := congrArg String.toList h
  simp only [runName, String.toList_append] at hlist
  have hdigits : (toString n).toList = (toString m).toList := List.append_cancel_left hlist
  -- The digits, read back, give the number.
  calc n = Nat.ofDigitChars 10 (toString n).toList 0 := by simp
    _ = Nat.ofDigitChars 10 (toString m).toList 0 := by rw [hdigits]
    _ = m := by simp

/-- A certificate that is issued takes up the next number, and no other call counts. -/
theorem issued?_service (r : Request) (c : Cloud) :
    (issued? r (c.service r).1 = none ∧ (c.service r).2.issued = c.issued) ∨
    (issued? r (c.service r).1 = some (certificateId (c.issued + 1).toNat) ∧
      (c.service r).2.issued = c.issued + 1) := by
  rw [Cloud.service_eq]
  cases (c.pending r.operation).headD none with
  | some error => cases r <;> exact Or.inl ⟨rfl, rfl⟩
  | none =>
      cases r with
      | createCertificate => exact Or.inr ⟨rfl, rfl⟩
      | _ =>
          refine Or.inl ⟨rfl, ?_⟩
          simp only [Cloud.perform, Cloud.onThing, Cloud.onCertificate]
          repeat' split
          all_goals rfl

/-- A run that is started takes up the next number, and no other call counts. -/
theorem started?_service (r : Request) (c : Cloud) :
    (started? r (c.service r).1 = none ∧ (c.service r).2.started.length = c.started.length) ∨
    (started? r (c.service r).1 = some (runName (c.started.length + 1)) ∧
      (c.service r).2.started.length = c.started.length + 1) := by
  rw [Cloud.service_eq]
  cases (c.pending r.operation).headD none with
  | some error => cases r <;> exact Or.inl ⟨rfl, rfl⟩
  | none =>
      cases r with
      | startSuiteRun suiteId arn =>
          simp only [Cloud.perform]
          split
          · exact Or.inr ⟨rfl, List.length_append⟩
          · exact Or.inl ⟨rfl, rfl⟩
      | _ =>
          refine Or.inl ⟨rfl, ?_⟩
          simp only [Cloud.perform, Cloud.onThing, Cloud.onCertificate]
          repeat' split
          all_goals rfl

/-! ## Histories -/

/-- A call with its answer, and the clouds before and after it. -/
structure Call where
  before : Cloud
  request : Request
  answer : Except ServiceError request.Answer
  after : Cloud

/-- Requests one after the other, each with what came of it. -/
def Cloud.history (c : Cloud) : List Request → List Call
  | [] => []
  | r :: rest => ⟨c, r, (c.service r).1, (c.service r).2⟩ :: (c.service r).2.history rest

/-- The cloud after requests one after the other. -/
def Cloud.afterAll (c : Cloud) : List Request → Cloud
  | [] => c
  | r :: rest => (c.service r).2.afterAll rest

/-- The certificates that calls issue. -/
def issuedIn (calls : List Call) : List String :=
  calls.filterMap fun call => issued? call.request call.answer

/-- The runs that calls start. -/
def startedIn (calls : List Call) : List String :=
  calls.filterMap fun call => started? call.request call.answer

theorem lawful_history (c : Cloud) (requests : List Request) :
    ∀ call ∈ c.history requests,
      Lawful call.before call.request call.answer.isOk call.after := by
  induction requests generalizing c with
  | nil => exact fun call hcall => absurd hcall List.not_mem_nil
  | cons r rest ih =>
      intro call hcall
      rcases List.mem_cons.mp hcall with rfl | hcall
      · exact lawful_service r c
      · exact ih _ call hcall

/-- What is there at first and not at last went with one of the calls. -/
theorem gone_in_history {P : Cloud → Prop} (c : Cloud) (requests : List Request) (hfirst : P c)
    (hlast : ¬P (c.afterAll requests)) :
    ∃ call ∈ c.history requests, P call.before ∧ ¬P call.after := by
  induction requests generalizing c with
  | nil => exact absurd hfirst hlast
  | cons r rest ih =>
      by_cases hkept : P (c.service r).2
      · rcases ih _ hkept hlast with ⟨call, hcall, hgone⟩
        exact ⟨call, List.mem_cons_of_mem _ hcall, hgone⟩
      · exact ⟨_, List.mem_cons_self, hfirst, hkept⟩

/-- The certificates that are issued bear the numbers after the count, in order, as long as
    the count does not start again. -/
theorem issuedIn_history (c : Cloud) (requests : List Request)
    (hlimit : c.issued.toNat + (issuedIn (c.history requests)).length < UInt32.size) :
    issuedIn (c.history requests) = (List.range' (c.issued.toNat + 1)
      (issuedIn (c.history requests)).length).map certificateId := by
  induction requests generalizing c with
  | nil => rfl
  | cons r rest ih =>
      have hnext := ih (c.service r).2
      simp only [issuedIn, Cloud.history, List.filterMap_cons] at hlimit hnext ⊢
      rcases issued?_service r c with ⟨hnone, hcount⟩ | ⟨hsome, hcount⟩
      · simp only [hnone] at hlimit ⊢
        rw [hcount] at hnext
        exact hnext hlimit
      · simp only [hsome, List.length_cons] at hlimit ⊢
        rw [hcount, toNat_succ (by omega)] at hnext
        rw [toNat_succ (by omega), List.range'_succ, List.map_cons, ← hnext (by omega)]

/-- The runs that are started bear the numbers after those of the runs before, in order. -/
theorem startedIn_history (c : Cloud) (requests : List Request) :
    startedIn (c.history requests) = (List.range' (c.started.length + 1)
      (startedIn (c.history requests)).length).map runName := by
  induction requests generalizing c with
  | nil => rfl
  | cons r rest ih =>
      have hnext := ih (c.service r).2
      simp only [startedIn, Cloud.history, List.filterMap_cons] at hnext ⊢
      rcases started?_service r c with ⟨hnone, hcount⟩ | ⟨hsome, hcount⟩
      · simp only [hnone]
        rw [hcount] at hnext
        exact hnext
      · simp only [hsome, List.length_cons]
        rw [hcount] at hnext
        rw [List.range'_succ, List.map_cons, ← hnext]

/-- Whatever is asked of the services, in any order and from any state: every call keeps the
    rules, nothing goes from the records but by the request that deletes it and at a moment
    when it may, and no name is given out twice, be it to a certificate, as long as the count
    does not start again, or to a run. -/
theorem history_obeys_rules (c : Cloud) (requests : List Request) :
    (∀ call ∈ c.history requests,
      Lawful call.before call.request call.answer.isOk call.after) ∧
    (∀ id, c.certificates.contains id = true →
      (c.afterAll requests).certificates.contains id = false →
      ∃ call ∈ c.history requests, DeletesInactive call.before call.request id) ∧
    (∀ name, c.things.contains name = true →
      (c.afterAll requests).things.contains name = false →
      ∃ call ∈ c.history requests, DeletesBare call.before call.request name) ∧
    (c.issued.toNat + (issuedIn (c.history requests)).length < UInt32.size →
      (issuedIn (c.history requests)).Nodup) ∧
    (startedIn (c.history requests)).Nodup := by
  have hlawful := lawful_history c requests
  refine ⟨hlawful, ?_, ?_, ?_, ?_⟩
  · intro id hfirst hlast
    rcases gone_in_history (P := fun d => d.certificates.contains id = true) c requests hfirst
      (by simp [hlast]) with ⟨call, hcall, hthere, hleft⟩
    exact ⟨call, hcall, (hlawful call hcall).certificateGone id hthere (by simpa using hleft)⟩
  · intro name hfirst hlast
    rcases gone_in_history (P := fun d => d.things.contains name = true) c requests hfirst
      (by simp [hlast]) with ⟨call, hcall, hthere, hleft⟩
    exact ⟨call, hcall, (hlawful call hcall).thingGone name hthere (by simpa using hleft)⟩
  · intro hlimit
    rw [issuedIn_history c requests hlimit]
    exact List.Nodup.map certificateId_injective List.nodup_range'
  · rw [startedIn_history c requests]
    exact List.Nodup.map runName_injective List.nodup_range'

/-- Requests that retire a device and the certificate attached to it. The first of them comes
    too early. -/
def retiring : List Request :=
  [.deleteCertificate "c1", .detachPrincipal "device" (certificateArn "c1"),
    .updateCertificate "c1" .inactive, .deleteCertificate "c1", .deleteThing "device"]

theorem history_obeys_rules_retiring :
    (∃ call ∈ (Cloud.new.seedThing "device" ["c1"]).history retiring,
      DeletesInactive call.before call.request "c1") ∧
    ∃ call ∈ (Cloud.new.seedThing "device" ["c1"]).history retiring,
      DeletesBare call.before call.request "device" := by
  rcases history_obeys_rules (Cloud.new.seedThing "device" ["c1"]) retiring with
    ⟨-, hcertificates, hthings, -⟩
  exact ⟨hcertificates "c1" (by decide +kernel) (by decide +kernel),
    hthings "device" (by decide +kernel) (by decide +kernel)⟩

end Simulated

end Qualifier
