import Qualifier.Proofs.Identity.Teardown

/-!
# Clouds That Teardowns Have Told Apart

A teardown that fails leaves things and certificates behind that one which succeeds
takes away. Two clouds are alike but for some names if that is all that tells them
apart: they may differ in what is registered under these names, in their certificates,
and in what is queued for the operations that clear up.

Such clouds give the same answers to the requests of a suite, as long as these are about
a thing under another name and a certificate that is in store in both (`InStep`). So
what one suite leaves behind is hidden from the suites after it. A teardown goes its own
way in each cloud, and after it the clouds are alike but for one more name.

## Main definitions

* `Alike`: Two clouds are the same but for what is left of some things.
* `Cloud.Equips`: The thing and the certificates of a suite are there.
* `InStep`: The questions that two such clouds answer alike.

## Theorems

* `Alike.refl`, `Alike.symm`, `Alike.trans`: What is alike.
* `Alike.service_blind`, `Alike.service_inStep`: Requests that are answered alike.
* `Equips.service`: Only a teardown takes away what a suite is equipped with.
* `Cloud.equips_of_createThing`, `Cloud.stores_of_createCertificate`: How a suite is
  equipped.
* `alike_of_tearsDown`: A teardown leaves a cloud alike but for its own thing.
-/

namespace Qualifier

namespace Simulated

/-- Two clouds are the same but for the things under some names, the certificates, the
    calls that were noted, and the queues of the operations that clear up. -/
structure Alike (taken : List String) (c c' : Cloud) : Prop where
  things : ∀ name ∉ taken, c'.things.get? name = c.things.get? name
  pending : ∀ op, clearsUp op = false → c'.pending op = c.pending op
  rest : c' = { c with
    things := c'.things
    certificates := c'.certificates
    calls := c'.calls
    pending := c'.pending }

/-- The thing of a suite is registered under its full name, and certificates with certain
    names are in store. -/
structure Cloud.Equips (c : Cloud) (name : String) (ids : List String) : Prop where
  thing : ∃ dev, c.things.get? name = some dev ∧ dev.arn = thingArn name
  certificates : ∀ id ∈ ids, c.Stores id

/-- The questions of a suite that is equipped with a thing and certificates. -/
def InStep (name : String) (ids : List String) : Ask → Prop
  | .service (.addThingToGroup _ thing) => thing = name
  | .service (.attachPrincipal thing _) => thing = name
  | .service (.updateShadow thing _) => thing = name
  | .service (.attachPolicy _ target) => storedUnder target ∈ ids
  | .service (.startSuiteRun _ arn) => arn = thingArn name
  | .service .createCertificate => True
  | q => Cloud.blind q = true

variable {taken taken' : List String} {c c' d : Cloud} {name : String} {ids : List String}
  {about : String → Prop}

theorem Alike.exists_eq (h : Alike taken c c') : ∃ T C k q,
    c' = { c with things := T, certificates := C, calls := k, pending := q } :=
  ⟨_, _, _, _, h.rest⟩

theorem Alike.refl (taken : List String) (c : Cloud) : Alike taken c c :=
  ⟨fun _ _ => rfl, fun _ _ => rfl, rfl⟩

theorem Alike.symm (h : Alike taken c c') : Alike taken c' c where
  things name hname := (h.things name hname).symm
  pending op hop := (h.pending op hop).symm
  rest := by
    rw [h.rest]

theorem Alike.trans (h : Alike taken c c') (h' : Alike taken c' d) : Alike taken c d where
  things name hname := (h'.things name hname).trans (h.things name hname)
  pending op hop := (h'.pending op hop).trans (h.pending op hop)
  rest := by
    rw [h'.rest, h.rest]

theorem Alike.mono (h : Alike taken c c') (hsub : taken ⊆ taken') : Alike taken' c c' where
  things name hname := h.things name fun hmem => hname (hsub hmem)
  pending := h.pending
  rest := h.rest

theorem Alike.noted (h : Alike taken c c') (op : Operation) :
    Alike taken (c.noted op) (c'.noted op) where
  things := h.things
  pending other hother := by
    simp only [Cloud.noted]
    by_cases heq : other = op
    · rw [if_pos heq, if_pos heq, h.pending other hother]
    · rw [if_neg heq, if_neg heq, h.pending other hother]
  rest := congrArg (fun x : Cloud =>
    { x with calls := (c'.noted op).calls, pending := (c'.noted op).pending }) h.rest

/-- The same change under a name that is not among the others. -/
theorem Alike.withThings (h : Alike taken c c') {T T' : Catalog String Device}
    (hsame : ∀ name ∉ taken, T'.get? name = T.get? name) :
    Alike taken { c with things := T } { c' with things := T' } where
  things := hsame
  pending := h.pending
  rest := congrArg (fun x : Cloud => { x with things := T' }) h.rest

theorem Alike.withCertificates (h : Alike taken c c') (C C' : Catalog String StoredCertificate) :
    Alike taken { c with certificates := C } { c' with certificates := C' } where
  things := h.things
  pending := h.pending
  rest := congrArg (fun x : Cloud => { x with certificates := C' }) h.rest

theorem Alike.contains (h : Alike taken c c') (hname : name ∉ taken) :
    c'.things.contains name = c.things.contains name := by
  rw [Catalog.contains, Catalog.contains, h.things name hname]

/-- Two clouds do the same at a request: they answer alike, and are alike after it. -/
def SameAt (taken : List String) (r : Request) (done done' : Except ServiceError r.Answer × Cloud) :
    Prop :=
  done'.1 = done.1 ∧ Alike taken done.2 done'.2

/-- Both run into the same failure, or none of them into any. -/
theorem Alike.service (h : Alike taken c c') {r : Request} (hop : clearsUp r.operation = false)
    (hdone : SameAt taken r (Cloud.perform r (c.noted r.operation))
      (Cloud.perform r (c'.noted r.operation))) :
    SameAt taken r (Cloud.service r c) (Cloud.service r c') := by
  rw [Cloud.service_eq, Cloud.service_eq, h.pending _ hop]
  cases (c.pending r.operation).headD none with
  | some e => exact ⟨rfl, h.noted _⟩
  | none => exact hdone

theorem Alike.perform_blind (h : Alike taken c c') {r : Request}
    (hr : Cloud.blind (.service r) = true) :
    SameAt taken r (Cloud.perform r c) (Cloud.perform r c') := by
  -- What these requests read and write is the same in both clouds.
  obtain ⟨T, C, k, q, rfl⟩ := h.exists_eq
  cases r with
  | getSuiteRun job =>
      rcases c with ⟨_, _, _, _, _, runs, lastRun, _, _, _, _, _⟩
      cases runs with
      | nil => cases lastRun <;> exact ⟨rfl, h⟩
      | cons look rest => cases look <;> exact ⟨rfl, h.things, h.pending, rfl⟩
  | getEndpoint arn => exact ⟨rfl, h⟩
  | getLogEvents group stream => exact ⟨rfl, h⟩
  | upload path bucket key => exact ⟨rfl, h.things, h.pending, rfl⟩
  | getSecret id =>
      simp only [Cloud.perform]
      cases c.secrets.get? id <;> exact ⟨rfl, h⟩
  | _ => exact absurd hr Bool.false_ne_true

theorem Alike.onThing (h : Alike taken c c') (hname : name ∉ taken) (operation : String)
    (f : Device → Device) :
    (c'.onThing operation name f).1 = (c.onThing operation name f).1 ∧
      Alike taken (c.onThing operation name f).2 (c'.onThing operation name f).2 := by
  rw [Cloud.onThing, Cloud.onThing, h.contains hname]
  by_cases hthere : c.things.contains name = true
  · rw [if_pos hthere, if_pos hthere]
    refine ⟨rfl, h.withThings fun other hother => ?_⟩
    rw [Catalog.get?_modify, Catalog.get?_modify, h.things other hother]
  · rw [if_neg hthere, if_neg hthere]
    exact ⟨rfl, h⟩

theorem Alike.perform_createThing (h : Alike taken c c') (hname : name ∉ taken) :
    SameAt taken (.createThing name) (Cloud.perform (.createThing name) c)
      (Cloud.perform (.createThing name) c') := by
  simp only [Cloud.perform, h.contains hname]
  by_cases hthere : c.things.contains name = true
  · rw [if_pos hthere, if_pos hthere]
    exact ⟨rfl, h⟩
  · rw [if_neg hthere, if_neg hthere]
    refine ⟨rfl, h.withThings fun other hother => ?_⟩
    by_cases heq : other = name
    · rw [heq, Catalog.get?_insert_self, Catalog.get?_insert_self]
    · rw [Catalog.get?_insert_of_ne _ _ heq, Catalog.get?_insert_of_ne _ _ heq,
        h.things other hother]

/-- A thing that is registered under its full name is found by it. -/
theorem Cloud.Equips.any (h : c.Equips name ids) :
    (c.things.entries.any fun e => e.2.arn = thingArn name) = true := by
  rcases h.thing with ⟨dev, hdev, harn⟩
  rw [Catalog.get?, Option.map_eq_some_iff] at hdev
  rcases hdev with ⟨e, he, rfl⟩
  exact List.any_eq_true.mpr ⟨e, List.mem_of_find?_eq_some he, decide_eq_true harn⟩

theorem Alike.perform_inStep (h : Alike taken c c') (hname : name ∉ taken)
    (hc : c.Equips name ids) (hc' : c'.Equips name ids) {r : Request}
    (hr : InStep name ids (.service r)) :
    SameAt taken r (Cloud.perform r c) (Cloud.perform r c') := by
  cases r with
  | addThingToGroup group thing =>
      rw [show thing = name from hr]
      exact h.onThing hname _ _
  | attachPrincipal thing principal =>
      rw [show thing = name from hr]
      exact h.onThing hname _ _
  | updateShadow thing document =>
      rw [show thing = name from hr]
      exact h.onThing hname _ _
  | attachPolicy policy target =>
      have hthere : c.certificates.contains (storedUnder target) = true := hc.certificates _ hr
      have hthere' : c'.certificates.contains (storedUnder target) = true := hc'.certificates _ hr
      simp only [Cloud.perform, Cloud.onCertificate, if_pos hthere, if_pos hthere']
      exact ⟨rfl, h.withCertificates _ _⟩
  | startSuiteRun suiteId arn =>
      obtain ⟨T, C, k, q, rfl⟩ := h.exists_eq
      rw [show arn = thingArn name from hr]
      simp only [Cloud.perform]
      rw [if_pos hc.any, if_pos hc'.any]
      exact ⟨rfl, h.things, h.pending, rfl⟩
  | createCertificate =>
      obtain ⟨T, C, k, q, rfl⟩ := h.exists_eq
      exact ⟨rfl, h.things, h.pending, rfl⟩
  | createThing other => exact absurd hr Bool.false_ne_true
  | listPrincipals thing => exact absurd hr Bool.false_ne_true
  | detachPrincipal thing principal => exact absurd hr Bool.false_ne_true
  | updateCertificate id status => exact absurd hr Bool.false_ne_true
  | deleteCertificate id => exact absurd hr Bool.false_ne_true
  | deleteThing thing => exact absurd hr Bool.false_ne_true
  | _ => exact h.perform_blind hr

theorem clearsUp_of_blind {r : Request} (h : Cloud.blind (.service r) = true) :
    clearsUp r.operation = false := by
  cases r <;> first | rfl | exact absurd h Bool.false_ne_true

theorem clearsUp_of_inStep {r : Request} (h : InStep name ids (.service r)) :
    clearsUp r.operation = false := by
  cases r <;> first | rfl | exact absurd h Bool.false_ne_true

theorem Alike.service_blind (h : Alike taken c c') {r : Request}
    (hr : Cloud.blind (.service r) = true) :
    SameAt taken r (Cloud.service r c) (Cloud.service r c') :=
  h.service (clearsUp_of_blind hr) ((h.noted _).perform_blind hr)

theorem Alike.service_createThing (h : Alike taken c c') (hname : name ∉ taken) :
    SameAt taken (.createThing name) (Cloud.service (.createThing name) c)
      (Cloud.service (.createThing name) c') :=
  h.service rfl ((h.noted _).perform_createThing hname)

theorem Cloud.Equips.noted (h : c.Equips name ids) (op : Operation) :
    (c.noted op).Equips name ids :=
  ⟨h.thing, h.certificates⟩

theorem Alike.service_inStep (h : Alike taken c c') (hname : name ∉ taken)
    (hc : c.Equips name ids) (hc' : c'.Equips name ids) {r : Request}
    (hr : InStep name ids (.service r)) :
    SameAt taken r (Cloud.service r c) (Cloud.service r c') :=
  h.service (clearsUp_of_inStep hr)
    ((h.noted _).perform_inStep hname (hc.noted _) (hc'.noted _) hr)

/-- No change to a thing takes away its full name. -/
theorem Cloud.Equips.onThing (h : c.Equips name ids) (operation thing : String)
    {f : Device → Device} (harn : ∀ dev, (f dev).arn = dev.arn) :
    (c.onThing operation thing f).2.Equips name ids := by
  rw [Cloud.onThing]
  split
  · rcases h.thing with ⟨dev, hdev, hfull⟩
    refine ⟨?_, h.certificates⟩
    by_cases heq : name = thing
    · exact ⟨f dev, by rw [Catalog.get?_modify, if_pos heq, hdev, Option.map_some],
        (harn dev).trans hfull⟩
    · exact ⟨dev, by rw [Catalog.get?_modify, if_neg heq, hdev], hfull⟩
  · exact h

/-- What a suite is equipped with stays there as long as nothing is cleared up. -/
theorem Cloud.Equips.perform (h : c.Equips name ids) {r : Request}
    (hop : clearsUp r.operation = false) : (Cloud.perform r c).2.Equips name ids := by
  cases r with
  | createThing other =>
      rw [Cloud.perform]
      split
      · exact h
      · rename_i hfree
        rcases h.thing with ⟨dev, hdev, hfull⟩
        have hne : name ≠ other := by
          rintro rfl
          exact hfree (by rw [Catalog.contains, hdev, Option.isSome_some])
        exact ⟨⟨dev, by rw [Catalog.get?_insert_of_ne _ _ hne, hdev], hfull⟩, h.certificates⟩
  | addThingToGroup group thing => exact h.onThing _ _ fun _ => rfl
  | attachPrincipal thing principal => exact h.onThing _ _ fun _ => rfl
  | updateShadow thing document => exact h.onThing _ _ fun _ => rfl
  | createCertificate =>
      refine ⟨h.thing, fun id hid => ?_⟩
      exact Catalog.contains_insert_of_contains _ _ (h.certificates id hid)
  | attachPolicy policy target =>
      rw [Cloud.perform, Cloud.onCertificate]
      split
      · refine ⟨h.thing, fun id hid => ?_⟩
        rw [Cloud.Stores, Catalog.contains_modify]
        exact h.certificates id hid
      · exact h
  | startSuiteRun suiteId arn =>
      rw [Cloud.perform]
      split
      · exact ⟨h.thing, h.certificates⟩
      · exact h
  | getSuiteRun job =>
      rw [Cloud.perform]
      split
      · exact ⟨h.thing, h.certificates⟩
      · exact ⟨h.thing, h.certificates⟩
      · split <;> exact h
  | getEndpoint arn => exact h
  | getLogEvents group stream => exact h
  | upload path bucket key => exact ⟨h.thing, h.certificates⟩
  | getSecret id =>
      rw [Cloud.perform]
      split <;> exact h
  | _ => exact absurd hop.symm Bool.false_ne_true

theorem Cloud.Equips.service (h : c.Equips name ids) {r : Request}
    (hop : clearsUp r.operation = false) : (Cloud.service r c).2.Equips name ids := by
  rw [Cloud.service_eq]
  split
  · exact h.noted _
  · exact (h.noted _).perform hop

theorem alike_noted (taken : List String) {op : Operation} (hop : clearsUp op = true)
    (c : Cloud) : Alike taken c (c.noted op) := by
  refine ⟨fun _ _ => rfl, fun other hother => ?_, rfl⟩
  have hne : other ≠ op := by
    rintro rfl
    exact absurd (hop.symm.trans hother) (by decide)
  exact if_neg hne

/-- Each step of a teardown changes its own thing or a certificate. -/
theorem Removal.alike (h : Removal name about c d) (hmem : name ∈ taken) : Alike taken c d := by
  have hother : ∀ other, other ∉ taken → other ≠ name := by
    rintro other hother rfl
    exact hother hmem
  cases h with
  | refused => exact Alike.refl taken c
  | detached principal =>
      refine (Alike.refl taken c).withThings fun other hnot => ?_
      rw [Catalog.get?_modify, if_neg (hother other hnot)]
  | marked id status => exact (Alike.refl taken c).withCertificates _ _
  | deleted hid => exact (Alike.refl taken c).withCertificates _ _
  | unregistered =>
      refine (Alike.refl taken c).withThings fun other hnot => ?_
      rw [Catalog.get?_erase_of_ne _ (hother other hnot)]

theorem alike_of_tearsDown {r : Request} (h : TearsDown name about (.service r))
    (hmem : name ∈ taken) (c : Cloud) : Alike taken c (Cloud.service r c).2 :=
  (alike_noted taken (clearsUp_of_tearsDown h) c).trans ((removal_of_tearsDown h c).alike hmem)

/-- A thing is registered under its full name. -/
theorem Cloud.equips_of_createThing {thing : Thing}
    (h : (Cloud.service (.createThing name) c).1 = .ok thing) :
    thing = ⟨name, thingArn name⟩ ∧
      (Cloud.service (.createThing name) c).2.Equips name [] := by
  rw [Cloud.service_eq] at h ⊢
  cases hqueue : (c.pending (Request.createThing name).operation).headD none with
  | some e =>
      rw [hqueue] at h
      exact absurd h (by simp)
  | none =>
      simp only [hqueue, Cloud.perform] at h ⊢
      split at h
      · exact absurd h (by simp)
      · rename_i hfree
        rw [if_neg hfree]
        refine ⟨(Except.ok.inj h).symm, ⟨_, Catalog.get?_insert_self _ _ _, rfl⟩, ?_⟩
        exact fun id hid => absurd hid List.not_mem_nil

/-- A certificate is in store under the name that its full name is cut down to. -/
theorem Cloud.stores_of_createCertificate {certificate : Certificate}
    (h : (Cloud.service .createCertificate c).1 = .ok certificate) :
    (Cloud.service .createCertificate c).2.Stores (storedUnder certificate.arn) := by
  rw [Cloud.service_eq] at h ⊢
  cases hqueue : (c.pending Request.createCertificate.operation).headD none with
  | some e =>
      rw [hqueue] at h
      exact absurd h (by simp)
  | none =>
      simp only [hqueue, Cloud.perform] at h ⊢
      rw [← Except.ok.inj h, storedUnder_eq]
      simp only [issue, Cloud.Stores]
      rw [certificateIdOfArn_certificateArn (slash_not_mem_certificateId _), Catalog.contains,
        Catalog.get?_insert_self, Option.isSome_some]

end Simulated

end Qualifier
