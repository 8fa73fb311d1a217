import Mathlib.Data.Finset.Card
import Qualifier.Identity.Teardown
import Qualifier.Proofs.Registry.Requests

/-!
# A Teardown Clears the Records

Nothing is queued for the requests a teardown makes, so each of them does its work,
but each also has its condition: a certificate has to be deactivated before it may
be deleted, and a thing has to be detached from its principals before that. The
lemmas here follow the teardown through these conditions, from any records: it takes
out the thing and the certificates that are attached to it, and nothing else. An
identity that was set up is so taken away again. On the way the certificates that were
there to be deleted are counted, each of them once.

## Main definitions

* `TearsDown`: What is asked for in a teardown.
* `Removal`: The steps that are taken in it.
* `storedAmong`: The certificates of some names that are in a store.
* `eraseAttached`: A store without the certificates that are attached to a thing.

## Theorems

* `only_retire`, `only_removeAttached`, `only_deprovision`: Nothing else is asked for.
* `removal_of_tearsDown`: No other steps are taken, whatever fails.
* `Holds.retire_counted`, `Holds.retire`: A certificate is retired without a trace.
* `Holds.removeAttached`: So are those of a thing, and the thing is deleted.
* `Holds.deprovision_counted`, `Holds.deprovision`: A thing is taken down with its
  certificates.
* `Holds.deprovision_bare`, `Holds.deprovision_attached`: An identity that was added
  is taken away again, without a certificate or with one.
-/

namespace Qualifier

open Program

/-- What is asked for in a teardown of a thing: its principals, and the removal of these,
    of the thing itself and of certificates with certain names. -/
def TearsDown (name : String) (about : String → Prop) : Ask → Prop
  | .service (.listPrincipals thing) => thing = name
  | .service (.detachPrincipal thing _) => thing = name
  | .service (.updateCertificate id _) => about id
  | .service (.deleteCertificate id) => about id
  | .service (.deleteThing thing) => thing = name
  | _ => False

theorem only_retire (name : String) {about : String → Prop} {id : String} (h : about id) :
    Only (TearsDown name about) (retire name id) := by
  refine only_question_bind h fun answer => ?_
  split
  · trivial
  · exact only_question_bind h fun _ => trivial

/-- The certificates it is about are those that the principals stand for. -/
theorem only_removeAttached (name : String) {about : String → Prop} (deleted : Nat)
    (principals : List String) (h : ∀ p ∈ principals, about (certificateIdOfArn p)) :
    Only (TearsDown name about) (removeAttached name deleted principals) := by
  induction principals generalizing deleted with
  | nil =>
      refine only_question_bind rfl fun answer => ?_
      split <;> trivial
  | cons principal rest ih =>
      refine only_question_bind rfl fun answer => ?_
      split
      · trivial
      · refine (only_retire name (h principal List.mem_cons_self)).bind fun retired => ?_
        split
        · trivial
        · exact ih _ fun p hp => h p (List.mem_cons_of_mem _ hp)

theorem only_deprovision (name : String) :
    Only (TearsDown name fun _ => True) (deprovision name) := by
  refine only_question_bind rfl fun answer => ?_
  split
  · split <;> trivial
  · exact only_removeAttached name 0 _ fun _ _ => trivial

namespace Simulated

/-- The steps of a teardown of a thing: a principal is detached from it, a certificate is
    marked or deleted, or the thing itself is deleted. -/
inductive Removal (name : String) (about : String → Prop) (c : Cloud) : Cloud → Prop
  | refused : Removal name about c c
  | detached (principal : String) : Removal name about c
      { c with things := c.things.modify name fun dev =>
          { dev with principals := dev.principals.filter (· ≠ principal) } }
  | marked (id : String) (status : CertificateStatus) : Removal name about c
      { c with certificates := c.certificates.modify id fun cert => { cert with status } }
  | deleted {id : String} (h : about id) : Removal name about c
      { c with certificates := c.certificates.erase id }
  | unregistered : Removal name about c { c with things := c.things.erase name }

theorem clearsUp_of_tearsDown {name : String} {about : String → Prop} {r : Request}
    (h : TearsDown name about (.service r)) : clearsUp r.operation = true := by
  cases r <;> first | rfl | exact h.elim

/-- After a request of a teardown was noted, one step is taken or none. -/
theorem removal_of_tearsDown {name : String} {about : String → Prop} {r : Request}
    (h : TearsDown name about (.service r)) (c : Cloud) :
    Removal name about (c.noted r.operation) (Cloud.service r c).2 := by
  rw [Cloud.service_eq]
  split
  · exact .refused
  · generalize c.noted r.operation = d
    cases r with
    | listPrincipals thing =>
        rw [Cloud.perform]
        split <;> exact .refused
    | detachPrincipal thing principal =>
        rw [show thing = name from h, Cloud.perform, Cloud.onThing]
        repeat' split
        all_goals first | exact .refused | exact .detached principal
    | updateCertificate id status =>
        rw [Cloud.perform, Cloud.onCertificate]
        split
        · exact .marked id status
        · exact .refused
    | deleteCertificate id =>
        rw [Cloud.perform]
        repeat' split
        all_goals first | exact .refused | exact .deleted h
    | deleteThing thing =>
        rw [show thing = name from h, Cloud.perform]
        repeat' split
        all_goals first | exact .refused | exact .unregistered
    | _ => exact h.elim

namespace Cloud

variable {c : Cloud} {T : Catalog String Device} {C : Catalog String StoredCertificate}
  {n : UInt32} {name id : String} {dev : Device} {cert : StoredCertificate}

/-- What passes tells whether there was anything to remove. -/
theorem Passes.absentOk_eq {answer : Except ServiceError Unit} (h : Passes answer) (step : Step)
    (thing : String) : absentOk step thing answer = .ok answer.isOk := by
  cases answer with
  | ok _ => rfl
  | error cause => exact if_pos (h cause rfl)

/-- A certificate that was deactivated is there to be deleted. -/
theorem inactive_of_modify (C : Catalog String StoredCertificate) (id : String) :
    ∀ cert, (C.modify id fun cert => { cert with status := .inactive }).get? id = some cert →
      cert.status = .inactive := by
  intro cert hcert
  rw [Catalog.get?_modify, if_pos rfl, Option.map_eq_some_iff] at hcert
  rcases hcert with ⟨_, _, rfl⟩
  rfl

/-- A certificate is retired without a trace, and whether it was there is told. -/
theorem Holds.retire_counted (h : c.Holds T C n) (thing id : String) :
    Ensures behaviour (Qualifier.retire thing id) c
      (Attempt (fun _ _ => False) fun wasThere d =>
        wasThere = C.contains id ∧ d.Holds T (C.erase id) n) := by
  refine (h.updateCertificate id .inactive).bind fun updated d hd => ?_
  simp only [hd.1.absentOk_eq]
  have hinactive := inactive_of_modify C id
  refine ((hd.2.deleteCertificate hinactive).and (hd.2.deleteCertificate_isOk hinactive)).bind
    fun deleted d hd => ?_
  rw [Catalog.erase_modify, Catalog.contains_modify] at hd
  simp only [hd.1.1.absentOk_eq]
  exact ⟨hd.2, hd.1.2⟩

/-- Whether or not it was there, nothing of it is left. -/
theorem Holds.retire (h : c.Holds T C n) (thing id : String) :
    Ensures behaviour (Qualifier.retire thing id) c
      (Attempt (fun _ _ => False) fun _ d => d.Holds T (C.erase id) n) := by
  refine (h.retire_counted thing id).mono fun outcome d hd => ?_
  cases outcome with
  | error e => exact hd
  | ok _ => exact hd.2

/-- The names among some that certificates in a store have. -/
def storedAmong (C : Catalog String StoredCertificate) (ids : List String) : Finset String :=
  ids.toFinset.filter fun id => C.contains id = true

/-- A certificate that is taken out is not counted again under the names that follow. -/
theorem card_storedAmong_cons (C : Catalog String StoredCertificate) (id : String)
    (ids : List String) : (storedAmong C (id :: ids)).card =
      (C.contains id).toNat + (storedAmong (C.erase id) ids).card := by
  have hout : id ∉ storedAmong (C.erase id) ids := by
    simp [storedAmong, Catalog.contains_erase_iff]
  have hmem : ∀ other, other ∈ storedAmong (C.erase id) ids ↔
      other ∈ ids ∧ other ≠ id ∧ C.contains other = true := by
    intro other
    simp only [storedAmong, Finset.mem_filter, List.mem_toFinset, Catalog.contains_erase_iff]
  cases hthere : C.contains id with
  | true =>
      have hwith : storedAmong C (id :: ids) = insert id (storedAmong (C.erase id) ids) := by
        ext other
        rw [Finset.mem_insert, hmem]
        by_cases heq : other = id <;> simp [storedAmong, heq, hthere]
      rw [hwith, Finset.card_insert_of_notMem hout, Bool.toNat_true, Nat.add_comm]
  | false =>
      have hwithout : storedAmong C (id :: ids) = storedAmong (C.erase id) ids := by
        ext other
        rw [hmem]
        by_cases heq : other = id <;> simp [storedAmong, heq, hthere]
      rw [hwithout, Bool.toNat_false, Nat.zero_add]

/-- The certificates that some principals stand for are taken out of the store. -/
def eraseAttached (C : Catalog String StoredCertificate) (principals : List String) :
    Catalog String StoredCertificate :=
  principals.foldl (fun C principal => C.erase (certificateIdOfArn principal)) C

/-- A teardown goes through all principals that are listed, and by the end there is none
    left that could keep the thing. Each certificate is counted when it is deleted, and
    that happens once. -/
theorem Holds.removeAttached (rest : List String) (deleted : Nat) (h : c.Holds T C n)
    (hlisted : ∀ dev, T.get? name = some dev → ∀ p ∈ dev.principals, p ∈ rest) :
    Ensures behaviour (removeAttached name deleted rest) c
      (Attempt (fun _ _ => False) fun removed d =>
        removed = ⟨deleted + (storedAmong C (rest.map certificateIdOfArn)).card,
          T.contains name⟩ ∧
        d.Holds (T.erase name) (eraseAttached C rest) n) := by
  induction rest generalizing c T C deleted with
  | nil =>
      have hbare : ∀ dev, T.get? name = some dev → dev.principals = [] := fun dev hthing =>
        List.eq_nil_iff_forall_not_mem.mpr fun p hp => List.not_mem_nil (hlisted dev hthing p hp)
      refine ((h.deleteThing hbare).and (h.deleteThing_isOk hbare)).bind fun removed d hd => ?_
      simp only [hd.1.1.absentOk_eq]
      exact ⟨by rw [hd.2]; rfl, hd.1.2⟩
  | cons principal rest ih =>
      refine (h.detachPrincipal name principal).bind fun detached d hd => ?_
      rcases hd with ⟨hpasses, T', hd, herase, hthing'⟩
      simp only [hpasses.absentOk_eq]
      refine (hd.retire_counted name _).attempt (fun _ _ hno => hno.elim) fun wasThere d hd => ?_
      rcases hd with ⟨rfl, hd⟩
      have hcontains : T'.contains name = T.contains name := by
        rw [Catalog.contains, hthing', Option.isSome_map, Catalog.contains]
      have hcount : (if C.contains (certificateIdOfArn principal) then deleted + 1 else deleted) +
          (storedAmong (C.erase (certificateIdOfArn principal))
            (rest.map certificateIdOfArn)).card =
          deleted + (storedAmong C ((principal :: rest).map certificateIdOfArn)).card := by
        rw [List.map_cons, card_storedAmong_cons, ← Nat.add_assoc]
        cases C.contains (certificateIdOfArn principal) <;> rfl
      rw [← herase, ← hcontains, ← hcount]
      -- The principal is off the thing now, so what is left of them is in the rest.
      refine ih _ hd fun dev' hdev' p hp => ?_
      rw [hthing', Option.map_eq_some_iff] at hdev'
      rcases hdev' with ⟨dev, hdev, rfl⟩
      rcases List.mem_filter.mp hp with ⟨hmem, hne⟩
      rcases List.mem_cons.mp (hlisted dev hdev p hmem) with heq | hrest
      · exact absurd heq (of_decide_eq_true hne)
      · exact hrest

/-- A thing is taken down together with the certificates that are attached to it, and
    these are counted. -/
theorem Holds.deprovision_counted (h : c.Holds T C n) (hthing : T.get? name = some dev) :
    Ensures behaviour (Qualifier.deprovision name) c
      (Attempt (fun _ _ => False) fun removed d =>
        removed = ⟨(storedAmong C (dev.principals.map certificateIdOfArn)).card, true⟩ ∧
        d.Holds (T.erase name) (eraseAttached C dev.principals) n) := by
  refine (h.listPrincipals hthing).attempt (fun _ _ hno => hno.elim) ?_
  rintro _ d ⟨rfl, hd⟩
  have hthere : T.contains name = true := by rw [Catalog.contains, hthing, Option.isSome_some]
  rw [← hthere, ← Nat.zero_add (storedAmong _ _).card]
  refine hd.removeAttached _ 0 fun dev' hdev' p hp => ?_
  rw [hthing, Option.some.injEq] at hdev'
  rwa [hdev']

/-- However many they are, they are taken out. -/
theorem Holds.deprovision (h : c.Holds T C n) (hthing : T.get? name = some dev) :
    Ensures behaviour (Qualifier.deprovision name) c
      (Attempt (fun _ _ => False) fun _ d =>
        d.Holds (T.erase name) (eraseAttached C dev.principals) n) := by
  refine (h.deprovision_counted hthing).mono fun outcome d hd => ?_
  cases outcome with
  | error e => exact hd
  | ok _ => exact hd.2

/-- To take down a thing that is not there is to do nothing. -/
theorem Holds.deprovision_absent (h : c.Holds T C n) (hfree : T.get? name = none) :
    Ensures behaviour (Qualifier.deprovision name) c
      (Attempt (fun _ _ => False) fun removed d => removed = ⟨0, false⟩ ∧ d.Holds T C n) := by
  have hlist : Ensures behaviour (request (.listPrincipals name)) c fun answer d =>
      answer = .error (absent "list-thing-principals" name) ∧ d.Holds T C n := by
    refine h.ensures_of_clearsUp rfl fun d hd => ?_
    rw [perform, hd.things, hfree]
    exact ⟨rfl, hd⟩
  refine hlist.bind ?_
  rintro _ d ⟨rfl, hd⟩
  exact ⟨rfl, hd⟩

/-- A thing that was added with nothing attached to it is taken away again. -/
theorem Holds.deprovision_bare (h : c.Holds (T.add name dev) C n)
    (hfree : T.get? name = none) (hbare : dev.principals = []) :
    Ensures behaviour (Qualifier.deprovision name) c fun _ d => d.Holds T C n := by
  refine (h.deprovision (Catalog.get?_add_self T name dev)).mono fun outcome d hd => ?_
  rw [Catalog.erase_add hfree, hbare] at hd
  cases outcome with
  | error e => exact hd.elim
  | ok _ => exact hd

/-- A thing that was added with a certificate is taken away again together with it. -/
theorem Holds.deprovision_attached (h : c.Holds (T.add name dev) (C.add id cert) n)
    (hfree : T.get? name = none) (hcert : C.get? id = none) (hid : '/' ∉ id.toList)
    (hattached : dev.principals = [certificateArn id]) :
    Ensures behaviour (Qualifier.deprovision name) c fun _ d => d.Holds T C n := by
  refine (h.deprovision (Catalog.get?_add_self T name dev)).mono fun outcome d hd => ?_
  -- The teardown finds the certificate by cutting its name out of the principal.
  have hgone : eraseAttached (C.add id cert) dev.principals = C := by
    rw [hattached, eraseAttached, List.foldl_cons, List.foldl_nil,
      certificateIdOfArn_certificateArn hid, Catalog.erase_add hcert]
  rw [Catalog.erase_add hfree, hgone] at hd
  cases outcome with
  | error e => exact hd.elim
  | ok _ => exact hd

end Cloud

end Simulated

end Qualifier
