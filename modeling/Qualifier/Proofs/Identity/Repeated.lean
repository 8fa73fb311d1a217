import Qualifier.Outside.Bench
import Qualifier.Proofs.Identity.Teardown

/-!
# A Teardown That Is Repeated

What comes of a teardown that is called again and again, however often it fails. A call
finds the certificates by the principals that are still on the thing. It detaches each
principal before it deals with the certificate, so a failure between the two leaves a
certificate that no later call can find: the call has stranded it.

A single call, wherever it ends, only ever takes away (`Dwindled`), and it does not
touch a certificate that was not on the thing when it began. Hence what is stranded
stays stranded, and what is not can still be found. The first call in which nothing is
in the way takes the thing down with all that is on it. So a certificate survives if and
only if one of the failed calls stranded it, and for that something must have been in
the way of deactivating or of deleting it.

## Main definitions

* `Cloud.attachedIds`: The certificates that are on a thing.
* `Dwindled`: What a teardown leaves, wherever it ends.
* `Strands`: A certificate is taken off a thing, and not out of the store.
* `afterTeardowns`: A world after a number of calls.

## Theorems

* `dwindled_deprovision`: A teardown only takes away what is on its thing.
* `cleared_deprovision`: A teardown with nothing in its way takes all of that away.
* `not_strands_of_unhindered`: What a call must run into to strand a certificate.
* `stranded_iff`: What some calls have stranded.
* `deprovision_repeated`: What is left after the last call.
-/

namespace Qualifier

open Program

namespace Simulated

/-- The names of the certificates that the principals of a thing stand for. -/
def Cloud.attachedIds (c : Cloud) (name : String) : List String :=
  match c.things.get? name with
  | none => []
  | some dev => dev.principals.map certificateIdOfArn

/-- What a teardown of a thing leaves, wherever it ends: nothing that was not there
    before, and all certificates but those it was about. -/
structure Dwindled (name : String) (about : String → Prop) (c d : Cloud) : Prop where
  attached : ∀ id ∈ d.attachedIds name, id ∈ c.attachedIds name
  stored : ∀ id, d.Stores id → c.Stores id
  spared : ∀ id, ¬ about id → c.Stores id → d.Stores id

/-- A certificate was on a thing and in store; it was taken off, and is in store. -/
def Strands (name id : String) (c d : Cloud) : Prop :=
  (id ∈ c.attachedIds name ∧ c.Stores id) ∧ (id ∉ d.attachedIds name ∧ d.Stores id)

variable {c d e : Cloud} {name id : String} {about : String → Prop} {dev : Device}
  {T : Catalog String Device} {C : Catalog String StoredCertificate} {n : UInt32}

theorem Dwindled.refl (name : String) (about : String → Prop) (c : Cloud) :
    Dwindled name about c c :=
  ⟨fun _ h => h, fun _ h => h, fun _ _ h => h⟩

theorem Dwindled.trans (h : Dwindled name about c d) (h' : Dwindled name about d e) :
    Dwindled name about c e where
  attached id hid := h.attached id (h'.attached id hid)
  stored id hid := h.stored id (h'.stored id hid)
  spared id hnot hid := h'.spared id hnot (h.spared id hnot hid)

theorem Cloud.mem_attachedIds : id ∈ c.attachedIds name ↔
    ∃ dev, c.things.get? name = some dev ∧ ∃ p ∈ dev.principals, certificateIdOfArn p = id := by
  unfold attachedIds
  cases c.things.get? name with
  | none => simp
  | some dev => simp

/-- Each step of a teardown takes away at most the thing and the certificates it is
    about. -/
theorem Removal.dwindled (h : Removal name about c d) : Dwindled name about c d := by
  cases h with
  | refused => exact Dwindled.refl name about c
  | detached principal =>
      refine ⟨fun id hid => ?_, fun _ h => h, fun _ _ h => h⟩
      rcases Cloud.mem_attachedIds.mp hid with ⟨dev', hdev', p, hp, rfl⟩
      simp only [Catalog.get?_modify, if_true, Option.map_eq_some_iff] at hdev'
      rcases hdev' with ⟨dev, hdev, rfl⟩
      exact Cloud.mem_attachedIds.mpr ⟨dev, hdev, p, (List.mem_filter.mp hp).1, rfl⟩
  | marked id status =>
      refine ⟨fun _ h => h, fun other hother => ?_, fun other _ hother => ?_⟩
      · simpa only [Cloud.Stores, Catalog.contains_modify] using hother
      · simpa only [Cloud.Stores, Catalog.contains_modify] using hother
  | deleted hid =>
      refine ⟨fun _ h => h, fun other hother => ?_, fun other hnot hother => ?_⟩
      · exact ((Catalog.contains_erase_iff _ _ _).mp hother).2
      · exact (Catalog.contains_erase_iff _ _ _).mpr ⟨fun heq => hnot (heq ▸ hid), hother⟩
  | unregistered =>
      refine ⟨fun id hid => ?_, fun _ h => h, fun _ _ h => h⟩
      rcases Cloud.mem_attachedIds.mp hid with ⟨dev, hdev, -⟩
      simp only [Catalog.get?_erase_self] at hdev
      exact absurd hdev (by simp)

theorem dwindled_service {r : Request} (h : TearsDown name about (.service r)) (c : Cloud) :
    Dwindled name about c (Cloud.service r c).2 := by
  have hnoted : Dwindled name about c (c.noted r.operation) :=
    ⟨fun _ h => h, fun _ h => h, fun _ _ h => h⟩
  exact hnoted.trans (removal_of_tearsDown h c).dwindled

theorem dwindled_of_only {α : Type} {p : Program α} (hp : Only (TearsDown name about) p)
    (c : Cloud) : Ensures Cloud.behaviour p c fun _ d => Dwindled name about c d := by
  refine ensures_of_only ?_ hp (Dwindled.refl name about c)
  intro q hq s hs
  cases q with
  | service r => exact (Cloud.ensures_request r s _).mpr (hs.trans (dwindled_service hq s))
  | _ => exact hq.elim

/-- A teardown takes away at most the thing and the certificates that were on it when
    the teardown began. -/
theorem dwindled_deprovision (name : String) (c : Cloud) :
    Ensures Cloud.behaviour (deprovision name) c fun _ d =>
      Dwindled name (fun id => id ∈ c.attachedIds name) c d := by
  -- The certificates it is about are known from the first answer on.
  have hlist : Ensures Cloud.behaviour (request (.listPrincipals name)) c fun answer d =>
      Dwindled name (fun id => id ∈ c.attachedIds name) c d ∧
        ∀ principals, answer = .ok principals →
          ∀ p ∈ principals, certificateIdOfArn p ∈ c.attachedIds name := by
    have hasks : TearsDown name (fun id => id ∈ c.attachedIds name)
        (.service (.listPrincipals name)) := rfl
    refine (Cloud.ensures_request _ c _).mpr ⟨dwindled_service hasks c, ?_⟩
    intro principals hanswer p hp
    rw [Cloud.service_eq] at hanswer
    split at hanswer
    · exact absurd hanswer (by simp)
    · rw [Cloud.perform] at hanswer
      split at hanswer
      · rename_i dev hdev
        refine Cloud.mem_attachedIds.mpr ⟨dev, hdev, p, ?_, rfl⟩
        rw [Except.ok.inj hanswer]
        exact hp
      · exact absurd hanswer (by simp)
  refine hlist.bind fun answer d hd => ?_
  cases answer with
  | error cause =>
      simp only
      split <;> exact hd.1
  | ok principals =>
      have honly := only_removeAttached name 0 principals (hd.2 principals rfl)
      exact (dwindled_of_only honly d).mono fun _ e he => hd.1.trans he

theorem contains_eraseAttached (C : Catalog String StoredCertificate) (principals : List String)
    (id : String) : (Cloud.eraseAttached C principals).contains id = true ↔
      id ∉ principals.map certificateIdOfArn ∧ C.contains id = true := by
  induction principals generalizing C with
  | nil => simp [Cloud.eraseAttached]
  | cons principal rest ih =>
      have hrest := ih (C.erase (certificateIdOfArn principal))
      rw [Catalog.contains_erase_iff] at hrest
      rw [Cloud.eraseAttached, List.foldl_cons, List.map_cons, List.mem_cons, not_or]
      rw [and_left_comm, ← and_assoc] at hrest
      exact hrest

/-- A teardown with nothing in its way does not fail. The thing is gone, and of the
    certificates those that were on it. -/
theorem cleared_deprovision (hclears : c.ClearsFreely) (name : String) :
    Ensures Cloud.behaviour (deprovision name) c
      (Attempt (fun _ _ => False) fun _ d => d.things.contains name = false ∧
        ∀ id, d.Stores id ↔ id ∉ c.attachedIds name ∧ c.Stores id) := by
  have hholds : c.Holds c.things c.certificates c.issued := ⟨rfl, rfl, rfl, hclears⟩
  cases hthing : c.things.get? name with
  | none =>
      refine (hholds.deprovision_absent hthing).mono fun outcome d hd => ?_
      cases outcome with
      | error e => exact hd
      | ok _ =>
          refine ⟨?_, fun id => ?_⟩
          · rw [hd.2.things, Catalog.contains, hthing, Option.isSome_none]
          · rw [Cloud.Stores, hd.2.certificates, Cloud.attachedIds, hthing]
            exact ⟨fun h => ⟨List.not_mem_nil, h⟩, fun h => h.2⟩
  | some dev =>
      refine (hholds.deprovision hthing).mono fun outcome d hd => ?_
      cases outcome with
      | error e => exact hd
      | ok _ =>
          refine ⟨?_, fun id => ?_⟩
          · rw [hd.things, Catalog.contains, Catalog.get?_erase_self, Option.isSome_none]
          · rw [Cloud.Stores, hd.certificates, contains_eraseAttached, Cloud.attachedIds, hthing]
            rfl

/-- What is not in the way of a program at first is not in its way later. -/
theorem unhindered_of_program {α : Type} {op : Operation} (h : c.Unhindered op)
    (p : Program α) : Ensures Cloud.behaviour p c fun _ d => d.Unhindered op := by
  have honly : Only (fun _ => True) p := by
    induction p with
    | done a => trivial
    | ask q next ih => exact ⟨trivial, ih⟩
  refine ensures_of_only (fun q _ s hs => ?_) honly h
  cases q with
  | service r => exact (Cloud.ensures_request r s _).mpr (hs.service r)
  | _ =>
      rintro answer d rfl
      exact hs

/-- A certificate is retired unless one of the two calls for it is stopped. -/
theorem retired_of_unhindered (hupdate : c.Unhindered .updateCertificate)
    (hdelete : c.Unhindered .deleteCertificate) (thing id : String) :
    Ensures Cloud.behaviour (retire thing id) c
      (Attempt (fun _ _ => False) fun _ d =>
        d.things = c.things ∧ d.certificates = c.certificates.erase id) := by
  have hfirst : Ensures Cloud.behaviour (request (.updateCertificate id .inactive)) c
      fun answer d => Cloud.Passes answer ∧ d.things = c.things ∧ d.certificates =
        c.certificates.modify id fun cert => { cert with status := .inactive } := by
    rw [Cloud.ensures_request, Cloud.service_of_unhindered hupdate]
    rcases Cloud.perform_updateCertificate id .inactive (c.noted .updateCertificate) with
      ⟨hpasses, hdone⟩
    refine ⟨hpasses, ?_⟩
    rw [show Request.operation (.updateCertificate id .inactive) = .updateCertificate from rfl,
      hdone]
    exact ⟨rfl, rfl⟩
  refine (hfirst.and (unhindered_of_program hdelete _)).bind ?_
  rintro updated d ⟨⟨hpasses, hthings, hcerts⟩, hd⟩
  simp only [hpasses.absentOk_eq]
  have hinactive : ∀ cert, (d.noted .deleteCertificate).certificates.get? id = some cert →
      cert.status = .inactive := by
    intro cert hcert
    exact Cloud.inactive_of_modify c.certificates id cert (hcerts ▸ hcert)
  have hsecond : Ensures Cloud.behaviour (request (.deleteCertificate id)) d
      fun answer e => Cloud.Passes answer ∧ e.things = c.things ∧
        e.certificates = c.certificates.erase id := by
    rw [Cloud.ensures_request, Cloud.service_of_unhindered hd]
    rcases Cloud.perform_deleteCertificate hinactive with ⟨hpasses, hdone⟩
    refine ⟨hpasses, ?_⟩
    rw [show Request.operation (.deleteCertificate id) = .deleteCertificate from rfl, hdone]
    refine ⟨hthings, (congrArg (fun C => Catalog.erase C id) hcerts).trans ?_⟩
    exact Catalog.erase_modify _ _ _
  refine hsecond.bind fun deleted e he => ?_
  simp only [he.1.absentOk_eq]
  exact he.2

/-- Detaching a principal brings at most its own certificate off the thing, and if so it
    was not refused. -/
theorem detached_perform (hon : c.Stores id → id ∈ c.attachedIds name) (principal : String) :
    let done := Cloud.perform (.detachPrincipal name principal) c
    (done.2.Stores id → id ∈ done.2.attachedIds name) ∨
      (Cloud.Passes done.1 ∧ certificateIdOfArn principal = id) := by
  simp only [Cloud.perform]
  cases hdev : c.things.get? name with
  | none => exact Or.inl hon
  | some dev =>
      simp only
      by_cases hmem : principal ∈ dev.principals
      · have hthere : c.things.contains name = true := by
          rw [Catalog.contains, hdev, Option.isSome_some]
        rw [if_pos hmem, Cloud.onThing, if_pos hthere]
        by_cases heq : certificateIdOfArn principal = id
        · exact Or.inr ⟨Cloud.passes_ok, heq⟩
        · refine Or.inl fun hstored => ?_
          rcases Cloud.mem_attachedIds.mp (hon hstored) with ⟨dev', hdev', p, hp, hid⟩
          have hne : p ≠ principal := fun hsame => heq (hsame ▸ hid)
          have hleft : p ∈ dev'.principals.filter (· ≠ principal) :=
            List.mem_filter.mpr ⟨hp, decide_eq_true hne⟩
          refine Cloud.mem_attachedIds.mpr ⟨{ dev' with principals := _ }, ?_, p, hleft, hid⟩
          rw [Catalog.get?_modify, if_pos rfl, hdev', Option.map_some]
      · rw [if_neg hmem]
        exact Or.inl hon

/-- A thing is deleted only with nothing on it, so no certificate comes off it. -/
theorem deleted_perform (hon : c.Stores id → id ∈ c.attachedIds name) :
    let done := Cloud.perform (.deleteThing name) c
    done.2.Stores id → id ∈ done.2.attachedIds name := by
  simp only [Cloud.perform]
  cases hdev : c.things.get? name with
  | none => exact hon
  | some dev =>
      simp only
      by_cases hbare : dev.principals = []
      · rw [if_pos hbare]
        intro hstored
        rcases Cloud.mem_attachedIds.mp (hon hstored) with ⟨dev', hdev', p, hp, -⟩
        rw [Option.some.inj (hdev'.symm.trans hdev), hbare] at hp
        exact absurd hp List.not_mem_nil
      · rw [if_neg hbare]
        exact hon

/-- As long as nothing is in the way of the two calls that retire a certificate, one that
    is off the thing is out of the store. -/
theorem attached_of_unhindered (hupdate : c.Unhindered .updateCertificate)
    (hdelete : c.Unhindered .deleteCertificate) (hon : c.Stores id → id ∈ c.attachedIds name)
    (deleted : Nat) (principals : List String) :
    Ensures Cloud.behaviour (removeAttached name deleted principals) c fun _ d =>
      d.Stores id → id ∈ d.attachedIds name := by
  induction principals generalizing c deleted with
  | nil =>
      have hlast : Ensures Cloud.behaviour (request (.deleteThing name)) c fun _ d =>
          d.Stores id → id ∈ d.attachedIds name :=
        Cloud.ensures_of_perform (fun _ => hon)
          (deleted_perform (show (c.noted _).Stores id → _ from hon))
      refine hlast.bind fun answer d hd => ?_
      split <;> exact hd
  | cons principal rest ih =>
      have hdetach : Ensures Cloud.behaviour (request (.detachPrincipal name principal)) c
          fun answer d => (d.Stores id → id ∈ d.attachedIds name) ∨
            (Cloud.Passes answer ∧ certificateIdOfArn principal = id) :=
        Cloud.ensures_of_perform (fun _ => Or.inl hon)
          (detached_perform (show (c.noted _).Stores id → _ from hon) principal)
      refine (hdetach.and ((unhindered_of_program hupdate _).and
        (unhindered_of_program hdelete _))).bind ?_
      rintro detached d ⟨hd, hdupdate, hddelete⟩
      cases habsent : absentOk .detachPrincipal name detached with
      | error e =>
          rcases hd with hd | ⟨hpasses, -⟩
          · exact hd
          · exact absurd (habsent.symm.trans (hpasses.absentOk_eq .detachPrincipal name)) (by simp)
      | ok _ =>
          have hretire := (retired_of_unhindered hdupdate hddelete name
            (certificateIdOfArn principal)).and ((unhindered_of_program hdupdate _).and
              (unhindered_of_program hddelete _))
          refine hretire.bind ?_
          rintro retired e ⟨hretired, heupdate, hedelete⟩
          cases retired with
          | error cause => exact hretired.elim
          | ok wasThere =>
              refine ih heupdate hedelete (fun hstored => ?_) _
              rw [Cloud.Stores, hretired.2, Catalog.contains_erase_iff] at hstored
              rw [Cloud.attachedIds, hretired.1]
              rcases hd with hd | ⟨-, heq⟩
              · exact hd hstored.2
              · exact absurd heq.symm hstored.1

/-- A call strands a certificate only if a failure is queued for one of the two calls
    that retire one. -/
theorem not_strands_of_unhindered (hupdate : c.Unhindered .updateCertificate)
    (hdelete : c.Unhindered .deleteCertificate) (name id : String) :
    Ensures Cloud.behaviour (deprovision name) c fun _ d => ¬ Strands name id c d := by
  by_cases hmem : id ∈ c.attachedIds name
  · have hlist : Ensures Cloud.behaviour (request (.listPrincipals name)) c fun _ d =>
        d.Stores id → id ∈ d.attachedIds name := by
      refine Cloud.ensures_of_perform (fun _ _ => hmem) ?_
      rw [Cloud.perform]
      split <;> exact fun _ => hmem
    have hkept : Ensures Cloud.behaviour (deprovision name) c fun _ d =>
        d.Stores id → id ∈ d.attachedIds name := by
      refine (hlist.and ((unhindered_of_program hupdate _).and
        (unhindered_of_program hdelete _))).bind ?_
      rintro answer d ⟨hd, hdupdate, hddelete⟩
      cases answer with
      | error cause =>
          simp only
          split <;> exact hd
      | ok principals => exact attached_of_unhindered hdupdate hddelete hd 0 principals
    exact hkept.mono fun _ d hd hstrands => hstrands.2.1 (hd hstrands.2.2)
  · exact (dwindled_deprovision name c).mono fun _ d _ hstrands => hmem hstrands.1.1

end Simulated

open Simulated

/-- A world after a number of calls for the teardown of a thing, however each of them
    ended. -/
def afterTeardowns {τ : Type} (w : World τ) (name : String) (start : τ) : Nat → τ
  | 0 => start
  | n + 1 => ((deprovision name).run w (afterTeardowns w name start n)).2

section Repeated

variable {τ : Type} {w : World τ} {cloud : τ → Cloud} (hcloud : w.Admits cloud Cloud.behaviour)
  (name : String) (start : τ)

include hcloud

theorem dwindled_afterTeardowns (n : Nat) :
    Dwindled name (fun id => id ∈ (cloud (afterTeardowns w name start n)).attachedIds name)
      (cloud (afterTeardowns w name start n)) (cloud (afterTeardowns w name start (n + 1))) :=
  run_of_ensures hcloud (dwindled_deprovision name _)

/-- After some calls, a certificate that was on the thing at first is off it and still in
    store if and only if one of the calls stranded it. -/
theorem stranded_iff {id : String} (hfirst : id ∈ (cloud start).attachedIds name) (n : Nat) :
    (id ∉ (cloud (afterTeardowns w name start n)).attachedIds name ∧
        (cloud (afterTeardowns w name start n)).Stores id) ↔
      ∃ i < n, Strands name id (cloud (afterTeardowns w name start i))
        (cloud (afterTeardowns w name start (i + 1))) := by
  induction n with
  | zero =>
      constructor
      · rintro ⟨hoff, -⟩
        exact absurd hfirst hoff
      · rintro ⟨i, hi, -⟩
        exact absurd hi (Nat.not_lt_zero i)
  | succ n ih =>
      have hcall := dwindled_afterTeardowns hcloud name start n
      constructor
      · rintro ⟨hoff, hstored⟩
        by_cases hon : id ∈ (cloud (afterTeardowns w name start n)).attachedIds name
        · exact ⟨n, Nat.lt_succ_self n, ⟨hon, hcall.stored id hstored⟩, hoff, hstored⟩
        · rcases ih.mp ⟨hon, hcall.stored id hstored⟩ with ⟨i, hi, hstrands⟩
          exact ⟨i, Nat.lt_succ_of_lt hi, hstrands⟩
      · rintro ⟨i, hi, hstrands⟩
        rcases Nat.lt_succ_iff_lt_or_eq.mp hi with hi | rfl
        · -- It was stranded before, and this call is not about it.
          rcases ih.mpr ⟨i, hi, hstrands⟩ with ⟨hoff, hstored⟩
          exact ⟨fun hon => hoff (hcall.attached id hon), hcall.spared id hoff hstored⟩
        · exact hstrands.2

end Repeated

/-- After any number of calls, a call in which nothing is in the way succeeds, and the
    thing is gone. Of the certificates that were on it at first, those are still in store
    that one of the calls before has stranded, and for this a failure must have been queued
    for one of the two calls that retire a certificate. -/
theorem deprovision_repeated {τ : Type} (w : World τ) (cloud : τ → Cloud)
    (hcloud : w.Admits cloud Cloud.behaviour) (name : String) (start : τ) (n : Nat)
    (hclears : (cloud (afterTeardowns w name start n)).ClearsFreely) :
    let last := (deprovision name).run w (afterTeardowns w name start n)
    last.1.isOk = true ∧ (cloud last.2).things.contains name = false ∧
      (∀ id ∈ (cloud start).attachedIds name, (cloud last.2).Stores id ↔
        ∃ i < n, Strands name id (cloud (afterTeardowns w name start i))
          (cloud (afterTeardowns w name start (i + 1)))) ∧
      ∀ i id, (cloud (afterTeardowns w name start i)).Unhindered .updateCertificate →
        (cloud (afterTeardowns w name start i)).Unhindered .deleteCertificate →
        ¬ Strands name id (cloud (afterTeardowns w name start i))
          (cloud (afterTeardowns w name start (i + 1))) := by
  intro last
  have hlast := run_of_ensures hcloud (cleared_deprovision hclears name)
  rcases hresult : last.1 with e | removed
  · rw [show ((deprovision name).run w (afterTeardowns w name start n)).1 = _ from hresult] at hlast
    exact hlast.elim
  · rw [show ((deprovision name).run w (afterTeardowns w name start n)).1 = _ from hresult] at hlast
    refine ⟨rfl, hlast.1, fun id hid => ?_, fun i id hupdate hdelete => ?_⟩
    · exact (hlast.2 id).trans (stranded_iff hcloud name start hid n)
    · exact run_of_ensures hcloud (not_strands_of_unhindered hupdate hdelete name id)

/-- A test bench with a thing and its certificate, on which one operation fails once. -/
def falteringBench (op : Operation) : Bench Cloud where
  service := (Cloud.new.seedThing "device" ["c1"]).failNext op (.transient "deprovision" "busy")
  files := ⟨.empty, []⟩
  companions := ⟨[], []⟩
  clock := ⟨[], []⟩
  names := []

/-- A failure is used up by the call that runs into it. -/
theorem falteringBench_clears {op : Operation} (hop : op = .deleteThing ∨ op = .updateCertificate) :
    (afterTeardowns (Bench.world Cloud.service) "device" (falteringBench op)
      1).service.ClearsFreely := by
  have hempty : ∀ other ∈ [Operation.listPrincipals, .detachPrincipal, .updateCertificate,
      .deleteCertificate, .deleteThing], (afterTeardowns (Bench.world Cloud.service) "device"
        (falteringBench op) 1).service.pending other = [] := by
    rcases hop with rfl | rfl <;> decide +kernel
  intro other hother entry hentry
  cases other with
  | listPrincipals | detachPrincipal | updateCertificate | deleteCertificate | deleteThing =>
      rw [hempty _ (by decide)] at hentry
      exact absurd hentry List.not_mem_nil
  | _ => exact absurd hother (by decide)

/-- A first call that fails at the very end strands nothing. -/
theorem deprovision_repeated_at_end :
    let after := afterTeardowns (Bench.world Cloud.service) "device" (falteringBench .deleteThing)
    let last := (deprovision "device").run (Bench.world Cloud.service) (after 1)
    (after 1).service.things.contains "device" = true ∧ last.1.isOk = true ∧
      last.2.service.things.contains "device" = false ∧ ¬ last.2.service.Stores "c1" := by
  intro after last
  rcases deprovision_repeated (Bench.world Cloud.service) Bench.service admits_service "device"
    (falteringBench .deleteThing) 1 (falteringBench_clears (Or.inl rfl)) with
    ⟨hok, hgone, hstored, hnot⟩
  refine ⟨by decide +kernel, hok, hgone, fun hleft => ?_⟩
  rcases (hstored "c1" (by decide +kernel)).mp hleft with ⟨i, hi, hstrands⟩
  obtain rfl : i = 0 := by omega
  have hfree : ∀ op, op ≠ .deleteThing → (falteringBench .deleteThing).service.Unhindered op := by
    intro op hop entry hentry
    simp only [falteringBench, Cloud.failNext, Cloud.queue, if_neg hop] at hentry
    exact absurd hentry List.not_mem_nil
  exact hnot 0 "c1" (hfree _ (by decide)) (hfree _ (by decide)) hstrands

/-- A first call that fails between detaching the certificate and deactivating it strands
    it: when nothing is in the way any more, the thing is gone and the certificate is
    not. -/
theorem deprovision_repeated_in_between :
    let after := afterTeardowns (Bench.world Cloud.service) "device"
      (falteringBench .updateCertificate)
    let last := (deprovision "device").run (Bench.world Cloud.service) (after 1)
    "c1" ∈ (falteringBench .updateCertificate).service.attachedIds "device" ∧
      (after 1).service.ClearsFreely ∧ last.1.isOk = true ∧
      last.2.service.things.contains "device" = false ∧ last.2.service.Stores "c1" := by
  refine ⟨by decide +kernel, falteringBench_clears (Or.inr rfl), by decide +kernel,
    by decide +kernel, ?_⟩
  unfold Cloud.Stores
  decide +kernel

end Qualifier
