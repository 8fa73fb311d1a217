import Qualifier.Proofs.Outside.Parts
import Qualifier.Proofs.Registry.Numbering
import Qualifier.Proofs.Registry.Queues

/-!
# The Records of the Registry

What the simulated services have on record about things and certificates, and what
each request does to it.

An identity is set up beside whatever is registered already, and none of that may
change. The records are therefore followed as the ones at the start with one entry
more: `Catalog.add` puts an entry under a key that is free, and taking that entry
away again gives back the very catalog it was added to.

`Holds.service_cases` is all that has to be known of a call: a queued failure
answers it and leaves the records alone, or it does what was asked. Nothing is
queued for the operations that clear up. From it comes one lemma for each request,
and no proof about a program has to look inside the services again.

## Main definitions

* `Catalog.add`: One entry more.
* `clearsUp`: The operations a teardown is made of.
* `Cloud.Stores`: A certificate is in store.
* `Cloud.Holds`: The records of a cloud that clears up without fail.

## Theorems

* `Catalog.erase_add`: An entry that is added can be taken away again.
* `Holds.service_cases`: What a call does to the records.
* `Holds.ensures`, `Holds.ensures_of_clearsUp`: The same as rules for programs.
-/

namespace Qualifier

namespace Catalog

variable {κ α : Type}

/-- The catalog with one more entry. It is meant for a key that is free. -/
def add (c : Catalog κ α) (key : κ) (value : α) : Catalog κ α :=
  ⟨(key, value) :: c.entries⟩

variable [DecidableEq κ]

@[simp] theorem get?_add_self (c : Catalog κ α) (key : κ) (value : α) :
    (c.add key value).get? key = some value := by
  simp [get?, add]

theorem get?_add_of_ne (c : Catalog κ α) {key other : κ} (value : α) (h : other ≠ key) :
    (c.add key value).get? other = c.get? other := by
  simp [get?, add, Ne.symm h]

@[simp] theorem contains_add_self (c : Catalog κ α) (key : κ) (value : α) :
    (c.add key value).contains key = true := by
  simp [contains]

theorem ne_of_mem_entries {c : Catalog κ α} {key : κ} (h : c.get? key = none)
    {e : κ × α} (he : e ∈ c.entries) : e.1 ≠ key := by
  simp only [get?, Option.map_eq_none_iff, List.find?_eq_none] at h
  simpa using h e he

theorem erase_eq_self {c : Catalog κ α} {key : κ} (h : c.get? key = none) :
    c.erase key = c := by
  unfold erase
  congr 1
  refine List.filter_eq_self.mpr fun e he => ?_
  simpa using ne_of_mem_entries h he

theorem insert_eq_add {c : Catalog κ α} {key : κ} (h : c.get? key = none) (value : α) :
    c.insert key value = c.add key value := by
  rw [insert, add, erase_eq_self h]

/-- Under a key without an entry there is nothing to change. -/
theorem modify_eq_self {c : Catalog κ α} {key : κ} (h : c.get? key = none) (f : α → α) :
    c.modify key f = c := by
  unfold modify
  congr 1
  refine (List.map_congr_left fun e he => ?_).trans (List.map_id _)
  exact if_neg (ne_of_mem_entries h he)

/-- Only the entry that was added is changed by a change under its key. -/
theorem modify_add {c : Catalog κ α} {key : κ} (h : c.get? key = none) (value : α)
    (f : α → α) : (c.add key value).modify key f = c.add key (f value) := by
  have hrest : (c.entries.map fun e => if e.1 = key then (e.1, f e.2) else e) = c.entries :=
    congrArg Catalog.entries (modify_eq_self h f)
  unfold modify add
  rw [List.map_cons, hrest, if_pos rfl]

/-- A change under a key that is removed afterwards does not show. -/
theorem erase_modify (c : Catalog κ α) (key : κ) (f : α → α) :
    (c.modify key f).erase key = c.erase key := by
  unfold erase modify
  congr 1
  induction c.entries with
  | nil => rfl
  | cons e rest ih =>
      rw [List.map_cons]
      by_cases hkey : e.1 = key
      · rw [if_pos hkey, List.filter_cons_of_neg (by simp [hkey]),
          List.filter_cons_of_neg (by simp [hkey]), ih]
      · rw [if_neg hkey, List.filter_cons_of_pos (by simp [hkey]),
          List.filter_cons_of_pos (by simp [hkey]), ih]

theorem contains_modify (c : Catalog κ α) (key other : κ) (f : α → α) :
    (c.modify key f).contains other = c.contains other := by
  rw [contains, contains, get?_modify]
  split <;> simp

theorem contains_insert_of_contains {c : Catalog κ α} {other : κ} (key : κ) (value : α)
    (h : c.contains other = true) : (c.insert key value).contains other = true := by
  by_cases heq : other = key
  · rw [heq, contains, get?_insert_self, Option.isSome_some]
  · rw [contains, get?_insert_of_ne _ _ heq]
    exact h

theorem contains_erase_iff (c : Catalog κ α) (key other : κ) :
    (c.erase key).contains other = true ↔ other ≠ key ∧ c.contains other = true := by
  by_cases heq : other = key
  · simp [contains, heq]
  · simp [contains, get?_erase_of_ne c heq, heq]

theorem erase_add {c : Catalog κ α} {key : κ} (h : c.get? key = none) (value : α) :
    (c.add key value).erase key = c := by
  unfold erase add
  rw [List.filter_cons_of_neg (by simp)]
  exact erase_eq_self h

end Catalog

namespace Simulated

open Program

/-- The operations that a teardown is made of. -/
def clearsUp : Operation → Bool
  | .listPrincipals | .detachPrincipal | .updateCertificate | .deleteCertificate
  | .deleteThing => true
  | _ => false

/-- No failure is queued for an operation that clears up. -/
def Cloud.ClearsFreely (c : Cloud) : Prop :=
  ∀ op, clearsUp op = true → ∀ entry ∈ c.pending op, entry = none

/-- A certificate is in store. -/
def Cloud.Stores (c : Cloud) (id : String) : Prop :=
  c.certificates.contains id = true

/-- What a cloud has on record: its things, its certificates and how many of these
    were issued. Failures may be queued in it, but for none of the operations that
    clear up. -/
structure Cloud.Holds (c : Cloud) (things : Catalog String Device)
    (certificates : Catalog String StoredCertificate) (issued : UInt32) : Prop where
  things : c.things = things
  certificates : c.certificates = certificates
  issued : c.issued = issued
  clears : c.ClearsFreely

namespace Cloud

variable {c : Cloud} {T : Catalog String Device} {C : Catalog String StoredCertificate}
  {n : UInt32}

theorem ensures_request (r : Request) (c : Cloud)
    (post : Except ServiceError r.Answer → Cloud → Prop) :
    Ensures behaviour (request r) c post ↔ post (service r c).1 (service r c).2 := by
  constructor
  · intro h
    exact h _ _ rfl
  · intro h answer d hstep
    obtain ⟨rfl, rfl⟩ := Prod.mk.inj (show (answer, d) = service r c from hstep)
    exact h

/-- What a request ensures it ensures if it is stopped and if it is performed, either time
    after the call was noted. -/
theorem ensures_of_perform {r : Request} {post : Except ServiceError r.Answer → Cloud → Prop}
    (hstopped : ∀ e, post (.error e) (c.noted r.operation))
    (hdone : post (perform r (c.noted r.operation)).1 (perform r (c.noted r.operation)).2) :
    Ensures behaviour (request r) c post := by
  rw [ensures_request, service_eq]
  cases (c.pending r.operation).headD none with
  | some e => exact hstopped e
  | none => exact hdone

/-- Noting a call leaves the records alone, and nothing is in the way of one that
    clears up. -/
theorem Holds.enter (h : c.Holds T C n) (op : Operation) :
    (c.enter op).2.Holds T C n ∧ (clearsUp op = true → (c.enter op).1 = none) := by
  have hfree : ∀ other, clearsUp other = true → c.Unhindered other := h.clears
  rw [enter_eq]
  refine ⟨⟨h.things, h.certificates, h.issued, ?_⟩, fun hop => (hfree op hop).headD⟩
  exact fun other hother => (hfree other hother).noted op

/-- A call runs into a failure that was queued for it, or does what was asked. -/
theorem Holds.service_cases (h : c.Holds T C n) (r : Request) :
    (clearsUp r.operation = false ∧ ∃ e d, service r c = (.error e, d) ∧ d.Holds T C n) ∨
    (∃ d, service r c = perform r d ∧ d.Holds T C n) := by
  have hrecords := (h.enter r.operation).1
  have hfree := (h.enter r.operation).2
  unfold service
  rcases hentry : c.enter r.operation with ⟨_ | e, d⟩
  · rw [hentry] at hrecords
    exact Or.inr ⟨d, rfl, hrecords⟩
  · rw [hentry] at hrecords hfree
    refine Or.inl ⟨?_, e, d, rfl, hrecords⟩
    cases hop : clearsUp r.operation with
    | false => rfl
    | true => exact absurd (hfree hop) (by simp)

/-- What a request ensures when it is not stopped, it ensures up to the failures it
    may run into. -/
theorem Holds.ensures (h : c.Holds T C n) {r : Request} {bad : ServiceError → Cloud → Prop}
    {good : r.Answer → Cloud → Prop}
    (hfail : clearsUp r.operation = false → ∀ e d, d.Holds T C n → bad e d)
    (hdone : ∀ d, d.Holds T C n → Attempt bad good (perform r d).1 (perform r d).2) :
    Ensures behaviour (request r) c (Attempt bad good) := by
  rw [ensures_request]
  rcases h.service_cases r with ⟨hop, e, d, heq, hd⟩ | ⟨d, heq, hd⟩
  · rw [heq]
    exact hfail hop e d hd
  · rw [heq]
    exact hdone d hd

/-- A request that clears up always does what was asked. -/
theorem Holds.ensures_of_clearsUp (h : c.Holds T C n) {r : Request}
    {post : Except ServiceError r.Answer → Cloud → Prop} (hop : clearsUp r.operation = true)
    (hdone : ∀ d, d.Holds T C n → post (perform r d).1 (perform r d).2) :
    Ensures behaviour (request r) c post := by
  rw [ensures_request]
  rcases h.service_cases r with ⟨hnot, -⟩ | ⟨d, heq, hd⟩
  · exact absurd (hop.symm.trans hnot) (by decide)
  · rw [heq]
    exact hdone d hd

end Cloud

end Simulated

end Qualifier
