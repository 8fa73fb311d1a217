import Qualifier.Service.Simulated

/-!
# The Queues of Failures

Each call takes the oldest entry from the queue of its operation, and that entry is
all that can keep it from doing what it is asked. What a call does, in turn, does not
touch the queues. So the queues can be followed apart from everything else, and the
calls of an operation in whose queue there is no failure all do what they are asked,
whatever is queued for the others.

## Main definitions

* `Cloud.noted`: A cloud after a call was noted and its entry taken.
* `Cloud.Unhindered`: There is no failure in the queue of an operation.

## Theorems

* `service_eq`: A call is noted, and then fails or is performed.
* `service_of_unhindered`: A call that nothing is in the way of is performed.
* `Unhindered.service`: No call puts anything in the way of another.
-/

namespace Qualifier

namespace Simulated

namespace Cloud

variable {c : Cloud} {op : Operation}

/-- The cloud after a call was noted and the oldest entry of its queue taken. -/
def noted (c : Cloud) (op : Operation) : Cloud :=
  { c with
    calls := c.calls ++ [op]
    pending := fun o => if o = op then (c.pending o).tail else c.pending o }

@[simp] theorem noted_things (c : Cloud) (op : Operation) : (c.noted op).things = c.things :=
  rfl

@[simp] theorem noted_certificates (c : Cloud) (op : Operation) :
    (c.noted op).certificates = c.certificates :=
  rfl

theorem enter_eq (c : Cloud) (op : Operation) :
    c.enter op = ((c.pending op).headD none, c.noted op) := by
  unfold enter noted
  cases hqueue : c.pending op with
  | nil =>
      -- Taking nothing from an empty queue leaves all of them as they are.
      have hsame : (fun o => if o = op then (c.pending o).tail else c.pending o) = c.pending := by
        funext o
        by_cases heq : o = op
        · rw [if_pos heq, heq, hqueue, List.tail_nil]
        · rw [if_neg heq]
      rw [hsame]
      rfl
  | cons entry rest =>
      have hrest : (fun o => if o = op then rest else c.pending o) =
          fun o => if o = op then (c.pending o).tail else c.pending o := by
        funext o
        by_cases heq : o = op
        · rw [if_pos heq, if_pos heq, heq, hqueue, List.tail_cons]
        · rw [if_neg heq, if_neg heq]
      simp only [hrest]
      rfl

theorem service_eq (r : Request) (c : Cloud) :
    service r c = match (c.pending r.operation).headD none with
      | some error => (.error error, c.noted r.operation)
      | none => perform r (c.noted r.operation) := by
  rw [service, enter_eq]
  cases (c.pending r.operation).headD none <;> rfl

/-- What a call does has no effect on the queues. -/
theorem pending_perform (r : Request) (c : Cloud) : (perform r c).2.pending = c.pending := by
  cases r <;> simp only [perform, onThing, onCertificate] <;> repeat' split
  all_goals rfl

/-- There is no failure in the queue of an operation. -/
def Unhindered (c : Cloud) (op : Operation) : Prop :=
  ∀ entry ∈ c.pending op, entry = none

theorem Unhindered.headD (h : c.Unhindered op) : (c.pending op).headD none = none := by
  unfold Unhindered at h
  cases hqueue : c.pending op with
  | nil => rfl
  | cons entry rest => exact h entry (hqueue ▸ List.mem_cons_self)

theorem Unhindered.noted (h : c.Unhindered op) (other : Operation) :
    (c.noted other).Unhindered op := by
  intro entry hentry
  by_cases heq : op = other
  · simp only [Cloud.noted, if_pos heq] at hentry
    exact h entry (List.mem_of_mem_tail hentry)
  · simp only [Cloud.noted, if_neg heq] at hentry
    exact h entry hentry

theorem service_of_unhindered {r : Request} (h : c.Unhindered r.operation) :
    service r c = perform r (c.noted r.operation) := by
  rw [service_eq, h.headD]

theorem Unhindered.service (h : c.Unhindered op) (r : Request) :
    (service r c).2.Unhindered op := by
  have hnoted := h.noted r.operation
  rw [service_eq]
  cases (c.pending r.operation).headD none with
  | some error => exact hnoted
  | none =>
      unfold Unhindered
      simp only [pending_perform]
      exact hnoted

end Cloud

end Simulated

end Qualifier
