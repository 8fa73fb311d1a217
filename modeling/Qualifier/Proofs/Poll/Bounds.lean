import Qualifier.Poll.Policy

/-!
# The Policies There Are

A policy is a record, and a record can hold anything. What can be relied on is that a
policy is got in one of three ways: it is the one used where nothing is configured, or
its bounds and its number of looks were checked, or its number of looks was computed
from a ceiling and then checked in the same way. Here each of these ways is said in
full, as to when it fails, how, and what it yields otherwise.

A ceiling is divided by the longest wait. No wait can be that short that the division
has no result, since a longest wait of nothing leaves no looks without dividing; and a
ceiling below the longest wait leaves none either, whatever the bounds are.

## Main definitions

* `Policy.Built`: The policies there are ways to get.

## Theorems

* `ofCycles?_eq`, `ofCeiling?_eq`: What comes of bounds and a number of looks, or a
  ceiling.
* `ofCycles?_ok_iff`, `ofCeiling?_ok_iff`: When a policy comes of them, and which.
* `Built.least_le_most`: The bounds of a policy are in order.
-/

namespace Qualifier

namespace Policy

/-- The policies there are ways to get. -/
inductive Built : Policy → Prop
  | standard : Built standard
  | ofCycles {least most : Span} {cycles : UInt64} {p : Policy}
      (h : ofCycles? least most cycles = .ok p) : Built p
  | ofCeiling {least most ceiling : Span} {p : Policy}
      (h : ofCeiling? least most ceiling = .ok p) : Built p

variable {least most ceiling : Span} {cycles : UInt64} {p : Policy}

theorem ofCycles?_eq (least most : Span) (cycles : UInt64) :
    ofCycles? least most cycles =
      if most.seconds < least.seconds then
        .error (.invertedBackoff least.seconds most.seconds)
      else if cycles = 0 then .error (.emptyBudget 0 most.seconds)
      else .ok ⟨least, most, cycles⟩ :=
  rfl

/-- A quotient of words is zero only if the divisor is, or is the greater one. -/
theorem quotient_eq_zero_iff (n d : UInt64) :
    (if d = 0 then 0 else n / d) = 0 ↔ d = 0 ∨ n < d := by
  by_cases hzero : d = 0
  · simp [hzero]
  · have hpos : 0 < d.toNat := by
      have hne : d.toNat ≠ 0 := fun h => hzero (UInt64.toNat_inj.mp h)
      omega
    rw [if_neg hzero, ← UInt64.toNat_inj, UInt64.toNat_div, UInt64.lt_iff_toNat_lt]
    simp only [hzero, false_or]
    rw [show (0 : UInt64).toNat = 0 from rfl, Nat.div_eq_zero_iff]
    omega

/-- A ceiling that leaves no looks is complained about first, then bounds out of order;
    otherwise the looks are as many as the quotient. -/
theorem ofCeiling?_eq (least most ceiling : Span) :
    ofCeiling? least most ceiling =
      if most.seconds = 0 ∨ ceiling.seconds < most.seconds then
        .error (.emptyBudget ceiling.seconds most.seconds)
      else if most.seconds < least.seconds then
        .error (.invertedBackoff least.seconds most.seconds)
      else .ok ⟨least, most, ceiling.seconds / most.seconds⟩ := by
  have hquotient := quotient_eq_zero_iff ceiling.seconds most.seconds
  unfold ofCeiling?
  simp only [hquotient]
  by_cases hempty : most.seconds = 0 ∨ ceiling.seconds < most.seconds
  · rw [if_pos hempty, if_pos hempty]
  · rw [if_neg hempty, if_neg hempty, ofCycles?_eq]
    have hzero : most.seconds ≠ 0 := fun h => hempty (Or.inl h)
    have hlooks : ceiling.seconds / most.seconds ≠ 0 := by
      intro h
      rw [if_neg hzero] at hquotient
      exact hempty (hquotient.mp h)
    simp only [if_neg hzero, if_neg hlooks]

theorem ofCycles?_ok_iff :
    ofCycles? least most cycles = .ok p ↔
      least.seconds ≤ most.seconds ∧ cycles ≠ 0 ∧ p = ⟨least, most, cycles⟩ := by
  rw [ofCycles?_eq, ← UInt64.not_lt]
  by_cases hbounds : most.seconds < least.seconds
  · simp [hbounds]
  · by_cases hcycles : cycles = 0
    · simp [hbounds, hcycles]
    · simp [hbounds, hcycles, eq_comm]

/-- A word is at least one unless it is zero. -/
theorem one_le_iff_ne_zero (n : UInt64) : 1 ≤ n ↔ n ≠ 0 := by
  rw [UInt64.le_iff_toNat_le, ne_eq, ← UInt64.toNat_inj]
  exact Nat.one_le_iff_ne_zero

theorem ofCeiling?_ok_iff :
    ofCeiling? least most ceiling = .ok p ↔
      1 ≤ most.seconds ∧ least.seconds ≤ most.seconds ∧ most.seconds ≤ ceiling.seconds ∧
        p = ⟨least, most, ceiling.seconds / most.seconds⟩ := by
  rw [ofCeiling?_eq, one_le_iff_ne_zero, ← UInt64.not_lt, ← UInt64.not_lt]
  by_cases hempty : most.seconds = 0 ∨ ceiling.seconds < most.seconds
  · rw [if_pos hempty]
    rcases hempty with hzero | hshort
    · simp [hzero]
    · simp [hshort]
  · rcases not_or.mp hempty with ⟨hzero, hshort⟩
    rw [if_neg hempty]
    by_cases hbounds : most.seconds < least.seconds
    · simp [hbounds]
    · simp [hzero, hshort, hbounds, eq_comm]

/-- However a policy was got, its bounds are in order. -/
theorem Built.least_le_most (h : p.Built) : p.least.seconds ≤ p.most.seconds := by
  cases h with
  | standard => decide
  | ofCycles h =>
      rcases ofCycles?_ok_iff.mp h with ⟨hle, -, rfl⟩
      exact hle
  | ofCeiling h =>
      rcases ofCeiling?_ok_iff.mp h with ⟨-, hle, -, rfl⟩
      exact hle

end Policy

end Qualifier
