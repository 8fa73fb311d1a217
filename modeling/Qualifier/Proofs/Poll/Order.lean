import Qualifier.Proofs.Poll.Draw

/-!
# Bounds in Order

The bounds of a policy are lengths of time down to the nanosecond, but they are compared
by their whole seconds, and waits are drawn between whole seconds. What the bounds promise
is therefore kept up to a part of a second: a lower bound that is longer than the upper one
is refused if it is so by its whole seconds, and is let through if both have the same
whole seconds. A wait is never longer than the upper bound, and it can be shorter than the
lower bound by the part of a second that the lower bound has.

Both gaps close where the lower bound is a number of whole seconds: such a lower bound is
in order with every upper bound it is accepted with, and no wait falls short of it. This is
why only bounds with parts of a second tell the two orders apart.

## Theorems

* `Span.lt_iff`, `Span.le_iff`: Spans are in the order of their seconds, and then of their
  nanoseconds.
* `refused_of_inverted_seconds`: Bounds whose whole seconds are inverted make no policy.
* `accepted_of_inverted_nanos`: Bounds that are inverted within one second do make one.
* `le_iff_of_seconds_le`: When accepted bounds are in order.
* `jitter_le_most`, `jitter_lt_least_iff`: Where waits lie.
* `bounds_ordered_by_seconds`: What the bounds of a policy promise.
-/

namespace Qualifier

namespace Span

/-- Spans are in the order of their seconds, and then of their nanoseconds. -/
theorem lt_iff (a b : Span) :
    a < b ↔ a.seconds < b.seconds ∨ a.seconds = b.seconds ∧ a.nanos < b.nanos := by
  have hunfold : a < b ↔ a.toNanos < b.toNanos := Iff.rfl
  have ha : a.nanos.val < 1000000000 := a.nanos.isLt
  have hb : b.nanos.val < 1000000000 := b.nanos.isLt
  rw [hunfold, UInt64.lt_iff_toNat_lt, ← UInt64.toNat_inj, Fin.lt_def]
  unfold toNanos
  omega

theorem not_lt_iff (a b : Span) : ¬a < b ↔ b ≤ a :=
  Nat.not_lt

theorem le_iff (a b : Span) :
    a ≤ b ↔ a.seconds < b.seconds ∨ a.seconds = b.seconds ∧ a.nanos ≤ b.nanos := by
  have hunfold : a ≤ b ↔ a.toNanos ≤ b.toNanos := Iff.rfl
  have ha : a.nanos.val < 1000000000 := a.nanos.isLt
  have hb : b.nanos.val < 1000000000 := b.nanos.isLt
  rw [hunfold, UInt64.lt_iff_toNat_lt, ← UInt64.toNat_inj, Fin.le_def]
  unfold toNanos
  omega

end Span

namespace Policy

variable {least most ceiling : Span} {cycles : UInt64} {p : Policy}

/-! ## What is accepted -/

/-- Bounds whose whole seconds are inverted make no policy, by either way. -/
theorem refused_of_inverted_seconds (h : most.seconds < least.seconds) :
    (∃ e, ofCycles? least most cycles = .error e) ∧
      ∃ e, ofCeiling? least most ceiling = .error e := by
  constructor
  · rw [ofCycles?_eq, if_pos h]
    exact ⟨_, rfl⟩
  · rw [ofCeiling?_eq]
    by_cases hempty : most.seconds = 0 ∨ ceiling.seconds < most.seconds
    · rw [if_pos hempty]
      exact ⟨_, rfl⟩
    · rw [if_neg hempty, if_pos h]
      exact ⟨_, rfl⟩

/-- Bounds that are inverted within one second make a policy, if there is anything to do. -/
theorem accepted_of_inverted_nanos (h : least.seconds = most.seconds) :
    ((∃ p, ofCycles? least most cycles = .ok p) ↔ cycles ≠ 0) ∧
      ((∃ p, ofCeiling? least most ceiling = .ok p) ↔
        1 ≤ most.seconds ∧ most.seconds ≤ ceiling.seconds) := by
  have hle : least.seconds ≤ most.seconds := by
    rw [h]
    exact UInt64.le_refl _
  simp only [ofCycles?_ok_iff, ofCeiling?_ok_iff, hle, true_and, exists_and_left, exists_eq,
    and_true]

/-- A policy has the bounds that it was made with, and their whole seconds are in order. -/
theorem bounds_of_accepted
    (h : (∃ cycles, ofCycles? least most cycles = .ok p) ∨
      ∃ ceiling, ofCeiling? least most ceiling = .ok p) :
    p.least = least ∧ p.most = most ∧ least.seconds ≤ most.seconds := by
  rcases h with ⟨cycles, h⟩ | ⟨ceiling, h⟩
  · rcases ofCycles?_ok_iff.mp h with ⟨hle, -, rfl⟩
    exact ⟨rfl, rfl, hle⟩
  · rcases ofCeiling?_ok_iff.mp h with ⟨-, hle, -, rfl⟩
    exact ⟨rfl, rfl, hle⟩

/-- Bounds whose whole seconds are in order are themselves in order, unless they are
    inverted within one second. -/
theorem le_iff_of_seconds_le (h : least.seconds ≤ most.seconds) :
    least ≤ most ↔ (least.seconds = most.seconds → least.nanos ≤ most.nanos) := by
  have hseconds : least.seconds < most.seconds ∨ least.seconds = most.seconds := by
    rw [UInt64.le_iff_toNat_le] at h
    rw [UInt64.lt_iff_toNat_lt, ← UInt64.toNat_inj]
    omega
  rw [Span.le_iff]
  constructor
  · rintro (hlt | ⟨-, hnanos⟩) hsame
    · rw [hsame] at hlt
      exact absurd hlt (UInt64.lt_irrefl _)
    · exact hnanos
  · intro hnanos
    rcases hseconds with hlt | hsame
    · exact Or.inl hlt
    · exact Or.inr ⟨hsame, hnanos hsame⟩

/-! ## What is drawn -/

/-- No wait is longer than the upper bound. -/
theorem jitter_le_most (h : p.least.seconds ≤ p.most.seconds) (words : List UInt64) :
    (p.jitter words).1 ≤ p.most := by
  rcases jitter_mem h words with ⟨hwhole, -, hmost⟩
  rw [le_iff_of_seconds_le hmost, hwhole]
  exact fun _ => Fin.zero_le _

/-- A wait falls short of the lower bound only if it has the seconds of the lower bound and
    the lower bound has nanoseconds too. -/
theorem jitter_lt_least_iff (h : p.least.seconds ≤ p.most.seconds) (words : List UInt64) :
    (p.jitter words).1 < p.least ↔
      (p.jitter words).1.seconds = p.least.seconds ∧ p.least.nanos ≠ 0 := by
  rcases jitter_mem h words with ⟨hwhole, hleast, -⟩
  rw [Span.lt_iff, hwhole, Fin.pos_iff_ne_zero]
  rw [← UInt64.not_lt] at hleast
  simp only [hleast, false_or]

/-- The lower bound is kept by all waits exactly if it is a number of whole seconds: among
    the waits there is always one with no more seconds than the lower bound. -/
theorem least_le_jitter_iff (h : p.least.seconds ≤ p.most.seconds) :
    (∀ words, p.least ≤ (p.jitter words).1) ↔ p.least.nanos = 0 := by
  constructor
  · intro hall
    by_contra hnanos
    have hshort : (p.jitter []).1 < p.least := (jitter_lt_least_iff h []).mpr ⟨rfl, hnanos⟩
    exact (Span.not_lt_iff _ _).mpr (hall []) hshort
  · intro hnanos words
    rw [← Span.not_lt_iff, jitter_lt_least_iff h]
    exact fun hshort => hshort.2 hnanos

/-- What the bounds of a policy promise. Bounds whose whole seconds are inverted are refused;
    bounds that are inverted within one second are accepted whenever bounds in order would be.
    Accepted bounds are in order but for that one case, in which they are less than a second
    apart. No wait is longer than the upper bound, or shorter than the lower one by a second
    or more, and waits keep the lower bound if it is a number of whole seconds, and only then. -/
theorem bounds_ordered_by_seconds (least most : Span) :
    (most.seconds < least.seconds → ∀ cycles ceiling,
      (∃ e, ofCycles? least most cycles = .error e) ∧
        ∃ e, ofCeiling? least most ceiling = .error e) ∧
    (most < least → ¬most.seconds < least.seconds → ∀ cycles ceiling,
      ((∃ p, ofCycles? least most cycles = .ok p) ↔ cycles ≠ 0) ∧
        ((∃ p, ofCeiling? least most ceiling = .ok p) ↔
          1 ≤ most.seconds ∧ most.seconds ≤ ceiling.seconds)) ∧
    ∀ p, (∃ cycles, ofCycles? least most cycles = .ok p) ∨
        (∃ ceiling, ofCeiling? least most ceiling = .ok p) →
      p.least = least ∧ p.most = most ∧
      (p.least ≤ p.most ↔ (least.seconds = most.seconds → least.nanos ≤ most.nanos)) ∧
      p.least.toNanos < p.most.toNanos + 1000000000 ∧
      (∀ words, (p.jitter words).1 ≤ p.most ∧
        p.least.toNanos < (p.jitter words).1.toNanos + 1000000000) ∧
      ((∀ words, p.least ≤ (p.jitter words).1) ↔ least.nanos = 0) := by
  refine ⟨fun h _ _ => refused_of_inverted_seconds h, ?_, ?_⟩
  · intro hinverted hseconds cycles ceiling
    have hsame : least.seconds = most.seconds := by
      rcases (Span.lt_iff _ _).mp hinverted with hlt | ⟨heq, -⟩
      · exact absurd hlt hseconds
      · exact heq.symm
    exact accepted_of_inverted_nanos hsame
  · intro p hp
    rcases bounds_of_accepted hp with ⟨rfl, rfl, hle⟩
    have hnanos : p.least.nanos.val < 1000000000 := p.least.nanos.isLt
    -- The whole seconds of the lower bound are below whatever else there is.
    have hseconds : ∀ s : Span, p.least.seconds ≤ s.seconds →
        p.least.toNanos < s.toNanos + 1000000000 := by
      intro s hs
      rw [UInt64.le_iff_toNat_le] at hs
      unfold Span.toNanos
      omega
    refine ⟨rfl, rfl, le_iff_of_seconds_le hle, hseconds _ hle, ?_, least_le_jitter_iff hle⟩
    exact fun words => ⟨jitter_le_most hle words, hseconds _ (jitter_mem hle words).2.1⟩

/-- Bounds of five and nine tenths and of six and one tenth seconds are accepted and in order,
    and five seconds are among the waits. -/
theorem bounds_ordered_by_seconds_apart :
    ∃ p, ofCycles? ⟨5, 900000000⟩ ⟨6, 100000000⟩ 1 = .ok p ∧ p.least ≤ p.most ∧
      ¬∀ words, p.least ≤ (p.jitter words).1 := by
  have hp : ofCycles? ⟨5, 900000000⟩ ⟨6, 100000000⟩ 1
      = .ok ⟨⟨5, 900000000⟩, ⟨6, 100000000⟩, 1⟩ := rfl
  have hbounds := bounds_ordered_by_seconds ⟨5, 900000000⟩ ⟨6, 100000000⟩
  rcases hbounds.2.2 _ (Or.inl ⟨1, hp⟩) with ⟨-, -, horder, -, -, hkept⟩
  refine ⟨_, hp, horder.mpr (by decide), ?_⟩
  rw [hkept]
  decide

/-- A lower bound that is longer than the upper one by eight tenths of a second is accepted,
    and then every wait is shorter than both. -/
theorem inverted_bounds_accepted :
    (⟨5, 100000000⟩ : Span) < ⟨5, 900000000⟩ ∧
      ofCycles? ⟨5, 900000000⟩ ⟨5, 100000000⟩ 1
        = .ok ⟨⟨5, 900000000⟩, ⟨5, 100000000⟩, 1⟩ ∧
      ofCeiling? ⟨5, 900000000⟩ ⟨5, 100000000⟩ ⟨5, 0⟩
        = .ok ⟨⟨5, 900000000⟩, ⟨5, 100000000⟩, 1⟩ ∧
      (jitter ⟨⟨5, 900000000⟩, ⟨5, 100000000⟩, 1⟩ []).1 < ⟨5, 900000000⟩ := by
  refine ⟨by decide, rfl, by decide, by decide⟩

end Policy

end Qualifier
