import Mathlib.Algebra.Group.Action.Defs
import Mathlib.Algebra.Order.BigOperators.Group.List
import Mathlib.Order.Bounds.Basic
import Qualifier.Outside.Bench
import Qualifier.Poll.Watch
import Qualifier.Proofs.Outside.Ensures
import Qualifier.Proofs.Poll.Draw
import Qualifier.Service.Simulated

/-!
# A Ceiling on Waiting

A policy made from a ceiling has as many looks as longest waits fit under the ceiling,
in whole seconds. A watch waits before each look, and every wait is drawn between the
bounds, so the waits of a watch together stay under the ceiling: this is what the
ceiling is for, and nothing in the loop itself refers to it.

The two halves meet in a number. `isGreatest_quotient` says that the looks are the most
that fit, and `ensures_watchFrom_waited` that a watch waits no more often than there are
looks, by induction on the looks that are left. How a run is answered, and whether a
companion is launched, decides only how early a watch ends.

Nothing is assumed of the words that waits are drawn from: `sleeping` lets a clock sleep,
at each wait, for any span that the policy can draw from any words.

## Main definitions

* `sleeping`: What a clock does at the questions of a program.
* `Waited`: Some waits under a policy, at most as many as a budget.

## Theorems

* `admits_sleeping`: The clock on a test bench does no more.
* `isGreatest_quotient`: A quotient of words is the most that fits.
* `ensures_watchFrom_waited`: How often a watch waits.
* `Waited.total_le`: How long its waits are together.
* `ofCeiling_bounds_waits`: What a ceiling is worth.
-/

namespace Qualifier

open Program Simulated

/-- What a clock does at a question: at a wait it sleeps for a span that the policy can
    draw, and otherwise it does not sleep. The state is the spans slept so far. -/
def sleeping : Behaviour (List Span)
  | .pause policy, slept, _, slept' => ∃ words, slept' = slept ++ [(policy.jitter words).1]
  | .service _, slept, _, slept' => slept' = slept
  | .write _ _, slept, _, slept' => slept' = slept
  | .writePrivate _ _, slept, _, slept' => slept' = slept
  | .read _, slept, _, slept' => slept' = slept
  | .remove _, slept, _, slept' => slept' = slept
  | .fetch _, slept, _, slept' => slept' = slept
  | .launch _, slept, _, slept' => slept' = slept
  | .freshName, slept, _, slept' => slept' = slept

theorem admits_sleeping {σ : Type} (service : Service σ) :
    World.Admits (Bench.world service) (fun b => b.clock.slept) sleeping := by
  intro q b
  cases q with
  | freshName => cases hnames : b.names <;> simp [Bench.world, hnames, sleeping]
  | pause policy => exact ⟨b.clock.words, rfl⟩
  | _ => rfl

/-- Between two states of a clock there were some waits under a policy, at most as many
    as a budget. -/
def Waited (policy : Policy) (budget : Nat) (slept slept' : List Span) : Prop :=
  ∃ delays : List Span, slept' = slept ++ delays ∧ delays.length ≤ budget ∧
    ∀ d ∈ delays, ∃ words, d = (policy.jitter words).1

variable {policy : Policy} {budget : Nat} {slept slept' : List Span}

theorem Waited.none (policy : Policy) (budget : Nat) (slept : List Span) :
    Waited policy budget slept slept :=
  ⟨[], (List.append_nil _).symm, Nat.zero_le _, fun _ hd => absurd hd List.not_mem_nil⟩

/-- One wait more, at the beginning. -/
theorem Waited.first {words : List UInt64}
    (h : Waited policy budget (slept ++ [(policy.jitter words).1]) slept') :
    Waited policy (budget + 1) slept slept' := by
  rcases h with ⟨delays, hslept, hlength, hdrawn⟩
  refine ⟨(policy.jitter words).1 :: delays, ?_, Nat.succ_le_succ hlength, ?_⟩
  · rw [hslept, List.append_assoc, List.singleton_append]
  · intro d hd
    rcases List.mem_cons.mp hd with rfl | hd
    · exact ⟨words, rfl⟩
    · exact hdrawn d hd

/-- A wait is drawn between the bounds in whole seconds. -/
theorem toNanos_jitter_le (h : policy.least.seconds ≤ policy.most.seconds)
    (words : List UInt64) :
    (policy.jitter words).1.toNanos ≤ policy.most.seconds.toNat * 1000000000 := by
  rcases jitter_mem h words with ⟨hwhole, -, hmost⟩
  have hseconds : (policy.jitter words).1.seconds.toNat ≤ policy.most.seconds.toNat :=
    UInt64.le_iff_toNat_le.mp hmost
  have hnanos : (policy.jitter words).1.nanos.val = 0 := by rw [hwhole]; rfl
  unfold Span.toNanos
  omega

/-- So many waits are together no longer than as many longest ones. -/
theorem Waited.total_le (h : Waited policy budget slept slept')
    (hbounds : policy.least.seconds ≤ policy.most.seconds) :
    ∃ delays, slept' = slept ++ delays ∧
      (delays.map Span.toNanos).sum ≤ budget * policy.most.seconds.toNat * 1000000000 := by
  rcases h with ⟨delays, hslept, hlength, hdrawn⟩
  refine ⟨delays, hslept, ?_⟩
  have heach : ∀ n ∈ delays.map Span.toNanos, n ≤ policy.most.seconds.toNat * 1000000000 := by
    intro n hn
    rcases List.mem_map.mp hn with ⟨d, hd, rfl⟩
    rcases hdrawn d hd with ⟨words, rfl⟩
    exact toNanos_jitter_le hbounds words
  calc (delays.map Span.toNanos).sum
      ≤ (delays.map Span.toNanos).length • (policy.most.seconds.toNat * 1000000000) :=
        List.sum_le_card_nsmul _ _ heach
    _ = delays.length * (policy.most.seconds.toNat * 1000000000) := by
        rw [List.length_map, smul_eq_mul]
    _ ≤ budget * (policy.most.seconds.toNat * 1000000000) := Nat.mul_le_mul_right _ hlength
    _ = budget * policy.most.seconds.toNat * 1000000000 := (Nat.mul_assoc _ _ _).symm

/-- With so many looks to go a watch waits no more often, whatever it is answered and
    whether or not the companion is launched on the way. -/
theorem ensures_watchFrom_waited (policy : Policy) (job : Job) (invocation : Invocation)
    (left : Nat) : ∀ (count : Nat) (companion : CompanionState) (slept : List Span),
      Ensures sleeping (watchFrom policy job invocation left count companion) slept
        fun _ slept' => Waited policy left slept slept' := by
  induction left with
  | zero => exact fun count companion slept => Waited.none policy 0 slept
  | succ left ih =>
      intro count companion slept
      rw [watchFrom]
      refine (ensures_question_bind _ _ _ _ _).mpr ?_
      rintro _ _ ⟨words, rfl⟩
      refine (ensures_question_bind _ _ _ _ _).mpr ?_
      rintro look _ rfl
      -- However the watch goes on, this was one wait and the others are in the rest.
      have hgo : ∀ companion', Ensures sleeping
          (watchFrom policy job invocation left (count + 1) companion')
          (slept ++ [(policy.jitter words).1])
          fun _ slept' => Waited policy (left + 1) slept slept' :=
        fun companion' => (ih _ companion' _).mono fun _ _ h => h.first
      have hstop : Waited policy (left + 1) slept (slept ++ [(policy.jitter words).1]) :=
        (Waited.none policy left _).first
      cases look with
      | error cause =>
          by_cases htransient : cause.isTransient = true
          · simp only [if_pos htransient]
            exact hgo companion
          · simp only [if_neg htransient]
            exact hstop
      | ok snapshot =>
          dsimp only
          cases Phase.observe snapshot companion.wasLaunched with
          | terminal status => exact hstop
          | loading => exact hgo companion
          | inProgress => exact hgo companion
          | launchCompanion =>
              refine (ensures_question_bind _ _ _ _ _).mpr ?_
              rintro answer _ rfl
              exact hgo _

/-- A quotient of words is the most that fits. -/
theorem isGreatest_quotient {n d : UInt64} (hd : 1 ≤ d) :
    IsGreatest {k : Nat | k * d.toNat ≤ n.toNat} (n / d).toNat := by
  have hpos : 0 < d.toNat := UInt64.le_iff_toNat_le.mp hd
  rw [UInt64.toNat_div]
  constructor
  · exact Nat.div_mul_le_self n.toNat d.toNat
  · intro k hk
    exact (Nat.le_div_iff_mul_le hpos).mpr hk

/-- A ceiling makes a policy exactly if there is a longest wait of a second or more, the
    bounds are in order and one longest wait fits under the ceiling; it has the most looks
    of which the longest waits fit. Under such a policy a watch waits no longer than the
    ceiling, whatever waits are drawn and however the looks are answered. -/
theorem ofCeiling_bounds_waits (least most ceiling : Span) :
    ((∃ p, Policy.ofCeiling? least most ceiling = .ok p) ↔
      1 ≤ most.seconds ∧ least.seconds ≤ most.seconds ∧ most.seconds ≤ ceiling.seconds) ∧
    ∀ p, Policy.ofCeiling? least most ceiling = .ok p →
      IsGreatest {k : Nat | k * most.seconds.toNat ≤ ceiling.seconds.toNat} p.cycles.toNat ∧
      ∀ (τ : Type) (w : World τ) (slept : τ → List Span), w.Admits slept sleeping →
        ∀ (job : Job) (invocation : Invocation) (start : τ), ∃ delays,
          slept ((watch p job invocation).run w start).2 = slept start ++ delays ∧
            (delays.map Span.toNanos).sum ≤ ceiling.toNanos := by
  constructor
  · simp only [Policy.ofCeiling?_ok_iff, exists_and_left, exists_eq, and_true]
  intro p hp
  rcases Policy.ofCeiling?_ok_iff.mp hp with ⟨hone, hbounds, -, rfl⟩
  have hfits := isGreatest_quotient (n := ceiling.seconds) hone
  refine ⟨hfits, fun τ w slept hslept job invocation start => ?_⟩
  have hwatch := ensures_watchFrom_waited ⟨least, most, ceiling.seconds / most.seconds⟩
    job invocation (ceiling.seconds / most.seconds).toNat 0 .idle (slept start)
  have hwaited := run_of_ensures hslept hwatch
  rcases hwaited.total_le hbounds with ⟨delays, hdelays, htotal⟩
  refine ⟨delays, hdelays, htotal.trans ?_⟩
  calc (ceiling.seconds / most.seconds).toNat * most.seconds.toNat * 1000000000
      ≤ ceiling.seconds.toNat * 1000000000 := Nat.mul_le_mul_right _ hfits.1
    _ ≤ ceiling.toNanos := Nat.le_add_right _ _

/-- A test bench on which a run is seen running each time, and no case of it starts. -/
def loadingBench : Bench Cloud where
  service := Cloud.new.pushRun (.ok ⟨.running, []⟩)
  files := ⟨.empty, []⟩
  companions := ⟨[], []⟩
  clock := ⟨[], []⟩
  names := []

/-- Three waits of three seconds fill a ceiling of nine, and there can be no fourth. -/
theorem ofCeiling_bounds_waits_in_full :
    ∃ p, Policy.ofCeiling? (.ofSeconds 3) (.ofSeconds 3) (.ofSeconds 9) = .ok p ∧
      IsGreatest {k : Nat | k * 3 ≤ 9} p.cycles.toNat ∧
      let done := (watch p ⟨"suite", "run"⟩ ⟨"device", [], none, [], .ofSeconds 1⟩).run
        (Bench.world Cloud.service) loadingBench
      done.2.clock.slept = List.replicate 3 (.ofSeconds 3) ∧
        (done.2.clock.slept.map Span.toNanos).sum ≤ (Span.ofSeconds 9).toNanos := by
  have hbounds := ofCeiling_bounds_waits (.ofSeconds 3) (.ofSeconds 3) (.ofSeconds 9)
  rcases hbounds.1.mpr ⟨by decide, by decide, by decide⟩ with ⟨p, hp⟩
  have hpolicy : p = ⟨.ofSeconds 3, .ofSeconds 3, 3⟩ :=
    (Policy.ofCeiling?_ok_iff.mp hp).2.2.2
  rcases hbounds.2 p hp with ⟨hfits, hwaits⟩
  rcases hwaits _ (Bench.world Cloud.service) _ (admits_sleeping Cloud.service)
    ⟨"suite", "run"⟩ ⟨"device", [], none, [], .ofSeconds 1⟩ loadingBench with
    ⟨delays, hdelays, htotal⟩
  -- The clock of this bench has not slept before.
  have hslept := hdelays.trans (List.nil_append delays)
  refine ⟨p, hp, hfits, ?_, ?_⟩
  · rw [hpolicy]
    decide +kernel
  · rw [hslept]
    exact htotal

end Qualifier
