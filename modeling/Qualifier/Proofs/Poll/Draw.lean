import Mathlib.Data.Set.Card
import Mathlib.Order.Interval.Finset.Nat
import Qualifier.Proofs.Poll.Bounds

/-!
# Draws Are Fair

How long a wait is depends on the words it is drawn from, and on nothing else. A word is
taken or passed over, and one that is taken stands for a value between the bounds. What
has to be shown of this is that no value is preferred: the words that stand for a value
are as many as those that stand for any other.

The argument is about multiples. A word `v` stands for the value at distance `j` from the
lower bound if `v * range` lies in a stretch that begins at `j * wordCount`, and it is
passed over if `v * range` lies behind that stretch and before the next one. All
stretches have one length, which is a multiple of the range, so each of them holds the
same number of multiples of the range, wherever it begins.

A range that takes up all words wraps to zero. Then every word is taken, and stands for
itself.

## Main definitions

* `accepts`, `valueOf`: Whether a word is taken, and the value it stands for.
* `share`: The number of words that stand for one value.
* `FirstTaken`: The first word of an endless source that is taken.

## Theorems

* `rangeSize_eq`: The range as a number.
* `stretch_length`: How long a stretch is, and that it fits below `wordCount`.
* `accepts_valueOf_iff`: The words that stand for a value are those of a stretch.
* `ncard_multiples`: How many multiples a stretch holds.
* `ncard_valueOf`: Each value has its share of the words.
* `drawBetween_firstTaken`: A draw is the value of the first word that is taken.
* `jitter_mem`: What can be drawn.
* `jitter_fair`: What a draw can be, that it ends, and that it prefers no value.
-/

namespace Qualifier

/-- Whether a word is taken for a draw between two bounds. -/
def accepts (least most word : UInt64) : Bool :=
  rangeSize least most = 0 ||
    word.toNat * rangeSize least most % wordCount ≤ acceptedZone (rangeSize least most)

/-- The value that a word stands for, if it is taken. -/
def valueOf (least most word : UInt64) : UInt64 :=
  if rangeSize least most = 0 then word
  else least + UInt64.ofNat (word.toNat * rangeSize least most / wordCount)

/-- The number of words that stand for one value. -/
def share (least most : UInt64) : Nat :=
  if rangeSize least most = 0 then 1 else 2 ^ leadingZeros (rangeSize least most)

/-- In an endless source the `n`-th word is the first one that is taken. -/
structure FirstTaken (least most : UInt64) (source : Nat → UInt64) (n : Nat) : Prop where
  passed : ∀ i < n, accepts least most (source i) = false
  taken : accepts least most (source n) = true

/-! ## Ranges -/

variable {least most value : UInt64}

/-- The range counts the values between the bounds, and wraps if these are all words. -/
theorem rangeSize_eq (h : least ≤ most) :
    rangeSize least most = (most.toNat - least.toNat + 1) % wordCount := by
  have hle : least.toNat ≤ most.toNat := UInt64.le_iff_toNat_le.mp h
  unfold rangeSize wordCount
  omega

theorem rangeSize_of_ne_zero (h : least ≤ most) (hrange : rangeSize least most ≠ 0) :
    rangeSize least most = most.toNat - least.toNat + 1 := by
  have hle : least.toNat ≤ most.toNat := UInt64.le_iff_toNat_le.mp h
  have hlt : most.toNat < 2 ^ 64 := most.toNat_lt
  rw [rangeSize_eq h] at hrange ⊢
  unfold wordCount at hrange ⊢
  omega

/-- Only the bounds that leave out no word have a range that wraps. -/
theorem bounds_of_rangeSize_eq_zero (h : least ≤ most) (hrange : rangeSize least most = 0) :
    least.toNat = 0 ∧ most.toNat + 1 = wordCount := by
  have hle : least.toNat ≤ most.toNat := UInt64.le_iff_toNat_le.mp h
  have hlt : most.toNat < 2 ^ 64 := most.toNat_lt
  rw [rangeSize_eq h] at hrange
  unfold wordCount at hrange ⊢
  omega

/-- Shifted by its leading zeros, a range takes up the last bit of a word and no more. -/
theorem stretch_length {range : Nat} (hrange : range ≠ 0) (hlt : range < wordCount) :
    0 < range * 2 ^ leadingZeros range ∧ range * 2 ^ leadingZeros range < wordCount := by
  have hpos : 0 < range := Nat.pos_of_ne_zero hrange
  have hlog : range.log2 < 64 := (Nat.log2_lt hrange).mpr hlt
  refine ⟨Nat.mul_pos hpos (Nat.two_pow_pos _), ?_⟩
  have htop : range < 2 ^ (range.log2 + 1) := Nat.lt_log2_self
  calc range * 2 ^ leadingZeros range
      = range * 2 ^ (63 - range.log2) := by rw [leadingZeros, if_neg hrange]
    _ < 2 ^ (range.log2 + 1) * 2 ^ (63 - range.log2) :=
        Nat.mul_lt_mul_of_pos_right htop (Nat.two_pow_pos _)
    _ = 2 ^ (range.log2 + 1 + (63 - range.log2)) := (Nat.pow_add 2 _ _).symm
    _ = wordCount := by
        rw [show range.log2 + 1 + (63 - range.log2) = 64 by omega]
        rfl

/-- The accepted zone ends where the stretch does. -/
theorem acceptedZone_eq {range : Nat} (hrange : range ≠ 0) (hlt : range < wordCount) :
    acceptedZone range = range * 2 ^ leadingZeros range - 1 := by
  have hlength := stretch_length hrange hlt
  unfold acceptedZone
  rw [Nat.shiftLeft_eq]
  generalize range * 2 ^ leadingZeros range = length at hlength ⊢
  unfold wordCount at hlength ⊢
  omega

/-! ## Words and values -/

/-- A word whose product with the range is zero is taken, whatever the bounds. -/
theorem accepts_zero (least most : UInt64) : accepts least most 0 = true := by
  simp [accepts]

/-- A word that is taken stands for a value between the bounds. -/
theorem valueOf_mem (h : least ≤ most) (word : UInt64) :
    least ≤ valueOf least most word ∧ valueOf least most word ≤ most := by
  have hle : least.toNat ≤ most.toNat := UInt64.le_iff_toNat_le.mp h
  have hword : word.toNat < wordCount := word.toNat_lt
  have hmost : most.toNat < wordCount := most.toNat_lt
  simp only [UInt64.le_iff_toNat_le, valueOf]
  by_cases hrange : rangeSize least most = 0
  · have hbounds := bounds_of_rangeSize_eq_zero h hrange
    rw [if_pos hrange]
    omega
  · -- The high half of the product is below the range, so the sum does not wrap.
    have hsize := rangeSize_of_ne_zero h hrange
    have hhigh : word.toNat * rangeSize least most / wordCount < rangeSize least most := by
      refine Nat.div_lt_of_lt_mul ?_
      exact Nat.mul_lt_mul_of_pos_right hword (Nat.pos_of_ne_zero hrange)
    rw [if_neg hrange, UInt64.toNat_add, UInt64.toNat_ofNat']
    generalize word.toNat * rangeSize least most / wordCount = high at hhigh ⊢
    unfold wordCount at hmost
    omega

/-- The words that stand for a value are those whose product with the range lies in the
    stretch of that value. -/
theorem accepts_valueOf_iff (h : least ≤ most) (hrange : rangeSize least most ≠ 0)
    (hleast : least ≤ value) (hmost : value ≤ most) (word : UInt64) :
    accepts least most word = true ∧ valueOf least most word = value ↔
      (value.toNat - least.toNat) * wordCount ≤ word.toNat * rangeSize least most ∧
        word.toNat * rangeSize least most <
          (value.toNat - least.toNat) * wordCount +
            rangeSize least most * 2 ^ leadingZeros (rangeSize least most) := by
  have hsize := rangeSize_of_ne_zero h hrange
  have hlo : least.toNat ≤ value.toNat := UInt64.le_iff_toNat_le.mp hleast
  have hhi : value.toNat ≤ most.toNat := UInt64.le_iff_toNat_le.mp hmost
  have htop : most.toNat < wordCount := most.toNat_lt
  have hword : word.toNat < wordCount := word.toNat_lt
  have hlt : rangeSize least most < wordCount := by
    rw [rangeSize_eq h]
    exact Nat.mod_lt _ (by decide)
  have hlength := stretch_length hrange hlt
  have hhigh : word.toNat * rangeSize least most / wordCount < rangeSize least most := by
    refine Nat.div_lt_of_lt_mul ?_
    exact Nat.mul_lt_mul_of_pos_right hword (Nat.pos_of_ne_zero hrange)
  simp only [accepts, valueOf, hrange, acceptedZone_eq hrange hlt, if_false, decide_false,
    Bool.false_or, decide_eq_true_eq, ← UInt64.toNat_inj, UInt64.toNat_add, UInt64.toNat_ofNat']
  -- From here on it is about the two halves of one product.
  generalize rangeSize least most * 2 ^ leadingZeros (rangeSize least most) = length at hlength ⊢
  generalize word.toNat * rangeSize least most = product at hhigh ⊢
  unfold wordCount at *
  omega

/-! ## Counting -/

/-- A stretch whose length is `count` times a step holds `count` multiples of the step,
    wherever it begins. -/
theorem ncard_multiples {step : Nat} (hstep : 0 < step) (start count : Nat) :
    {n : Nat | start ≤ n * step ∧ n * step < start + step * count}.ncard = count := by
  let first := (start + step - 1) / step
  -- The multiples from some number on are those from its quotient, rounded up, on.
  have hfrom : ∀ bound n, bound ≤ n * step ↔ (bound + step - 1) / step ≤ n := by
    intro bound n
    rw [Nat.div_le_iff_le_mul_add_pred hstep, Nat.mul_comm step n]
    omega
  have hlast : (start + step * count + step - 1) / step = first + count := by
    rw [show start + step * count + step - 1 = start + step - 1 + step * count by omega,
      Nat.add_mul_div_left _ _ hstep]
  have hset : {n : Nat | start ≤ n * step ∧ n * step < start + step * count}
      = (Finset.Ico first (first + count) : Set Nat) := by
    ext n
    have hlow := hfrom start n
    have hhigh := hfrom (start + step * count) n
    rw [hlast] at hhigh
    simp only [Set.mem_ofPred_eq, Finset.coe_Ico, Set.mem_Ico]
    omega
  rw [hset, Set.ncard_coe_finset, Nat.card_Ico, Nat.add_sub_cancel_left]

/-- Each value between the bounds has its share of the words, no more and no less. -/
theorem ncard_valueOf (h : least ≤ most) (hleast : least ≤ value) (hmost : value ≤ most) :
    {word | accepts least most word = true ∧ valueOf least most word = value}.ncard
      = share least most := by
  by_cases hrange : rangeSize least most = 0
  · -- Every word is taken and stands for itself.
    have hself : {word | accepts least most word = true ∧ valueOf least most word = value}
        = {value} := by
      ext word
      simp [accepts, valueOf, hrange]
    rw [hself, Set.ncard_singleton, share, if_pos hrange]
  have hlt : rangeSize least most < wordCount := by
    rw [rangeSize_eq h]
    exact Nat.mod_lt _ (by decide)
  have hinj : Function.Injective UInt64.toNat := fun _ _ hsame => UInt64.toNat_inj.mp hsame
  rw [← Set.ncard_image_of_injective _ hinj, share, if_neg hrange,
    ← ncard_multiples (Nat.pos_of_ne_zero hrange) ((value.toNat - least.toNat) * wordCount)
      (2 ^ leadingZeros (rangeSize least most))]
  congr 1
  ext n
  simp only [Set.mem_image, Set.mem_ofPred_eq, accepts_valueOf_iff h hrange hleast hmost]
  constructor
  · rintro ⟨word, hstretch, rfl⟩
    exact hstretch
  · rintro ⟨hlow, hhigh⟩
    -- The last stretch ends below `range * wordCount`, so the multiplier is a word.
    have hlo : least.toNat ≤ value.toNat := UInt64.le_iff_toNat_le.mp hleast
    have hhi : value.toNat ≤ most.toNat := UInt64.le_iff_toNat_le.mp hmost
    have hword : n < wordCount := by
      have hlength := (stretch_length hrange hlt).2
      have hsize := rangeSize_of_ne_zero h hrange
      have hend : n * rangeSize least most < rangeSize least most * wordCount := by
        calc n * rangeSize least most
            < (value.toNat - least.toNat) * wordCount + wordCount := by omega
          _ = (value.toNat - least.toNat + 1) * wordCount := (Nat.succ_mul _ _).symm
          _ ≤ rangeSize least most * wordCount := Nat.mul_le_mul_right _ (by omega)
      rw [Nat.mul_comm (rangeSize least most)] at hend
      exact Nat.lt_of_mul_lt_mul_right hend
    exact ⟨UInt64.ofNat n, by rw [UInt64.toNat_ofNat_of_lt' hword]; exact ⟨hlow, hhigh⟩,
      UInt64.toNat_ofNat_of_lt' hword⟩

/-! ## Draws -/

theorem drawBetween_cons (least most word : UInt64) (rest : List UInt64) :
    drawBetween least most (word :: rest) =
      if accepts least most word = true then (valueOf least most word, rest)
      else drawBetween least most rest := by
  rw [drawBetween]
  by_cases hrange : rangeSize least most = 0
  · simp [accepts, valueOf, hrange]
  · simp [accepts, valueOf, hrange]

/-- A draw is the value of the first word that is taken, from words that are followed by
    zeros without end. -/
theorem drawBetween_firstTaken (h : least ≤ most) (words : List UInt64) :
    ∃ n, FirstTaken least most (words.getD · 0) n ∧
      drawBetween least most words
        = (valueOf least most (words.getD n 0), words.drop (n + 1)) := by
  induction words with
  | nil =>
      refine ⟨0, ⟨fun i hi => absurd hi (Nat.not_lt_zero i), accepts_zero least most⟩, ?_⟩
      have hzero : valueOf least most 0 = least := by
        by_cases hrange : rangeSize least most = 0
        · have hleast := (bounds_of_rangeSize_eq_zero h hrange).1
          simpa [valueOf, hrange] using (UInt64.toNat_inj.mp hleast).symm
        · simp [valueOf, hrange]
      simp [drawBetween, hzero]
  | cons word rest ih =>
      rw [drawBetween_cons]
      by_cases htaken : accepts least most word = true
      · rw [if_pos htaken]
        exact ⟨0, ⟨fun i hi => absurd hi (Nat.not_lt_zero i), htaken⟩, rfl⟩
      · rw [if_neg htaken]
        rcases ih with ⟨n, ⟨hpassed, hn⟩, hdraw⟩
        refine ⟨n + 1, ⟨?_, hn⟩, hdraw⟩
        intro i hi
        cases i with
        | zero => exact Bool.eq_false_iff.mpr htaken
        | succ i => exact hpassed i (Nat.lt_of_succ_lt_succ hi)

/-- There is only one first word that is taken. -/
theorem FirstTaken.unique {source : Nat → UInt64} {n m : Nat}
    (h : FirstTaken least most source n) (h' : FirstTaken least most source m) : n = m := by
  have hle : ∀ {i j : Nat}, FirstTaken least most source i → FirstTaken least most source j →
      i ≤ j := by
    intro i j hi hj
    by_contra hlt
    have hpassed := hi.passed j (Nat.lt_of_not_le hlt)
    exact absurd (hpassed.symm.trans hj.taken) Bool.false_ne_true
  exact Nat.le_antisymm (hle h h') (hle h' h)

/-- What is drawn is a whole number of seconds between the bounds. -/
theorem jitter_mem {p : Policy} (h : p.least.seconds ≤ p.most.seconds) (words : List UInt64) :
    (p.jitter words).1.nanos = 0 ∧ p.least.seconds ≤ (p.jitter words).1.seconds ∧
      (p.jitter words).1.seconds ≤ p.most.seconds := by
  rcases drawBetween_firstTaken h words with ⟨n, -, hdraw⟩
  simp only [Policy.jitter, hdraw]
  exact ⟨rfl, valueOf_mem h _⟩

/-- A source that ends in zeros has the words of a list, and then zeros. -/
theorem exists_words {source : Nat → UInt64} (h : ∃ n, ∀ i, n ≤ i → source i = 0) :
    ∃ words : List UInt64, source = (words.getD · 0) := by
  rcases h with ⟨n, hzeros⟩
  refine ⟨(List.range n).map source, funext fun i => ?_⟩
  by_cases hi : i < n
  · simp [hi]
  · simp [hi, hzeros i (Nat.le_of_not_lt hi)]

/-- Under every policy that can be had there is something to draw, and what is drawn is a
    whole number of seconds between the bounds, whatever the source. A draw from a source
    that ends in zeros comes to an end, with the first word that is taken. Of all words the
    same number stands for each of the values, also where there is only one value, or where
    no word is left out. -/
theorem jitter_fair (p : Policy) (hp : p.Built) :
    p.least.seconds ≤ p.most.seconds ∧
      (∀ source n, FirstTaken p.least.seconds p.most.seconds source n →
        p.least.seconds ≤ valueOf p.least.seconds p.most.seconds (source n) ∧
          valueOf p.least.seconds p.most.seconds (source n) ≤ p.most.seconds) ∧
      (∀ words, (p.jitter words).1.nanos = 0 ∧ p.least.seconds ≤ (p.jitter words).1.seconds ∧
        (p.jitter words).1.seconds ≤ p.most.seconds) ∧
      (∀ source : Nat → UInt64, (∃ n, ∀ i, n ≤ i → source i = 0) →
        (∃ words : List UInt64, source = (words.getD · 0)) ∧
          ∃ n, FirstTaken p.least.seconds p.most.seconds source n ∧
            ∀ words : List UInt64, source = (words.getD · 0) →
              p.jitter words = (.ofSeconds (valueOf p.least.seconds p.most.seconds (source n)),
                words.drop (n + 1))) ∧
      0 < share p.least.seconds p.most.seconds ∧
      ∀ value, p.least.seconds ≤ value → value ≤ p.most.seconds →
        {word | accepts p.least.seconds p.most.seconds word = true ∧
          valueOf p.least.seconds p.most.seconds word = value}.ncard
            = share p.least.seconds p.most.seconds := by
  have hle := hp.least_le_most
  refine ⟨hle, fun source n _ => valueOf_mem hle (source n), jitter_mem hle, ?_, ?_,
    fun value => ncard_valueOf hle⟩
  · intro source hzeros
    rcases exists_words hzeros with ⟨words, hwords⟩
    rcases drawBetween_firstTaken hle words with ⟨n, hfirst, -⟩
    rw [← hwords] at hfirst
    refine ⟨⟨words, hwords⟩, n, hfirst, ?_⟩
    -- The same source may be written down with more of its zeros or with fewer.
    rintro other rfl
    rcases drawBetween_firstTaken hle other with ⟨m, hother, hdraw⟩
    obtain rfl := hother.unique hfirst
    simp only [Policy.jitter, hdraw]
  · unfold share
    split
    · exact Nat.one_pos
    · exact Nat.two_pow_pos _

/-- Where both bounds are the same, half of the words stand for the one value there is;
    where they leave out no word, each word stands for a value of its own. -/
theorem jitter_fair_extremes :
    Policy.Built ⟨⟨4, 7⟩, ⟨4, 0⟩, 1⟩ ∧
      {word | accepts 4 4 word = true ∧ valueOf 4 4 word = 4}.ncard = 2 ^ 63 ∧
      Policy.Built ⟨⟨0, 0⟩, ⟨0xFFFFFFFFFFFFFFFF, 5⟩, 1⟩ ∧
      {word | accepts 0 0xFFFFFFFFFFFFFFFF word = true ∧
        valueOf 0 0xFFFFFFFFFFFFFFFF word = 12}.ncard = 1 := by
  have hnarrow : Policy.Built ⟨⟨4, 7⟩, ⟨4, 0⟩, 1⟩ :=
    .ofCycles (Policy.ofCycles?_ok_iff.mpr ⟨by decide, by decide, rfl⟩)
  have hwide : Policy.Built ⟨⟨0, 0⟩, ⟨0xFFFFFFFFFFFFFFFF, 5⟩, 1⟩ :=
    .ofCycles (Policy.ofCycles?_ok_iff.mpr ⟨by decide, by decide, rfl⟩)
  have hone := (jitter_fair _ hnarrow).2.2.2.2.2 4 (by decide) (by decide)
  have hall := (jitter_fair _ hwide).2.2.2.2.2 12 (by decide) (by decide)
  have hhalf : share 4 4 = 2 ^ 63 := by decide +kernel
  have hself : share 0 0xFFFFFFFFFFFFFFFF = 1 := by decide +kernel
  exact ⟨hnarrow, hone.trans hhalf, hwide, hall.trans hself⟩

end Qualifier
