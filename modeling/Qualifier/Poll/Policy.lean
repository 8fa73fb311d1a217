import Qualifier.Span

/-!
# Poll Policies

How often a run is looked at and how long to wait in between. The waits are drawn
at random between two bounds, in whole seconds; the number of looks is given, or
follows from a ceiling on the whole time.

A draw takes words from a random source until one is accepted. A word `v` is spread
over the range by taking the high half of `v * range`; it is rejected when the low
half lies above a zone that is a multiple of the range, which leaves each value the
same number of words. The source is a list of words with zeros after it, and a zero
is always accepted, so a draw ends.

## Main definitions

* `PolicyError`: Bounds that leave nothing to do.
* `Policy`: The bounds and the number of looks.
* `Policy.ofCycles?`, `Policy.ofCeiling?`, `Policy.standard`: The ways to get one.
* `wordCount`: The number of words of a random source.
* `drawBetween`: One draw of a whole number of seconds.
* `Policy.jitter`: One draw of a wait.
* `Cycle`, `Cycle.advance?`: A budget of looks, and taking one of them.

## Theorems

* `Cycle.advance?_eq_some`: The number of a look never leaves the budget.
-/

namespace Qualifier

/-- Why bounds make no policy. -/
inductive PolicyError where
  | invertedBackoff (least most : UInt64)
  | emptyBudget (ceiling most : UInt64)
deriving DecidableEq, Repr

/-- The wording of a policy error. -/
def PolicyError.message : PolicyError → String
  | .invertedBackoff least most =>
    "backoff minimum " ++ toString least.toNat ++ "s exceeds maximum " ++
      toString most.toNat ++ "s"
  | .emptyBudget ceiling most =>
    "run ceiling " ++ toString ceiling.toNat ++ "s allows no polls at a " ++
      toString most.toNat ++ "s backoff"

/-- How long to wait before each look, and how many looks there are. -/
structure Policy where
  least : Span
  most : Span
  cycles : UInt64
deriving DecidableEq, Repr

namespace Policy

/-- The policy used where nothing is configured. -/
def standard : Policy :=
  ⟨.ofSeconds 5, .ofSeconds 10, 360⟩

/-- A policy with a given number of looks. Only whole seconds are compared. -/
def ofCycles? (least most : Span) (cycles : UInt64) : Except PolicyError Policy :=
  if most.seconds < least.seconds then .error (.invertedBackoff least.seconds most.seconds)
  -- No ceiling is known here, so the complaint names none.
  else if cycles = 0 then .error (.emptyBudget 0 most.seconds)
  else .ok ⟨least, most, cycles⟩

/-- A policy with as many looks as fit under a ceiling if every wait is the longest
    one. -/
def ofCeiling? (least most ceiling : Span) : Except PolicyError Policy :=
  let cycles := if most.seconds = 0 then 0 else ceiling.seconds / most.seconds
  if cycles = 0 then .error (.emptyBudget ceiling.seconds most.seconds)
  else ofCycles? least most cycles

end Policy

/-- The number of zero bits before the first one in a word. -/
def leadingZeros (n : Nat) : Nat :=
  if n = 0 then 64 else 63 - n.log2

/-- The number of words a random source has. -/
def wordCount : Nat := 0x10000000000000000

/-- The number of values between two bounds as a word; zero stands for all of them. -/
def rangeSize (least most : UInt64) : Nat :=
  (most.toNat + wordCount - least.toNat + 1) % wordCount

/-- The highest low half that is accepted for a range. -/
def acceptedZone (range : Nat) : Nat :=
  (range <<< leadingZeros range + wordCount - 1) % wordCount

/-- Takes words until one is accepted; the words left over follow the value. -/
def drawBetween (least most : UInt64) : List UInt64 → UInt64 × List UInt64
  | [] => (least, [])
  | word :: rest =>
    let range := rangeSize least most
    -- A range of all words wraps to zero, and then every word is a value.
    if range = 0 then (word, rest)
    else
      let product := word.toNat * range
      if product % wordCount ≤ acceptedZone range then
        (least + UInt64.ofNat (product / wordCount), rest)
      else drawBetween least most rest

/-- Draws a wait: a whole number of seconds between the bounds. -/
def Policy.jitter (p : Policy) (words : List UInt64) : Span × List UInt64 :=
  let (seconds, rest) := drawBetween p.least.seconds p.most.seconds words
  (.ofSeconds seconds, rest)

/-- Draws waits until the words are used up, at most `fuel` of them. -/
def Policy.jitters (p : Policy) : (fuel : Nat) → List UInt64 → List Span
  | 0, _ => []
  | _, [] => []
  | fuel + 1, words =>
    let (span, rest) := p.jitter words
    span :: p.jitters fuel rest

/-- A budget of looks: how many were taken, and how many may be taken in all. -/
structure Cycle where
  taken : UInt64
  limit : UInt64
deriving DecidableEq, Repr

namespace Cycle

/-- A budget of which nothing is used yet. -/
def ofBudget (budget : Nat) : Cycle :=
  ⟨0, UInt64.ofNat budget⟩

/-- How many looks were taken. -/
def count (c : Cycle) : Nat :=
  c.taken.toNat

/-- How many are left. -/
def left (c : Cycle) : Nat :=
  c.limit.toNat - c.taken.toNat

/-- Takes one look, if there is one left; tells its number. -/
def advance? (c : Cycle) : Option (Nat × Cycle) :=
  if c.limit ≤ c.taken then none
  else
    let next : Cycle := { c with taken := c.taken + 1 }
    some (next.count, next)

theorem advance?_eq_none_iff (c : Cycle) : c.advance? = none ↔ c.left = 0 := by
  simp [advance?, left, UInt64.le_iff_toNat_le, Nat.sub_eq_zero_iff_le]

/-- The number of a look is one more than that of the last one. It stays within the budget, so
    there is always a word for it. -/
theorem advance?_eq_some {c next : Cycle} {number : Nat}
    (h : c.advance? = some (number, next)) :
    number = c.count + 1 ∧ next.count = number ∧ c.left = next.left + 1 ∧
      next.limit = c.limit := by
  unfold advance? at h
  by_cases hspent : c.limit ≤ c.taken
  · rw [if_pos hspent] at h
    exact absurd h (by simp)
  rw [if_neg hspent, Option.some.injEq, Prod.mk.injEq] at h
  rcases h with ⟨rfl, rfl⟩
  have hlt : c.taken.toNat < c.limit.toNat := UInt64.lt_iff_toNat_lt.mp (UInt64.not_le.mp hspent)
  have hword := c.limit.toNat_lt
  have hnext : (c.taken + 1).toNat = c.taken.toNat + 1 := by
    rw [UInt64.toNat_add, UInt64.toNat_one]
    exact Nat.mod_eq_of_lt (by omega)
  refine ⟨hnext, rfl, ?_, rfl⟩
  simp only [left, hnext]
  omega

end Cycle

end Qualifier
