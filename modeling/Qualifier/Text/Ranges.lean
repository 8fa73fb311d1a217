/-!
# Ranges of Characters

A property of characters as a table: inclusive ranges of code points, in order and
apart from each other, so that a character is found by halving the table.

## Main definitions

* `Ranges`: The table.
* `Ranges.has`: Whether a character lies in one of the ranges.
-/

namespace Qualifier

namespace Text

/-- Inclusive ranges of code points, in order. -/
abbrev Ranges := Array (Nat × Nat)

/-- Looks for a code point between two positions of a table, halving the stretch
    each time. -/
def Ranges.hasBetween (table : Ranges) (n : Nat) : (fuel lo hi : Nat) → Bool
  | 0, _, _ => false
  | fuel + 1, lo, hi =>
    if hi ≤ lo then false
    else
      -- The ranges are in order, so one comparison leaves half of them.
      let mid := (lo + hi) / 2
      match table[mid]? with
      | none => false
      | some (first, last) =>
        if n < first then Ranges.hasBetween table n fuel lo mid
        else if last < n then Ranges.hasBetween table n fuel (mid + 1) hi
        else true

/-- Whether a character lies in one of the ranges. -/
def Ranges.has (table : Ranges) (c : Char) : Bool :=
  Ranges.hasBetween table c.toNat table.size 0 table.size

end Text

end Qualifier
