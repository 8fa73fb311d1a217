import Qualifier.Decimal.Shortest

/-!
# Decimals That Are Too Large

Whether a decimal has a floating-point number at all. From half a step above the
largest finite number on, everything would be rounded to infinity.

## Main definitions

* `isTooLarge`: Whether a decimal lies there.
* `ofWritten`: The decimal that a numeral is written as.
-/

namespace Qualifier

namespace Decimal

/-- The least number that is rounded to infinity: the largest finite number and half
    of the step below it. -/
def overflow : Nat :=
  (twos 54 - 1) * twos 970

/-- Whether `digits * 10 ^ power` would be rounded to infinity. -/
def isTooLarge (digits : Nat) (power : Int) : Bool :=
  let places := ((Nat.toDigits 10 digits).length : Int) + power
  if digits = 0 then false
  -- Only a number with about as many places as the bound has to be compared with it.
  else if places < 309 then false
  else if 309 < places then true
  else if power < 0 then overflow * tens power.natAbs ≤ digits
  else overflow ≤ digits * tens power.natAbs

/-- The number that decimal digits stand for; other characters do not count. -/
def digitsOf (cs : List Char) : Nat :=
  cs.foldl (fun n c => if c.isDigit then 10 * n + (c.toNat - '0'.toNat) else n) 0

/-- The digits and the power of ten of a numeral: digits, perhaps with a point
    among them, and perhaps an exponent. -/
def ofWritten (cs : List Char) : Nat × Int :=
  let isMark (c : Char) := c == 'e' || c == 'E'
  let body := cs.takeWhile fun c => !isMark c
  let exponent := (cs.dropWhile fun c => !isMark c).drop 1
  let fraction := (body.dropWhile (· != '.')).countP Char.isDigit
  let size : Int := digitsOf exponent
  (digitsOf body, (if exponent.head? == some '-' then -size else size) - (fraction : Int))

/-- Whether a numeral would be rounded to infinity. -/
def isOutOfRange (cs : List Char) : Bool :=
  isTooLarge (ofWritten cs).1 (ofWritten cs).2

end Decimal

end Qualifier
