import Qualifier.Decimal.Shortest

/-!
# JSON Numerals

A number as it is spelled in a document, and the number it denotes. An integer
that fits a signed or unsigned machine word is that integer; any other numeral is
a floating-point number, built from as many leading digits as fit a word and one
power of ten. A numeral too large for that denotes nothing.

## Main definitions

* `Numeral`: The spelling, split into its parts.
* `Number`: What a numeral denotes.
* `Numeral.value?`: The number denoted, if it is in range.
-/

namespace Qualifier

namespace Json

/-- The spelling of a number: sign, digits before and after the point, and the
    digits of the exponent with its sign. -/
structure Numeral where
  negative : Bool
  whole : List Char
  fraction : Option (List Char)
  exponent : Option (Bool × List Char)
deriving DecidableEq, Repr

/-- What a numeral denotes. -/
inductive Number where
  | unsigned (n : Nat)
  | negated (n : Nat)
  | floating (x : Float)

/-- The value of a decimal digit. -/
def digitValue (c : Char) : Nat :=
  c.toNat - '0'.toNat

/-- The number spelled by decimal digits. -/
def digitsValue (ds : List Char) : Nat :=
  ds.foldl (fun n d => 10 * n + digitValue d) 0

/-- The first number that does not fit a machine word. -/
def wordLimit : Nat := 0x10000000000000000

/-- Takes digits into `n` while the result fits a machine word; returns the
    result and the digits left over. -/
def takeDigits (n : Nat) : List Char → Nat × List Char
  | [] => (n, [])
  | d :: ds =>
    let next := 10 * n + digitValue d
    if next < wordLimit then takeDigits next ds else (n, d :: ds)

/-- Scales by one power of ten after another, each at most `10 ^ 308`. Nothing if
    the result leaves the range upwards. -/
def scale : (fuel : Nat) → Float → Int → Option Float
  | 0, x, _ => some x
  | fuel + 1, x, power =>
    if power.natAbs ≤ 308 then
      let factor := Float.ofScientific 1 false power.natAbs
      let scaled := if 0 ≤ power then x * factor else x / factor
      if 0 ≤ power ∧ scaled.isInf then none else some scaled
    -- Beyond the largest power of ten a number is zero, too large, or still shrinking.
    else if x == 0.0 then some x
    else if 0 ≤ power then none
    else scale fuel (x / Float.ofScientific 1 false 308) (power + 308)

/-- The integer denoted by the digits before the point, when there is nothing else
    and it fits; the exception is a negative zero, which is no integer. -/
def Numeral.integer? (n : Numeral) : Option Number :=
  if n.fraction.isSome || n.exponent.isSome then none
  else
    let magnitude := digitsValue n.whole
    if n.negative then
      if 0 < magnitude ∧ magnitude ≤ wordLimit / 2 then some (.negated magnitude) else none
    else if magnitude < wordLimit then some (.unsigned magnitude)
    else none

/-- The floating-point number denoted, if it is in range. -/
def Numeral.float? (n : Numeral) : Option Float :=
  let (whole, left) := takeDigits 0 n.whole
  -- A digit before the point that did not fit is dropped, but the next one is tried again.
  let (significand, dropped) :=
    match n.fraction with
    | some ds =>
      let (m, rest) := takeDigits whole ds
      (m, (left.length : Int) - ((ds.length - rest.length : Nat) : Int))
    | none => (whole, (left.length : Int))
  let exponent : Int :=
    match n.exponent with
    | none => 0
    | some (negative, ds) =>
      -- No exponent beyond this size leaves anything but zero or an overflow.
      let size := Nat.min (digitsValue ds) 0x80000000
      if negative then 0 - (size : Int) else size
  let magnitude := (UInt64.ofNat significand).toFloat
  let scaled :=
    if significand = 0 then some magnitude
    else scale 8000000 magnitude (dropped + exponent)
  scaled.map fun x => if n.negative then -x else x

/-- The number denoted by a numeral, if it is in range. -/
def Numeral.value? (n : Numeral) : Option Number :=
  match n.integer? with
  | some number => some number
  | none => n.float?.map .floating

/-- The way a number is named in a message. -/
def Number.describe : Number → String
  | .unsigned n => "integer `" ++ toString n ++ "`"
  | .negated n => "integer `-" ++ toString n ++ "`"
  | .floating x => "floating point `" ++ Decimal.text x ++ "`"

end Json

end Qualifier
