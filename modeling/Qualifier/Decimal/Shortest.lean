/-!
# Shortest Decimals

The fewest decimal digits that still name one floating-point number. A finite
number is `m * 2 ^ q`; the reals that round to it form an interval around it, and
the shortest decimal is the nearest point of the coarsest decimal grid that has a
point in that interval. All arithmetic is on natural numbers.

## Main definitions

* `Binary`: A positive finite number as `m * 2 ^ q`.
* `Interval`: The numbers that round to it, scaled to integers.
* `shortest`: The digits and the power of ten.
* `layout`: The text, positional near one and with an exponent elsewhere.
-/

namespace Qualifier

namespace Decimal

/-- A positive number `m * 2 ^ (q - 1074)`; `narrow` says that its lower neighbour is
    only half as far away as its upper one. -/
structure Binary where
  m : Nat
  q : Nat
  narrow : Bool
deriving Repr

/-- A power of two. -/
def twos (n : Nat) : Nat :=
  1 <<< n

/-- A power of ten. -/
def tens (n : Nat) : Nat :=
  Nat.pow 10 n

/-- Reads the fields of a positive finite number in the double format. -/
def Binary.ofBits (bits : UInt64) : Binary :=
  let fraction := bits.toNat % twos 52
  let exponent := bits.toNat / twos 52 % twos 11
  -- Subnormal numbers have no hidden leading bit.
  if exponent = 0 then ⟨fraction, 0, false⟩
  else ⟨twos 52 + fraction, exponent - 1, fraction == 0 && exponent > 1⟩

/-- The value and the two ends of what rounds to it, as numerators over one
    denominator; whether the ends belong to it. -/
structure Interval where
  low : Nat
  value : Nat
  high : Nat
  denominator : Nat
  closed : Bool
deriving Repr

/-- The interval of a binary number. Everything is multiplied by four, so that the
    halfway points are integers. -/
def Binary.interval (b : Binary) : Interval :=
  let scale := twos b.q
  { low := (4 * b.m - if b.narrow then 1 else 2) * scale
    value := 4 * b.m * scale
    high := (4 * b.m + 2) * scale
    denominator := 4 * twos 1074
    closed := b.m % 2 == 0 }

/-- Whether the decimal `digits * 10 ^ power` lies in the interval. -/
def Interval.has (i : Interval) (digits : Nat) (power : Int) : Bool :=
  let (num, den) :=
    if power < 0 then (digits * i.denominator, tens power.natAbs)
    else (digits * i.denominator * tens power.natAbs, 1)
  if i.closed then i.low * den ≤ num && num ≤ i.high * den
  else i.low * den < num && num < i.high * den

/-- The two neighbours of the value on the grid of multiples of `10 ^ power`, the
    nearer one first; of two equally near ones the even one. -/
def Interval.neighbours (i : Interval) (power : Int) : List Nat :=
  let (num, den) :=
    if power < 0 then (i.value * tens power.natAbs, i.denominator)
    else (i.value, i.denominator * tens power.natAbs)
  let down := num / den
  let rest := num % den
  -- `rest / den` is the part of a grid step by which the value lies above `down`.
  if 2 * rest < den || (2 * rest == den && down % 2 == 0) then [down, down + 1]
  else [down + 1, down]

/-- The power of ten of the leading digit of a positive number. -/
def Interval.leadingPower (i : Interval) : Int :=
  if i.denominator ≤ i.value then
    ((Nat.toDigits 10 (i.value / i.denominator)).length : Int) - 1
  else
    let places := (Nat.toDigits 10 ((i.denominator - 1) / i.value)).length
    0 - (places : Int)

/-- Tries grids from the coarsest on: `count` digits, then one more, at most
    `tries` times. -/
def Interval.search (i : Interval) (leading : Int) : (tries count : Nat) → Nat × Int
  | 0, _ => (0, 0)
  | tries + 1, count =>
    let power := leading - (count : Int) + 1
    match (i.neighbours power).find? (i.has · power) with
    | some digits => (digits, power)
    | none => i.search leading tries (count + 1)

/-- Drops the zeros at the end of the digits, raising the power instead. -/
def dropZeros : (fuel digits : Nat) → (power : Int) → Nat × Int
  | 0, digits, power => (digits, power)
  | fuel + 1, digits, power =>
    if digits ≠ 0 ∧ digits % 10 = 0 then dropZeros fuel (digits / 10) (power + 1)
    else (digits, power)

/-- The shortest decimal that reads back as the number, as digits and a power of
    ten. Seventeen digits always suffice. -/
def shortest (b : Binary) : Nat × Int :=
  let i := b.interval
  let (digits, power) := i.search i.leadingPower 18 1
  dropZeros 20 digits power

/-- The sign and the digits of an exponent. -/
def exponentText (n : Int) : List Char :=
  if n < 0 then (toString n).toList else '+' :: (toString n).toList

/-- The text of a decimal: positional if the point falls within the first sixteen
    digits or at most five places before them, otherwise one digit, the fraction
    if there is one, and the exponent. -/
def layout (digits : Nat) (power : Int) : String :=
  let ds := Nat.toDigits 10 digits
  let point := (ds.length : Int) + power
  let zeros (n : Nat) := List.replicate n '0'
  String.ofList <|
    if 0 ≤ power ∧ point ≤ 16 then ds ++ zeros power.toNat ++ ['.', '0']
    else if 0 < point ∧ point ≤ 16 then ds.take point.toNat ++ '.' :: ds.drop point.toNat
    else if -5 < point ∧ point ≤ 0 then ['0', '.'] ++ zeros (-point).toNat ++ ds
    else
      let mantissa := match ds with
        | [] => ['0']
        | [d] => [d]
        | d :: rest => d :: '.' :: rest
      mantissa ++ 'e' :: exponentText (point - 1)

/-- The shortest text of a finite floating-point number. -/
def text (x : Float) : String :=
  let bits := x.toBits
  let negative := bits.toNat / twos 63 == 1
  let magnitude := bits.toNat % twos 63
  let body :=
    if magnitude = 0 then "0.0"
    else
      let (digits, power) := shortest (Binary.ofBits (UInt64.ofNat magnitude))
      layout digits power
  -- The sign is a bit of its own, so a negative zero keeps it.
  if negative then "-" ++ body else body

end Decimal

end Qualifier
