/-!
# Bytes Written in Base 64

Four characters stand for three bytes. Where the last group holds fewer bytes, it is
filled up with equals signs, and the bits that are left over are zero, so that any
bytes have one written form.

## Main definitions

* `sixBits?`: What a character stands for.
* `ofBase64?`: The bytes of a text.
-/

namespace Qualifier

namespace Text

/-- The six bits that a character stands for. -/
def sixBits? (c : Char) : Option Nat :=
  if 'A' ≤ c ∧ c ≤ 'Z' then some (c.toNat - 65)
  else if 'a' ≤ c ∧ c ≤ 'z' then some (c.toNat - 97 + 26)
  else if '0' ≤ c ∧ c ≤ '9' then some (c.toNat - 48 + 52)
  else if c = '+' then some 62
  else if c = '/' then some 63
  else none

/-- The bytes of groups of six bits each. The last group may hold less than three
    bytes, and its other bits are zero then. -/
def groupedBytes? : List Nat → Option (List UInt8)
  | a :: b :: c :: d :: rest => do
    let bytes ← groupedBytes? rest
    some (.ofNat (4 * a + b / 16) :: .ofNat (b % 16 * 16 + c / 4) :: .ofNat (c % 4 * 64 + d) ::
      bytes)
  | [a, b, c] =>
    if c % 4 = 0 then some [.ofNat (4 * a + b / 16), .ofNat (b % 16 * 16 + c / 4)] else none
  | [a, b] => if b % 16 = 0 then some [.ofNat (4 * a + b / 16)] else none
  | [_] => none
  | [] => some []

/-- The bytes of a text in base 64. -/
def ofBase64? (cs : List Char) : Option (List UInt8) := do
  let body := cs.takeWhile (· != '=')
  let filling := cs.drop body.length
  -- What fills the last group up is all that may follow.
  if cs.length % 4 ≠ 0 || 2 < filling.length || filling.any (· != '=') then none
  groupedBytes? (← body.mapM sixBits?)

end Text

end Qualifier
