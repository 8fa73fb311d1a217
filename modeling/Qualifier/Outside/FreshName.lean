/-!
# Fresh Names

Names that nobody has used yet, made of random bytes in the form of a random
universal identifier: thirty-two hexadecimal digits in five groups, of which one
tells the version and one the variant.

## Main definitions

* `identifier`: The identifier of sixteen bytes.
-/

namespace Qualifier

namespace FreshName

/-- A byte as two hexadecimal digits. -/
def hexByte (n : Nat) : List Char :=
  [Nat.digitChar (n / 16), Nat.digitChar (n % 16)]

/-- The bytes with the version and the variant put in. -/
def marked (bytes : List Nat) : List Nat :=
  bytes.mapIdx fun i b =>
    if i = 6 then 0x40 + b % 16 else if i = 8 then 0x80 + b % 64 else b

/-- The identifier of sixteen bytes. -/
def identifier (bytes : List UInt8) : String :=
  let digits := (marked (bytes.map UInt8.toNat)).flatMap hexByte
  String.ofList (digits.take 8 ++ '-' :: (digits.drop 8).take 4 ++ '-' ::
    (digits.drop 12).take 4 ++ '-' :: (digits.drop 16).take 4 ++ '-' :: digits.drop 20)

end FreshName

end Qualifier
