/-!
# Reading UTF-8

Bytes become text in two ways. A file is text only if all of it is well formed;
the output of a command always is, each stretch of bytes that could not be
completed being shown as one replacement character.

## Main definitions

* `Pending`: A character of which some bytes have been read.
* `lossyFrom`, `lossy`: The text of any bytes whatever.
* `strict?`: The text of well-formed bytes.
-/

namespace Qualifier

namespace Text

/-- A character of which the first bytes have been read: their bits, the range
    the next byte has to lie in, and how many more follow that one. -/
structure Pending where
  bits : Nat
  low : UInt8
  high : UInt8
  more : Nat
deriving DecidableEq, Repr

/-- What a byte means where a character may begin. -/
inductive Lead where
  | whole (c : Char)
  | opened (p : Pending)
  | broken
deriving DecidableEq, Repr

/-- The meaning of a byte where a character may begin. The ranges keep out
    overlong forms, surrogates and numbers above the last code point. -/
def Lead.ofByte (b : UInt8) : Lead :=
  let n := b.toNat
  if n < 0x80 then .whole (Char.ofNat n)
  -- A byte below 0xC2 continues a character or would start an overlong form.
  else if n < 0xC2 then .broken
  else if n < 0xE0 then .opened ⟨n - 0xC0, 0x80, 0xBF, 0⟩
  else if n = 0xE0 then .opened ⟨0, 0xA0, 0xBF, 1⟩
  else if n = 0xED then .opened ⟨0xD, 0x80, 0x9F, 1⟩
  else if n < 0xF0 then .opened ⟨n - 0xE0, 0x80, 0xBF, 1⟩
  else if n = 0xF0 then .opened ⟨0, 0x90, 0xBF, 2⟩
  else if n < 0xF4 then .opened ⟨n - 0xF0, 0x80, 0xBF, 2⟩
  else if n = 0xF4 then .opened ⟨4, 0x80, 0x8F, 2⟩
  else .broken

/-- The character that stands for bytes which form none. -/
def replacement : Char := '\uFFFD'

/-- Reads on where `pending` tells what has been read of the current character. A
    byte that does not continue it ends it and is looked at afresh. -/
def lossyFrom : Option Pending → List UInt8 → List Char
  | none, [] => []
  | some _, [] => [replacement]
  | none, b :: bs =>
    match Lead.ofByte b with
    | .whole c => c :: lossyFrom none bs
    | .opened p => lossyFrom (some p) bs
    | .broken => replacement :: lossyFrom none bs
  | some p, b :: bs =>
    if p.low ≤ b ∧ b ≤ p.high then
      let bits := p.bits * 64 + (b.toNat - 0x80)
      match p.more with
      | 0 => Char.ofNat bits :: lossyFrom none bs
      | more + 1 => lossyFrom (some ⟨bits, 0x80, 0xBF, more⟩) bs
    else
      -- The stretch before `b` is over; `b` may be the start of a character of its own.
      replacement ::
        match Lead.ofByte b with
        | .whole c => c :: lossyFrom none bs
        | .opened p => lossyFrom (some p) bs
        | .broken => replacement :: lossyFrom none bs

/-- The text of any bytes, with one replacement character for each stretch that
    starts a character and does not finish it. -/
def lossy (bytes : ByteArray) : String :=
  String.ofList (lossyFrom none bytes.toList)

/-- The text of well-formed bytes; nothing for any others. -/
def strict? (bytes : ByteArray) : Option String :=
  String.fromUTF8? bytes

end Text

end Qualifier
