/-!
# Blank Characters

Which characters count as blank, and the trimming built on them. A field that
consists of blanks only is treated as missing everywhere in this library, and
provider messages, secret references and environment values are trimmed before
they are looked at, so one notion of blank serves them all.

## Main definitions

* `isBlank`: Membership in the Unicode property `White_Space`.
* `trimChars`, `trim`: Removal of blanks at both ends.
-/

namespace Qualifier

namespace Text

/-- The Unicode property `White_Space`. -/
def isBlank (c : Char) : Bool :=
  let n := c.toNat
  (9 ≤ n && n ≤ 13) || n == 0x20 || n == 0x85 || n == 0xA0 || n == 0x1680 ||
    (0x2000 ≤ n && n ≤ 0x200A) || n == 0x2028 || n == 0x2029 || n == 0x202F ||
    n == 0x205F || n == 0x3000

/-- What is left once the leading blanks are gone. -/
def dropBlank (cs : List Char) : List Char :=
  cs.dropWhile isBlank

/-- The characters between the first and the last one that is not blank. -/
def trimChars (cs : List Char) : List Char :=
  (dropBlank (dropBlank cs).reverse).reverse

/-- A text without the blanks at its two ends. -/
def trim (s : String) : String :=
  String.ofList (trimChars s.toList)

end Text

end Qualifier
