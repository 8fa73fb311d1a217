import Qualifier.Json.Node

/-!
# Reading JSON

From characters to a `Document`. Strings are read in two steps: first the escapes
are resolved one by one, then halves of surrogate pairs are put together.

## Main definitions

* `readUnits`, `pairUnits`, `readToken`: A string after its opening quote.
* `readNumeral`: A number.
* `readValue`: A value, with the text after it unless it was cut short.
* `read`: A whole document.
-/

namespace Qualifier

namespace Json

/-- A blank between the tokens of a document. -/
def isSpace (c : Char) : Bool :=
  c == ' ' || c == '\n' || c == '\t' || c == '\r'

/-- The text from the next token on. -/
def skipSpace (cs : List Char) : List Char :=
  cs.dropWhile isSpace

/-- One element of a string: a character, or the code unit an escape names. -/
inductive Unit16 where
  | char (c : Char)
  | unit (n : Nat)
deriving DecidableEq, Repr

/-- The value of a digit in base sixteen. -/
def hexValue? (c : Char) : Option Nat :=
  if '0' ≤ c ∧ c ≤ '9' then some (c.toNat - '0'.toNat)
  else if 'a' ≤ c ∧ c ≤ 'f' then some (c.toNat - 'a'.toNat + 10)
  else if 'A' ≤ c ∧ c ≤ 'F' then some (c.toNat - 'A'.toNat + 10)
  else none

/-- The code unit of four digits in base sixteen. -/
def hexUnit? (a b c d : Char) : Option Nat := do
  return (((← hexValue? a) * 16 + (← hexValue? b)) * 16 + (← hexValue? c)) * 16 + (← hexValue? d)

/-- The character named by the letter after a backslash. -/
def simpleEscape? : Char → Option Char
  | '"' => some '"'
  | '\\' => some '\\'
  | '/' => some '/'
  | 'b' => some '\x08'
  | 'f' => some '\x0c'
  | 'n' => some '\n'
  | 'r' => some '\r'
  | 't' => some '\t'
  | _ => none

/-- The elements of a string up to its closing quote, and the text after that. A
    control character may not stand in a string. -/
def readUnits : List Char → Option (List Unit16 × List Char)
  | [] => none
  | '"' :: rest => some ([], rest)
  | '\\' :: 'u' :: a :: b :: c :: d :: rest => do
    let n ← hexUnit? a b c d
    let (units, left) ← readUnits rest
    return (.unit n :: units, left)
  | '\\' :: e :: rest => do
    let c ← simpleEscape? e
    let (units, left) ← readUnits rest
    return (.char c :: units, left)
  | c :: rest =>
    if c.toNat < 0x20 then none
    else do
      let (units, left) ← readUnits rest
      return (.char c :: units, left)

/-- Whether a code unit is the first half of a surrogate pair. -/
def isLeading (n : Nat) : Bool :=
  0xD800 ≤ n && n < 0xDC00

/-- Whether a code unit is the second half of a surrogate pair. -/
def isTrailing (n : Nat) : Bool :=
  0xDC00 ≤ n && n < 0xE000

/-- Puts halves of surrogate pairs together; tells whether none was left over. -/
def pairUnits : List Unit16 → List Char × Bool
  | [] => ([], true)
  | .char c :: rest =>
    let (cs, paired) := pairUnits rest
    (c :: cs, paired)
  | .unit n :: .unit m :: rest =>
    if isLeading n && isTrailing m then
      let (cs, paired) := pairUnits rest
      (Char.ofNat (0x10000 + (n - 0xD800) * 0x400 + (m - 0xDC00)) :: cs, paired)
    else
      -- The second unit may still be the first half of the next pair.
      let (cs, paired) := pairUnits (.unit m :: rest)
      (Char.ofNat n :: cs, paired && !isLeading n && !isTrailing n)
  | .unit n :: rest =>
    let (cs, paired) := pairUnits rest
    (Char.ofNat n :: cs, paired && !isLeading n && !isTrailing n)

/-- A string after its opening quote, and the text after its closing one. -/
def readToken (cs : List Char) : Option (Token × List Char) := do
  let (units, rest) ← readUnits cs
  let (text, paired) := pairUnits units
  return (⟨String.ofList text, paired⟩, rest)

/-- Splits off the leading decimal digits. -/
def spanDigits (cs : List Char) : List Char × List Char :=
  (cs.takeWhile Char.isDigit, cs.dropWhile Char.isDigit)

/-- The digits before the point: a single zero, or digits that start with none. -/
def readWhole : List Char → Option (List Char × List Char)
  | '0' :: rest =>
    match rest with
    | c :: _ => if c.isDigit then none else some (['0'], rest)
    | [] => some (['0'], [])
  | cs =>
    match spanDigits cs with
    | ([], _) => none
    | (ds, rest) => some (ds, rest)

/-- The digits after the point, if there is one; at least one is required. -/
def readFraction : List Char → Option (Option (List Char) × List Char)
  | '.' :: rest =>
    match spanDigits rest with
    | ([], _) => none
    | (ds, left) => some (some ds, left)
  | cs => some (none, cs)

/-- The exponent with its sign, if there is one; at least one digit is required. -/
def readExponent : List Char → Option (Option (Bool × List Char) × List Char)
  | c :: rest =>
    if c = 'e' ∨ c = 'E' then
      let (negative, digits) :=
        match rest with
        | '-' :: left => (true, left)
        | '+' :: left => (false, left)
        | left => (false, left)
      match spanDigits digits with
      | ([], _) => none
      | (ds, left) => some (some (negative, ds), left)
    else some (none, c :: rest)
  | [] => some (none, [])

/-- A number, and the text after it. -/
def readNumeral (cs : List Char) : Option (Numeral × List Char) := do
  let (negative, unsigned) :=
    match cs with
    | '-' :: rest => (true, rest)
    | rest => (false, rest)
  let (whole, afterWhole) ← readWhole unsigned
  let (fraction, afterFraction) ← readFraction afterWhole
  let (exponent, rest) ← readExponent afterFraction
  return (⟨negative, whole, fraction, exponent⟩, rest)

/-- A value that is no array or object, and the text after it. -/
def readScalar : List Char → Node × Option (List Char)
  | 'n' :: 'u' :: 'l' :: 'l' :: rest => (.null, some rest)
  | 't' :: 'r' :: 'u' :: 'e' :: rest => (.bool true, some rest)
  | 'f' :: 'a' :: 'l' :: 's' :: 'e' :: rest => (.bool false, some rest)
  | '"' :: rest =>
    match readToken rest with
    | some (token, left) => (.string token, some left)
    | none => (.broken, none)
  | cs =>
    match readNumeral cs with
    | some (numeral, rest) => (.number numeral, some rest)
    | none => (.broken, none)

mutual
/-- The value at the start of a text, and the text after it; no text remains
    where the value is cut short. -/
def readValue : (fuel : Nat) → List Char → Node × Option (List Char)
  | 0, _ => (.broken, none)
  | fuel + 1, cs =>
    match skipSpace cs with
    | '[' :: rest =>
      match skipSpace rest with
      | ']' :: left => (.array [] true, some left)
      | left =>
        let (items, after) := readItems fuel left
        (.array items after.isSome, after)
    | '\x7b' :: rest =>
      match skipSpace rest with
      | '\x7d' :: left => (.object [] true, some left)
      | left =>
        let (members, after) := readMembers fuel left
        (.object members after.isSome, after)
    | left => readScalar left

/-- The items of an array from the next one on, up to its closing bracket. -/
def readItems : (fuel : Nat) → List Char → List Node × Option (List Char)
  | 0, _ => ([], none)
  | fuel + 1, cs =>
    match readValue fuel cs with
    | (node, none) => ([node], none)
    | (node, some rest) =>
      match skipSpace rest with
      | ']' :: left => ([node], some left)
      | ',' :: left =>
        match skipSpace left with
        -- After a comma an item is due, so neither the end nor a bracket will do.
        | [] => ([node], none)
        | ']' :: _ => ([node], none)
        | left =>
          let (items, after) := readItems fuel left
          (node :: items, after)
      | _ => ([node], none)

/-- The members of an object from the next one on, up to its closing brace. -/
def readMembers : (fuel : Nat) → List Char → List (Token × Node) × Option (List Char)
  | 0, _ => ([], none)
  | fuel + 1, cs =>
    match skipSpace cs with
    | '"' :: rest =>
      match readToken rest with
      | none => ([], none)
      | some (key, afterKey) =>
        match skipSpace afterKey with
        | ':' :: afterColon =>
          match readValue fuel afterColon with
          | (node, none) => ([(key, node)], none)
          | (node, some left) =>
            match skipSpace left with
            | '\x7d' :: after => ([(key, node)], some after)
            | ',' :: after =>
              let (members, final) := readMembers fuel after
              ((key, node) :: members, final)
            | _ => ([(key, node)], none)
        -- The key is known although its value is not: a strict record objects to it.
        | _ => ([(key, .broken)], none)
    | _ => ([], none)
end

/-- A whole document. Each step into or past a value uses up a character, so a
    budget of three steps a character is never used up. -/
def read (text : String) : Document :=
  let cs := text.toList
  match readValue (3 * cs.length + 3) cs with
  | (root, none) => ⟨root, false⟩
  | (root, some rest) => ⟨root, (skipSpace rest).isEmpty⟩

end Json

end Qualifier
