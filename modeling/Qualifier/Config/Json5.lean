import Qualifier.Config.Environment
import Qualifier.Decimal.Bounds
import Qualifier.Text.Letters

/-!
# Reading JSON5

JSON as people write it: with comments, with commas after the last item, with
names without quotes and texts in quotes of either kind.

## Main definitions

* `skip`: The text after blanks and comments.
* `text`, `number`, `name`: The scalars and the keys.
* `value`, `items`, `members`: A value, and the insides of lists and tables.
* `read`: A whole file.
-/

namespace Qualifier

namespace Json5

/-- Whether a character ends a line. -/
def isLineEnd (c : Char) : Bool :=
  c == '\n' || c == '\r' || c == '\u2028' || c == '\u2029'

/-- Whether a character is a blank. -/
def isSpace (c : Char) : Bool :=
  c == '\uFEFF' || (Text.isBlank c && c != '\u0085')

/-- What follows a comment that ends with a star and a slash. -/
def afterBlock? : List Char → Option (List Char)
  | [] => none
  | '*' :: '/' :: rest => some rest
  | _ :: rest => afterBlock? rest

/-- The text after blanks and comments. -/
def skip : (fuel : Nat) → List Char → Option (List Char)
  | 0, _ => none
  | fuel + 1, cs =>
    match cs with
    | '/' :: '/' :: rest => skip fuel (rest.dropWhile fun c => !isLineEnd c)
    | '/' :: '*' :: rest => do skip fuel (← afterBlock? rest)
    | c :: rest => if isSpace c then skip fuel rest else some cs
    | [] => some []

/-- The text after blanks and comments, whatever its length. -/
def skipAll (cs : List Char) : Option (List Char) :=
  skip (cs.length + 1) cs

/-- The character of an escape by its letter. -/
def letterEscape (c : Char) : Char :=
  match c with
  | 'b' => '\x08'
  | 'f' => '\x0c'
  | 'n' => '\n'
  | 'r' => '\r'
  | 't' => '\t'
  | 'v' => '\x0b'
  | '0' => '\x00'
  | c => c

/-- The number of four hexadecimal digits. -/
def unit? (a b c d : Char) : Option Nat :=
  [a, b, c, d].foldlM (fun n x => (Literal.hexDigit? x).map (16 * n + ·)) 0

/-- The character two halves of a pair stand for: their bits side by side, with the
    bit of the first plane set. -/
def paired? (high low : Nat) : Option Char :=
  if 0xD800 ≤ high ∧ high < 0xDC00 ∧ 0xDC00 ≤ low ∧ low < 0xE000 then
    some (Char.ofNat (0x10000 ||| (high - 0xD800) <<< 10 ||| (low - 0xDC00)))
  else none

/-- What follows the line ends that are escaped at the start of a text. -/
def joinedLines : List Char → List Char
  | '\\' :: '\r' :: '\n' :: rest => joinedLines rest
  | '\\' :: c :: rest => if isLineEnd c then joinedLines rest else '\\' :: c :: rest
  | cs => cs

/-- The characters an escape stands for, and what follows it, after its backslash. -/
def escape? : List Char → Option (List Char × List Char)
  | '\r' :: '\n' :: rest => some ([], rest)
  | 'x' :: a :: b :: rest => (Literal.codePoint? [a, b]).map fun x => ([x], rest)
  | 'u' :: a :: b :: c :: d :: rest =>
    match Literal.codePoint? [a, b, c, d], joinedLines rest with
    | some x, _ => some ([x], rest)
    -- One half of a pair: the other one has to follow.
    | none, '\\' :: 'u' :: e :: f :: g :: h :: rest => do
      let x ← paired? (← unit? a b c d) (← unit? e f g h)
      some ([x], rest)
    | none, _ => none
  | c :: rest =>
    if isLineEnd c then some ([], rest)
    else if c == 'x' || c == 'u' || ('1' ≤ c && c ≤ '9') then none
    else some ([letterEscape c], rest)
  | [] => none

/-- A text after its opening quote, and what follows the closing one. -/
def text (quote : Char) : (fuel : Nat) → List Char → Option (List Char × List Char)
  | 0, _ => none
  | fuel + 1, cs =>
    match cs with
    | [] => none
    | '\\' :: rest => do
      let (shown, rest) ← escape? rest
      (text quote fuel rest).map fun r => (shown ++ r.1, r.2)
    | c :: rest =>
      if c = quote then some ([], rest)
      else if isLineEnd c then none
      else (text quote fuel rest).map fun r => (c :: r.1, r.2)

/-- Whether a name without quotes may start with a character. -/
def startsName (c : Char) : Bool :=
  c == '_' || c == '$' || Text.isLetter c

/-- The characters of a name without quotes, and what follows it. A character may be
    written as an escape, whatever it is. -/
def nameChars : (fuel : Nat) → (first : Bool) → List Char → Option (List Char × List Char)
  | 0, _, _ => none
  | fuel + 1, first, cs =>
    match cs with
    | '\\' :: 'u' :: rest => do
      let (shown, rest) ← escape? ('u' :: rest)
      (nameChars fuel false rest).map fun r => (shown ++ r.1, r.2)
    | c :: rest =>
      if startsName c || (!first && Text.isFollower c) then
        (nameChars fuel false rest).map fun r => (c :: r.1, r.2)
      else if first then none
      else some ([], cs)
    | [] => if first then none else some ([], [])

/-- The exponent at the start of a text, and what follows it. -/
def exponent (cs : List Char) : List Char × List Char :=
  match cs with
  | e :: rest =>
    let body := Literal.unsigned rest
    let digits := body.takeWhile Char.isDigit
    if (e == 'e' || e == 'E') && !digits.isEmpty then
      (e :: rest.take (rest.length - body.length + digits.length), body.drop digits.length)
    else ([], cs)
  | [] => ([], [])

/-- A whole number in 64 bits with a sign. -/
def bounded? (negative : Bool) (n : Nat) : Option Datum :=
  if negative then if n ≤ 0x8000000000000000 then some (.integer (-(n : Int))) else none
  else if n < 0x8000000000000000 then some (.integer n) else none

/-- A decimal number after its sign, and what follows it. -/
def decimal (negative : Bool) (cs : List Char) : Option (Datum × List Char) :=
  let whole := match cs with
    | '0' :: _ => ['0']
    | cs => cs.takeWhile Char.isDigit
  let (fraction, rest) := match cs.drop whole.length with
    | '.' :: more => (some (more.takeWhile Char.isDigit), more.dropWhile Char.isDigit)
    | more => (none, more)
  let (power, rest) := exponent rest
  if whole.isEmpty && (fraction.getD []).isEmpty then none
  else if fraction.isNone && power.isEmpty then
    (bounded? negative (Literal.digitsValue whole)).map fun d => (d, rest)
  else
    let shown := whole ++ '.' :: fraction.getD [] ++ power
    if Decimal.isOutOfRange shown then none
    else some (.float (String.ofList (if negative then '-' :: shown else shown)), rest)

/-- A number in hexadecimal digits that has no sign and fits into 32 bits, and what
    follows it. -/
def hexadecimal (cs : List Char) : Option (Datum × List Char) :=
  let isDigit (c : Char) := (Literal.hexDigit? c).isSome
  let digits := cs.takeWhile isDigit
  let n := digits.foldl (fun n c => 16 * n + (Literal.hexDigit? c).getD 0) 0
  if digits.isEmpty || 0x100000000 ≤ n then none else some (.integer n, cs.dropWhile isDigit)

/-- A number, and what follows it. A plus sign may stand before decimal digits
    only, a minus sign before anything but hexadecimal ones. -/
def number (cs : List Char) : Option (Datum × List Char) :=
  let sign := cs.head?.filter fun c => c == '+' || c == '-'
  match Literal.unsigned cs with
  | 'I' :: 'n' :: 'f' :: 'i' :: 'n' :: 'i' :: 't' :: 'y' :: rest =>
    if sign == some '+' then none else some (.float "Infinity", rest)
  | 'N' :: 'a' :: 'N' :: rest => if sign == some '+' then none else some (.float "NaN", rest)
  | '0' :: x :: rest =>
    if x == 'x' || x == 'X' then if sign.isSome then none else hexadecimal rest
    else decimal (sign == some '-') ('0' :: x :: rest)
  | body => decimal (sign == some '-') body

/-- A key, and what follows it. -/
def name (cs : List Char) : Option (String × List Char) :=
  let found :=
    match cs with
    | '"' :: rest => text '"' (cs.length + 1) rest
    | '\'' :: rest => text '\'' (cs.length + 1) rest
    | cs => nameChars (cs.length + 1) true cs
  found.map fun r => (String.ofList r.1, r.2)

mutual

/-- A value, and what follows it. -/
def value : (fuel : Nat) → List Char → Option (Datum × List Char)
  | 0, _ => none
  | fuel + 1, cs =>
    match cs with
    | 'n' :: 'u' :: 'l' :: 'l' :: rest => some (.nothing, rest)
    | 't' :: 'r' :: 'u' :: 'e' :: rest => some (.boolean true, rest)
    | 'f' :: 'a' :: 'l' :: 's' :: 'e' :: rest => some (.boolean false, rest)
    | '[' :: rest => (items fuel rest).map fun r => (.list r.1, r.2)
    | '\x7b' :: rest => (members fuel rest).map fun r => (.table r.1, r.2)
    | '"' :: rest =>
      (text '"' (cs.length + 1) rest).map fun r => (.text (String.ofList r.1), r.2)
    | '\'' :: rest =>
      (text '\'' (cs.length + 1) rest).map fun r => (.text (String.ofList r.1), r.2)
    | cs => number cs

/-- The items of a list after its opening bracket or after a comma. -/
def items : (fuel : Nat) → List Char → Option (List Datum × List Char)
  | 0, _ => none
  | fuel + 1, cs => do
    match ← skipAll cs with
    | ']' :: rest => some ([], rest)
    | cs =>
      let (d, rest) ← value fuel cs
      match ← skipAll rest with
      | ',' :: rest => (items fuel rest).map fun r => (d :: r.1, r.2)
      | ']' :: rest => some ([d], rest)
      | _ => none

/-- The members of a table after its opening brace or after a comma. -/
def members : (fuel : Nat) → List Char → Option (Entries × List Char)
  | 0, _ => none
  | fuel + 1, cs => do
    match ← skipAll cs with
    | '\x7d' :: rest => some ([], rest)
    | cs =>
      let (key, rest) ← name cs
      match ← skipAll rest with
      | ':' :: rest =>
        let (d, rest) ← value fuel (← skipAll rest)
        match ← skipAll rest with
        | ',' :: rest => (members fuel rest).map fun r => ((key, d) :: r.1, r.2)
        | '\x7d' :: rest => some ([(key, d)], rest)
        | _ => none
      | _ => none

end

/-- The entries of a file, if it is a well-formed table. -/
def read (file : String) : Option Entries := do
  let cs := file.toList
  let (d, rest) ← value (2 * cs.length + 2) (← skipAll cs)
  match d, ← skipAll rest with
  | .table entries, [] => some entries
  | _, _ => none

end Json5

end Qualifier
