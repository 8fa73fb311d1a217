import Qualifier.Config.Environment
import Qualifier.Decimal.Bounds

/-!
# Scalars in TOML

Numbers, moments in time and texts as a TOML file writes them. A number or moment
is a word without blanks and is classified as a whole; a text is read up to its
closing quotes.

## Main definitions

* `scalar?`: The value a word stands for.
* `basicText`, `literalText`: Texts on one line.
* `longBasicText`, `longLiteralText`: Texts that may span lines.
-/

namespace Qualifier

namespace Toml

/-- Digits without the underscores that may stand between two of them. -/
def ungrouped? (isDigit : Char → Bool) : List Char → Option (List Char)
  | [] => none
  | [c] => if isDigit c then some [c] else none
  | c :: d :: cs =>
    if !isDigit c then none
    else if d = '_' then
      match cs with
      | [] => none
      | e :: rest => (ungrouped? isDigit (e :: rest)).map (c :: ·)
    else (ungrouped? isDigit (d :: cs)).map (c :: ·)
termination_by cs => cs.length

/-- The number that digits of some base stand for. -/
def valueOf (base : Nat) (digits : List Char) : Nat :=
  digits.foldl (fun n c => base * n + (Literal.hexDigit? c).getD 0) 0

/-- Whether digits may start a number: only zero itself starts with a zero. -/
def isWhole : List Char → Bool
  | [] => false
  | [_] => true
  | c :: _ => c != '0'

/-- A whole number of some base, written after a mark for the base. -/
def based? (base : Nat) (isDigit : Char → Bool) (cs : List Char) : Option Datum := do
  let digits ← ungrouped? isDigit cs
  let n := valueOf base digits
  if n < 0x8000000000000000 then some (.integer n) else none

/-- A whole number in decimal digits. -/
def decimal? (cs : List Char) : Option Datum := do
  let digits ← ungrouped? Char.isDigit (Literal.unsigned cs)
  if !isWhole digits then none
  else
    let n := valueOf 10 digits
    if cs.head? = some '-' then
      if n ≤ 0x8000000000000000 then some (.integer (-(n : Int))) else none
    else if n < 0x8000000000000000 then some (.integer n) else none

/-- A whole number. -/
def integer? : List Char → Option Datum
  | '0' :: 'x' :: cs => based? 16 (fun c => (Literal.hexDigit? c).isSome) cs
  | '0' :: 'o' :: cs => based? 8 (fun c => '0' ≤ c && c ≤ '7') cs
  | '0' :: 'b' :: cs => based? 2 (fun c => c == '0' || c == '1') cs
  | cs => decimal? cs

/-- Whether a text is an exponent after its letter. -/
def isExponent (cs : List Char) : Bool :=
  (ungrouped? Char.isDigit (Literal.unsigned cs)).isSome

/-- Whether a text is what may follow the whole part of a number that is not
    whole. -/
def isFraction : List Char → Bool
  | '.' :: cs =>
    let isPart (c : Char) := c != 'e' && c != 'E'
    (ungrouped? Char.isDigit (cs.takeWhile isPart)).isSome &&
      match cs.dropWhile isPart with
      | [] => true
      | _ :: exponent => isExponent exponent
  | c :: cs => (c == 'e' || c == 'E') && isExponent cs
  | [] => false

/-- A number that is not whole, or none at all. One that is written with digits has
    to be finite. -/
def float? (cs : List Char) : Option Datum :=
  let body := Literal.unsigned cs
  let isPart (c : Char) := c.isDigit || c == '_'
  if body = "inf".toList ∨ body = "nan".toList then some (.float (String.ofList cs))
  else
    match ungrouped? Char.isDigit (body.takeWhile isPart) with
    | none => none
    | some whole =>
      if isWhole whole && isFraction (body.dropWhile isPart) && !Decimal.isOutOfRange body then
        some (.float (String.ofList cs))
      else none

/-- The number of days in a month. -/
def daysIn (year month : Nat) : Nat :=
  if month = 2 then
    if year % 4 = 0 ∧ (year % 100 ≠ 0 ∨ year % 400 = 0) then 29 else 28
  else if month = 4 ∨ month = 6 ∨ month = 9 ∨ month = 11 then 30
  else 31

/-- A number of two digits. -/
def twoDigits? (a b : Char) : Option Nat :=
  if a.isDigit && b.isDigit then some (valueOf 10 [a, b]) else none

/-- What follows a date at the start of a text. -/
def afterDate? : List Char → Option (List Char)
  | y :: yy :: yyy :: yyyy :: '-' :: m :: mm :: '-' :: d :: dd :: rest => do
    let century ← twoDigits? y yy
    let year ← twoDigits? yyy yyyy
    let month ← twoDigits? m mm
    let day ← twoDigits? d dd
    if 1 ≤ month ∧ month ≤ 12 ∧ 1 ≤ day ∧ day ≤ daysIn (100 * century + year) month then some rest
    else none
  | _ => none

/-- What follows a time of day at the start of a text. -/
def afterTime? : List Char → Option (List Char)
  | h :: hh :: ':' :: m :: mm :: ':' :: s :: ss :: rest => do
    let hour ← twoDigits? h hh
    let minute ← twoDigits? m mm
    let second ← twoDigits? s ss
    if hour ≤ 23 ∧ minute ≤ 59 ∧ second ≤ 60 then
      match rest with
      | '.' :: c :: more => if c.isDigit then some (more.dropWhile Char.isDigit) else none
      | '.' :: [] => none
      | rest => some rest
    else none
  | _ => none

/-- Whether a text is an offset from universal time, or empty. -/
def isOffset : List Char → Bool
  | [] => true
  | [c] => c == 'Z' || c == 'z'
  | [sign, h, hh, ':', m, mm] =>
    (sign == '+' || sign == '-') &&
      match twoDigits? h hh, twoDigits? m mm with
      | some hour, some minute => hour ≤ 23 && minute ≤ 59
      | _, _ => false
  | _ => false

/-- Whether a text is a moment in time: a date, a time of day, or both, then perhaps
    with an offset. -/
def isMoment (cs : List Char) : Bool :=
  match afterDate? cs with
  | some [] => true
  | some (c :: rest) =>
    (c == 'T' || c == 't' || c == ' ') && ((afterTime? rest).map isOffset).getD false
  | none => afterTime? cs == some []

/-- The value a word stands for. -/
def scalar? (cs : List Char) : Option Datum :=
  if cs = "true".toList then some (.boolean true)
  else if cs = "false".toList then some (.boolean false)
  else
    match integer? cs with
    | some d => some d
    | none =>
      match float? cs with
      | some d => some d
      | none => if isMoment cs then some (.moment (String.ofList cs)) else none

/-- Whether a character may stand in a text as itself. -/
def isTextChar (c : Char) : Bool :=
  c == '\t' || (' ' ≤ c && c != '\x7f')

/-- The character an escape stands for and what follows the escape, after its
    backslash. -/
def escape? : List Char → Option (Char × List Char)
  | 'b' :: cs => some ('\x08', cs)
  | 't' :: cs => some ('\t', cs)
  | 'n' :: cs => some ('\n', cs)
  | 'f' :: cs => some ('\x0c', cs)
  | 'r' :: cs => some ('\r', cs)
  | '"' :: cs => some ('"', cs)
  | '\\' :: cs => some ('\\', cs)
  | 'u' :: a :: b :: c :: d :: cs => (Literal.codePoint? [a, b, c, d]).map fun x => (x, cs)
  | 'U' :: a :: b :: c :: d :: e :: f :: g :: h :: cs =>
    (Literal.codePoint? [a, b, c, d, e, f, g, h]).map fun x => (x, cs)
  | _ => none

/-- A text with escapes after its opening quote, and what follows the closing one. -/
def basicText : (fuel : Nat) → List Char → Option (List Char × List Char)
  | 0, _ => none
  | _, [] => none
  | _ + 1, '"' :: rest => some ([], rest)
  | fuel + 1, '\\' :: cs => do
    let (c, rest) ← escape? cs
    (basicText fuel rest).map fun r => (c :: r.1, r.2)
  | fuel + 1, c :: cs =>
    if isTextChar c then (basicText fuel cs).map fun r => (c :: r.1, r.2) else none

/-- A text without escapes after its opening quote, and what follows the closing
    one. -/
def literalText : List Char → Option (List Char × List Char)
  | [] => none
  | '\'' :: rest => some ([], rest)
  | c :: cs => if isTextChar c then (literalText cs).map fun r => (c :: r.1, r.2) else none

/-- What follows a line end, if there is one. -/
def afterLineEnd? : List Char → Option (List Char)
  | '\n' :: cs => some cs
  | '\r' :: '\n' :: cs => some cs
  | _ => none

/-- What follows the blanks and line ends that a text starts with. -/
def skipLines : List Char → List Char
  | ' ' :: cs | '\t' :: cs | '\n' :: cs | '\r' :: '\n' :: cs => skipLines cs
  | cs => cs

/-- What follows a backslash at the end of a line: the next character that is not
    blank. -/
def continued? (cs : List Char) : Option (List Char) :=
  (afterLineEnd? (cs.dropWhile fun c => c == ' ' || c == '\t')).map skipLines

/-- The quotes at the end of a long text: at most two of them belong to it. -/
def closing? (quote : Char) (cs : List Char) : Option (List Char × List Char) :=
  let run := (cs.takeWhile (· == quote)).length
  if 3 ≤ run then some (List.replicate (min run 5 - 3) quote, cs.drop (min run 5)) else none

/-- A long text with escapes, and what follows its closing quotes. -/
def longBasicText : (fuel : Nat) → List Char → Option (List Char × List Char)
  | 0, _ => none
  | fuel + 1, cs =>
    match closing? '"' cs with
    | some result => some result
    | none =>
      match cs with
      | '\\' :: rest =>
        match escape? rest with
        | some (c, rest) => (longBasicText fuel rest).map fun r => (c :: r.1, r.2)
        -- No escape: the backslash has to be the last thing on its line.
        | none => do longBasicText fuel (← continued? rest)
      | '\r' :: '\n' :: rest => (longBasicText fuel rest).map fun r => ('\n' :: r.1, r.2)
      | c :: rest =>
        if isTextChar c || c == '\n' then (longBasicText fuel rest).map fun r => (c :: r.1, r.2)
        else none
      | [] => none

/-- A long text without escapes, and what follows its closing quotes. -/
def longLiteralText : (fuel : Nat) → List Char → Option (List Char × List Char)
  | 0, _ => none
  | fuel + 1, cs =>
    match closing? '\'' cs with
    | some result => some result
    | none =>
      match cs with
      | '\r' :: '\n' :: rest => (longLiteralText fuel rest).map fun r => ('\n' :: r.1, r.2)
      | c :: rest =>
        if isTextChar c || c == '\n' then (longLiteralText fuel rest).map fun r => (c :: r.1, r.2)
        else none
      | [] => none

/-- A text without the line end it starts with. -/
def dropLineEnd (cs : List Char) : List Char :=
  (afterLineEnd? cs).getD cs

/-- A text in quotes of any kind, and what follows it. -/
def quoted (cs : List Char) : Option (String × List Char) :=
  let fuel := cs.length + 1
  let found :=
    match cs with
    | '"' :: '"' :: '"' :: rest => longBasicText fuel (dropLineEnd rest)
    | '\'' :: '\'' :: '\'' :: rest => longLiteralText fuel (dropLineEnd rest)
    | '"' :: rest => basicText fuel rest
    | '\'' :: rest => literalText rest
    | _ => none
  found.map fun r => (String.ofList r.1, r.2)

end Toml

end Qualifier
