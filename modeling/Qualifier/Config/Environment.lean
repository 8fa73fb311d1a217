import Qualifier.Config.Datum
import Qualifier.Text.Blank
import Qualifier.Text.Search

/-!
# Settings in the Environment

Environment variables that hold settings. A variable's name is the prefix
`TETHER_` and the key of the setting, in letters of either case; a double
underscore leads into a table. Its value is read as what it looks like: a truth
value, a quoted text, a character, a list, a table, a number, or else plain text.
A value with commas that is none of the bracketed or quoted forms is a list.

## Main definitions

* `Environment`: The variables.
* `Literal.read`: A value as it is written inside a variable.
* `Environment.datum`: The value of a variable.
* `Environment.entries`: The settings the variables hold.
-/

namespace Qualifier

/-- The variables of a process in the order in which they are set. -/
abbrev Environment := List (String × String)

/-- The text of a variable; the last one under a name counts. -/
def Environment.get? (env : Environment) (name : String) : Option String :=
  (env.reverse.find? fun e => e.1 = name).map Prod.snd

namespace Literal

/-- The blanks that may stand around the parts of a value. -/
def isSpace (c : Char) : Bool :=
  c == ' ' || c == '\t' || c == '\n' || c == '\r' || c == '\x0c'

/-- A text without the blanks it starts with. -/
def skipSpace (cs : List Char) : List Char :=
  cs.dropWhile isSpace

/-- Whether a character ends a value that stands without quotes. -/
def isSeparator (c : Char) : Bool :=
  c == ',' || c == '\x7b' || c == '\x7d' || c == '[' || c == ']'

/-- Whether a character may stand in a key without quotes. -/
def isKeyChar (c : Char) : Bool :=
  c.isAlphanum || c == '_' || c == '-'

/-- Drops a sign. -/
def unsigned : List Char → List Char
  | '+' :: cs | '-' :: cs => cs
  | cs => cs

/-- Whether a text is an exponent, or empty. -/
def isExponent : List Char → Bool
  | [] => true
  | c :: cs =>
    (c == 'e' || c == 'E') && !(unsigned cs).isEmpty && (unsigned cs).all Char.isDigit

/-- Whether a text is a decimal number with a point. -/
def isDecimal (cs : List Char) : Bool :=
  let body := unsigned cs
  let whole := body.takeWhile Char.isDigit
  match body.dropWhile Char.isDigit with
  | '.' :: rest =>
    let fraction := rest.takeWhile Char.isDigit
    !(whole.isEmpty && fraction.isEmpty) && isExponent (rest.dropWhile Char.isDigit)
  | _ => false

/-- The number that digits stand for. -/
def digitsValue (cs : List Char) : Nat :=
  cs.foldl (fun n c => 10 * n + (c.toNat - '0'.toNat)) 0

/-- The whole number a text stands for, if it fits into 64 bits with or without a
    sign. -/
def integer? (cs : List Char) : Option Int :=
  let body := unsigned cs
  if body.isEmpty || !body.all Char.isDigit then none
  else
    let n := digitsValue body
    if cs.head? = some '-' then if n ≤ 0x8000000000000000 then some (-(n : Int)) else none
    else if n < 0x10000000000000000 then some n else none

/-- A value that stands without quotes: a number if it looks like one. -/
def plain (cs : List Char) : Datum :=
  let word := Text.trimChars cs
  -- Without a point a word is no decimal number, even with an exponent.
  if word.contains '.' && isDecimal word then .float (String.ofList word)
  else
    match integer? word with
    | some n => .integer n
    | none => .text (String.ofList word)

/-- The value of a hexadecimal digit. -/
def hexDigit? (c : Char) : Option Nat :=
  if c.isDigit then some (c.toNat - '0'.toNat)
  else if 'a' ≤ c ∧ c ≤ 'f' then some (c.toNat - 'a'.toNat + 10)
  else if 'A' ≤ c ∧ c ≤ 'F' then some (c.toNat - 'A'.toNat + 10)
  else none

/-- The character with a number written in hexadecimal digits. -/
def codePoint? (cs : List Char) : Option Char := do
  let n ← cs.foldlM (fun n c => (hexDigit? c).map (16 * n + ·)) 0
  if h : n.isValidChar then some (Char.ofNatAux n h) else none

/-- The text inside quotes with its escapes replaced. -/
def unescape : List Char → Option (List Char)
  | [] => some []
  | '\\' :: 'b' :: cs => (unescape cs).map ('\x08' :: ·)
  | '\\' :: 'f' :: cs => (unescape cs).map ('\x0c' :: ·)
  | '\\' :: 'n' :: cs => (unescape cs).map ('\n' :: ·)
  | '\\' :: 'r' :: cs => (unescape cs).map ('\r' :: ·)
  | '\\' :: 't' :: cs => (unescape cs).map ('\t' :: ·)
  | '\\' :: '"' :: cs => (unescape cs).map ('"' :: ·)
  | '\\' :: '\\' :: cs => (unescape cs).map ('\\' :: ·)
  | '\\' :: 'u' :: a :: b :: c :: d :: cs => do
    let x ← codePoint? [a, b, c, d]
    (unescape cs).map (x :: ·)
  | '\\' :: 'U' :: a :: b :: c :: d :: e :: f :: g :: h :: cs => do
    let x ← codePoint? [a, b, c, d, e, f, g, h]
    (unescape cs).map (x :: ·)
  | '\\' :: _ => none
  | c :: cs =>
    if c = '\t' ∨ (' ' ≤ c ∧ c ≠ '\x7f') then (unescape cs).map (c :: ·) else none

/-- The characters up to a closing quote, and what follows the quote. -/
def untilQuote : List Char → Option (List Char × List Char)
  | [] => none
  | '"' :: rest => some ([], rest)
  | '\\' :: c :: rest => (untilQuote rest).map fun r => ('\\' :: c :: r.1, r.2)
  | c :: rest => (untilQuote rest).map fun r => (c :: r.1, r.2)

/-- The characters that the first `bytes` bytes of a text hold, if they end where a
    character ends. -/
def firstBytes : (bytes : Nat) → List Char → Option (List Char)
  | 0, _ => some []
  | _ + 1, [] => some []
  | bytes + 1, c :: cs =>
    if c.utf8Size ≤ bytes + 1 then (firstBytes (bytes + 1 - c.utf8Size) cs).map (c :: ·) else none
termination_by _ cs => cs.length

/-- The text that stands inside quotes. What precedes the first escape is cut to as
    many bytes as it has characters, which shortens it where one of them takes more
    than one byte. -/
def innerText (inner : List Char) : Option (List Char) := do
  let before ← unescape (inner.takeWhile (· != '\\'))
  match inner.dropWhile (· != '\\') with
  | [] => some before
  | escaped =>
    let kept ← firstBytes before.length before
    some (kept ++ (← unescape escaped))

/-- A quoted text after its opening quote. -/
def quotedText (cs : List Char) : Option (String × List Char) := do
  let (inner, rest) ← untilQuote cs
  let chars ← innerText inner
  some (String.ofList chars, rest)

/-- A key and what follows it. -/
def key : List Char → Option (String × List Char)
  | '"' :: cs => quotedText cs
  | cs =>
    match cs.takeWhile isKeyChar with
    | [] => none
    | name => some (String.ofList name, cs.dropWhile isKeyChar)

mutual
/-- A value, and what follows it and the blanks after it. -/
def value : (fuel : Nat) → List Char → Option (Datum × List Char)
  | 0, _ => none
  | fuel + 1, cs => do
    let (datum, rest) ←
      match skipSpace cs with
      | 't' :: 'r' :: 'u' :: 'e' :: rest => some (.boolean true, rest)
      | 'f' :: 'a' :: 'l' :: 's' :: 'e' :: rest => some (.boolean false, rest)
      | '\x7b' :: rest => (members fuel rest).map fun r => (.table r.1, r.2)
      | '[' :: rest => (items fuel rest).map fun r => (.list r.1, r.2)
      | '"' :: rest => (quotedText rest).map fun r => (.text r.1, r.2)
      | '\'' :: c :: '\'' :: rest => some (.text (String.singleton c), rest)
      -- Single quotes hold one character and nothing else.
      | '\'' :: _ => none
      | rest =>
        some (plain (rest.takeWhile fun c => !isSeparator c),
          rest.dropWhile fun c => !isSeparator c)
    some (datum, skipSpace rest)

/-- The items of a list after its opening bracket or after a comma. -/
def items : (fuel : Nat) → List Char → Option (List Datum × List Char)
  | 0, _ => none
  | fuel + 1, cs =>
    match cs with
    | ']' :: rest => some ([], rest)
    | cs => do
      let (datum, rest) ← value fuel cs
      match rest with
      | ',' :: rest => (items fuel rest).map fun r => (datum :: r.1, r.2)
      | ']' :: rest => some ([datum], rest)
      | _ => none

/-- The members of a table after its opening brace or after a comma. -/
def members : (fuel : Nat) → List Char → Option (Entries × List Char)
  | 0, _ => none
  | fuel + 1, cs =>
    match cs with
    | '\x7d' :: rest => some ([], rest)
    | cs => do
      let (name, rest) ← key (skipSpace cs)
      match skipSpace rest with
      | '=' :: rest =>
        let (datum, rest) ← value fuel rest
        match rest with
        | ',' :: rest => (members fuel rest).map fun r => ((name, datum) :: r.1, r.2)
        | '\x7d' :: rest => some ([(name, datum)], rest)
        | _ => none
      | _ => none
end

/-- A value that a text consists of; the text itself if it is none. -/
def read (text : String) : Datum :=
  match value (2 * text.length + 2) text.toList with
  | some (datum, []) => datum
  | _ => .text text

end Literal

namespace Environment

/-- Whether a value is a list without being written as one. -/
def isBareList (cs : List Char) : Bool :=
  cs.contains ',' &&
    match cs with
    | '[' :: _ | '\x7b' :: _ | '"' :: _ | '\'' :: _ => false
    | _ => true

/-- The value of a variable. -/
def datum (text : String) : Datum :=
  let cs := Text.trimChars text.toList
  if isBareList cs then
    .list ((Text.segments ',' cs).map fun item => .text (String.ofList (Text.trimChars item)))
  else Literal.read (String.ofList cs)

/-- What the names of all variables that hold settings start with. -/
def namePrefix : List Char :=
  "TETHER_".toList

/-- A key with every double underscore as a point. -/
def dotted : List Char → List Char
  | '_' :: '_' :: cs => '.' :: dotted cs
  | c :: cs => c :: dotted cs
  | [] => []

/-- A value inside the tables that lead to it. -/
def nested : List (List Char) → Datum → Datum
  | [], d => d
  | step :: steps, d => .table [(String.ofList step, nested steps d)]

/-- The steps that the name of a variable consists of, without the blanks around it,
    if it is the name of a setting. No step is empty. -/
def steps? (name : String) : Option (List (List Char)) :=
  let cs := Text.trimChars name.toList
  if (cs.take namePrefix.length).map Char.toUpper = namePrefix then
    let key := Text.trimChars (dotted (cs.drop namePrefix.length))
    let steps := Text.segments '.' (key.map Char.toLower)
    if steps.any List.isEmpty then none else some steps
  else none

/-- The setting a variable holds, if it holds one. -/
def entry? (name text : String) : Option (String × Datum) :=
  match steps? name with
  | some (key :: steps) => some (String.ofList key, nested steps (datum text))
  | _ => none

/-- The settings the variables hold. -/
def entries (env : Environment) : Entries :=
  env.filterMap fun e => entry? e.1 e.2

end Environment

end Qualifier
