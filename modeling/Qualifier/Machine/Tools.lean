import Qualifier.Storage.Walk
import Qualifier.Text.Search

/-!
# Small Tools

What the small programs of a machine compute from their arguments alone, or from
their arguments and the files there are.

## Main definitions

* `formatted`: What `printf` prints.
* `echoed`: What `echo` prints.
* `holds`: Whether a condition of `test` holds.
* `duration?`: How long `sleep` sleeps.
-/

namespace Qualifier

namespace Machine

/-- The bytes of some characters. -/
def bytesOf (cs : List Char) : List UInt8 :=
  (String.ofList cs).toUTF8.toList

/-- The value of an octal digit. -/
def octalDigit? (c : Char) : Option Nat :=
  if '0' ≤ c ∧ c ≤ '7' then some (c.toNat - '0'.toNat) else none

/-- The value of a run of digits. -/
def numberOf (base : Nat) (digits : List Char) : Nat :=
  digits.foldl (fun n c =>
    base * n + if c.isDigit then c.toNat - '0'.toNat else c.toLower.toNat - 'a'.toNat + 10) 0

/-- Whether a character is a hexadecimal digit. -/
def isHexDigit (c : Char) : Bool :=
  c.isDigit || ('a' ≤ c.toLower && c.toLower ≤ 'f')

/-- The byte that an escape of one letter stands for. -/
def letterEscape? : Char → Option UInt8
  | 'a' => some 7
  | 'b' => some 8
  | 'f' => some 12
  | 'n' => some 10
  | 'r' => some 13
  | 't' => some 9
  | 'v' => some 11
  | '\\' => some 92
  | _ => none

/-- Characters with their escapes replaced. Octal escapes may need a zero in front;
    hexadecimal ones are known only to the separate program. The mark of an early
    end is reported. -/
def unescaped (needsZero hex : Bool) : (fuel : Nat) → List Char → List UInt8 × Bool
  | 0, _ => ([], false)
  | _, [] => ([], false)
  | fuel + 1, '\\' :: c :: rest =>
    let after (bytes : List UInt8) (rest : List Char) :=
      let (more, ended) := unescaped needsZero hex fuel rest
      (bytes ++ more, ended)
    if c = 'c' then ([], true)
    else if needsZero && c == '0' then
      let digits := (rest.take 3).takeWhile fun d => (octalDigit? d).isSome
      after [UInt8.ofNat (numberOf 8 digits)] (rest.drop digits.length)
    else if !needsZero && (octalDigit? c).isSome then
      let digits := ((c :: rest).take 3).takeWhile fun d => (octalDigit? d).isSome
      after [UInt8.ofNat (numberOf 8 digits)] ((c :: rest).drop digits.length)
    else if hex && c == 'x' then
      match (rest.take 2).takeWhile isHexDigit with
      | [] => after (bytesOf ['\\', 'x']) rest
      | digits => after [UInt8.ofNat (numberOf 16 digits)] (rest.drop digits.length)
    else
      match letterEscape? c with
      | some b => after [b] rest
      | none => if c = '"' && !needsZero then after [34] rest else after (bytesOf ['\\', c]) rest
  | fuel + 1, c :: rest =>
    let (more, ended) := unescaped needsZero hex fuel rest
    (bytesOf [c] ++ more, ended)

/-- The whole number an argument stands for; zero if it stands for none. -/
def integerArgument (s : String) : Int :=
  match s.toList with
  | '-' :: cs => if cs.all Char.isDigit then -(numberOf 10 cs : Int) else 0
  | '+' :: cs => if cs.all Char.isDigit then numberOf 10 cs else 0
  | cs => if cs.all Char.isDigit then numberOf 10 cs else 0

/-- What one conversion prints of its argument. -/
def converted (conversion : Char) (argument : String) : Option (List UInt8) :=
  match conversion with
  | 's' => some argument.toUTF8.toList
  | 'b' => some (unescaped true false (argument.length + 1) argument.toList).1
  | 'c' => some (argument.toUTF8.toList.take 1)
  | 'd' | 'i' => some (toString (integerArgument argument)).toUTF8.toList
  | 'u' => some (toString (integerArgument argument).toNat).toUTF8.toList
  | 'o' => some (bytesOf (Nat.toDigits 8 (integerArgument argument).toNat))
  | 'x' => some (bytesOf (Nat.toDigits 16 (integerArgument argument).toNat))
  | _ => none

/-- What a format prints once, and the arguments that are left. A conversion that is
    not known ends it. -/
def formattedOnce (hex : Bool) :
    (fuel : Nat) → List Char → List String → Option (List UInt8 × List String)
  | 0, _, _ => none
  | _, [], arguments => some ([], arguments)
  | fuel + 1, '%' :: '%' :: rest, arguments =>
    (formattedOnce hex fuel rest arguments).map fun r => (37 :: r.1, r.2)
  | fuel + 1, '%' :: c :: rest, arguments => do
    let bytes ← converted c (arguments.headD "")
    (formattedOnce hex fuel rest (arguments.drop 1)).map fun r => (bytes ++ r.1, r.2)
  | _, ['%'], _ => none
  | fuel + 1, c :: rest, arguments =>
    let plain := (c :: rest).takeWhile (· != '%')
    let bytes := (unescaped false hex (plain.length + 1) plain).1
    (formattedOnce hex fuel ((c :: rest).drop plain.length) arguments).map fun r =>
      (bytes ++ r.1, r.2)

/-- What a format prints for all arguments: it is used again while some are left. -/
def formatted (hex : Bool) (format : List Char) : (fuel : Nat) → List String → Option (List UInt8)
  | 0, _ => some []
  | fuel + 1, arguments => do
    let (bytes, rest) ← formattedOnce hex (format.length + 1) format arguments
    if rest.isEmpty || rest.length == arguments.length then some bytes
    else
      let more ← formatted hex format fuel rest
      some (bytes ++ more)

/-- What `echo` prints; the shell's own one replaces escapes. -/
def echoed (escapes : Bool) (arguments : List String) : List UInt8 :=
  let lineEnd : List UInt8 := if arguments.head? = some "-n" then [] else [10]
  let shown := if arguments.head? = some "-n" then arguments.drop 1 else arguments
  let text := Text.joined " " shown
  if escapes then
    let (bytes, ended) := unescaped true false (text.length + 1) text.toList
    if ended then bytes else bytes ++ lineEnd
  else text.toUTF8.toList ++ lineEnd

/-- A whole number written in full. -/
def integer? (s : String) : Option Int :=
  match s.toList with
  | '-' :: cs => if !cs.isEmpty && cs.all Char.isDigit then some (-(numberOf 10 cs : Int)) else none
  | '+' :: cs => if !cs.isEmpty && cs.all Char.isDigit then some (numberOf 10 cs : Int) else none
  | cs => if !cs.isEmpty && cs.all Char.isDigit then some (numberOf 10 cs : Int) else none

/-- Two numbers compared. -/
def compared (operator : String) (a b : Int) : Option Bool :=
  match operator with
  | "-eq" => some (a = b)
  | "-ne" => some (a ≠ b)
  | "-lt" => some (a < b)
  | "-le" => some (a ≤ b)
  | "-gt" => some (b < a)
  | "-ge" => some (b ≤ a)
  | _ => none

/-- The entry a path leads to, through links. -/
def entryAt (t : Storage.Tree) (from_ : Storage.Location) (path : String) :
    Option Storage.Entry :=
  match t.target ⟨none, true⟩ from_ ⟨path⟩ with
  | .ok (.directory _) => some .directory
  | .ok (.entry within name _) => t.get? (within ++ [name])
  | .error _ => none

/-- Whether a file has a property. -/
def hasProperty (t : Storage.Tree) (from_ : Storage.Location) (operator path : String) :
    Option Bool :=
  let entry := entryAt t from_ path
  match operator with
  | "-e" | "-r" | "-w" => some entry.isSome
  | "-f" => some (match entry with
      | some (.file _ _) => true
      | _ => false)
  | "-d" => some (match entry with
      | some .directory => true
      | _ => false)
  | "-s" => some (match entry with
      | some (.file content _) => !content.isEmpty
      | some _ => true
      | none => false)
  | "-x" => some (match entry with
      | some (.file _ mode) => mode &&& 0o111 != 0
      | some _ => true
      | none => false)
  | "-h" | "-L" => some (match t.target ⟨none, false⟩ from_ ⟨path⟩ with
      | .ok (.entry within name _) =>
        match t.get? (within ++ [name]) with
        | some (.link _) => true
        | _ => false
      | _ => false)
  | _ => none

/-- Whether a condition holds; nothing if it makes no sense. -/
def holds (t : Storage.Tree) (from_ : Storage.Location) : List String → Option Bool
  | [] => some false
  | [a] => some (a ≠ "")
  | ["!", a] => some (a = "")
  | ["-n", a] => some (a ≠ "")
  | ["-z", a] => some (a = "")
  | [operator, a] => hasProperty t from_ operator a
  | [a, "=", b] => some (a = b)
  | [a, "!=", b] => some (a ≠ b)
  | ["!", a, b] => (holds t from_ [a, b]).map (!·)
  | [a, operator, b] => do compared operator (← integer? a) (← integer? b)
  | ["!", a, b, c] => (holds t from_ [a, b, c]).map (!·)
  | _ => none

/-- The nanoseconds in a unit of time. -/
def unitNanos? : List Char → Option Nat
  | [] | ['s'] => some (1000000000)
  | ['m'] => some (60 * 1000000000)
  | ['h'] => some (3600 * 1000000000)
  | ['d'] => some (86400 * 1000000000)
  | _ => none

/-- A length of time in nanoseconds: a decimal number, perhaps with a unit. -/
def duration? (s : String) : Option Nat :=
  let cs := s.toList
  let whole := cs.takeWhile Char.isDigit
  let afterWhole := cs.dropWhile Char.isDigit
  let (fraction, rest) := match afterWhole with
    | '.' :: more => (more.takeWhile Char.isDigit, more.dropWhile Char.isDigit)
    | more => ([], more)
  if whole.isEmpty && fraction.isEmpty then none
  else
    (unitNanos? rest).map fun unit =>
      numberOf 10 (whole ++ fraction) * unit / Nat.pow 10 fraction.length

end Machine

end Qualifier
