import Qualifier.Json.Reader

/-!
# The Texts of a Document

Which texts say a document, by the grammar of JSON alone, and that the reader understands every
one of them. A document has many texts: blanks may stand around each token, and a character of
a string may stand for itself or be escaped by a letter, by its number, or by two numbers that
make a pair. The grammar is a relation between a document and its texts, with one rule for each
way to write, and takes nothing from the reader.

The reader is followed along the rules. What it leaves is quantified over, so that a value can be
read inside another one: `Node.Spelled.readValue` says that a value is read off the front of any
text that goes on as a document may. Only a number needs to know how it goes on, since a digit
more would make it another number. The budget of the reader is twice the length of what it reads,
as every value and every step past one has a character to itself.

A text is read as one document, so it says one document at most (`Node.WrittenAs.unique`).

## Main definitions

* `Blanks`, `IsHex`, `IsUnit`: The small parts of a text.
* `CharSpelled`, `TextSpelled`: The ways to write a character and a string.
* `NumeralSpelled`: The ways to write a number.
* `Node.Spelled`: The ways to write a value.
* `Node.WrittenAs`: The texts of a document.

## Theorems

* `TextSpelled.readToken`: A string is read, however it is written.
* `NumeralSpelled.readNumeral`: So is a number.
* `Node.Spelled.readValue`: So is a value.
* `Node.WrittenAs.read`: Every text of a document is read as that document.
* `Node.WrittenAs.unique`: A text says one document at most.
-/

namespace Qualifier

namespace Json

/-! ## The grammar -/

/-- The characters that may stand between tokens. -/
def Blanks (cs : List Char) : Prop :=
  ∀ c ∈ cs, c ∈ [' ', '\n', '\t', '\r']

/-- The letters that may follow a backslash, each with the character it stands for. -/
def letters : List (Char × Char) :=
  [('"', '"'), ('\\', '\\'), ('/', '/'), ('b', '\x08'), ('f', '\x0c'), ('n', '\n'), ('r', '\r'),
    ('t', '\t')]

/-- A digit in base sixteen, of either case. -/
def IsHex (c : Char) (n : Nat) : Prop :=
  "0123456789abcdef".toList[n]? = some c ∨ "0123456789ABCDEF".toList[n]? = some c

/-- The number of a code unit in four such digits. -/
def IsUnit (ds : List Char) (n : Nat) : Prop :=
  ∃ a b c d i j k l, ds = [a, b, c, d] ∧ IsHex a i ∧ IsHex b j ∧ IsHex c k ∧ IsHex d l ∧
    n = ((i * 16 + j) * 16 + k) * 16 + l

/-- The ways to write a character inside a string. -/
inductive CharSpelled : Char → List Char → Prop
  | plain {c : Char} (hquote : c ≠ '"') (hbackslash : c ≠ '\\') (hcontrol : 0x20 ≤ c.toNat) :
      CharSpelled c [c]
  | letter {e c : Char} (h : (e, c) ∈ letters) : CharSpelled c ['\\', e]
  | unit {c : Char} {ds : List Char} (h : IsUnit ds c.toNat) : CharSpelled c ('\\' :: 'u' :: ds)
  | pair {c : Char} {ds es : List Char} {n m : Nat} (hds : IsUnit ds n) (hes : IsUnit es m)
      (hn : 0xD800 ≤ n ∧ n < 0xDC00) (hm : 0xDC00 ≤ m ∧ m < 0xE000)
      (hc : c.toNat = 0x10000 + (n - 0xD800) * 0x400 + (m - 0xDC00)) :
      CharSpelled c ('\\' :: 'u' :: ds ++ '\\' :: 'u' :: es)

/-- The ways to write what stands between the quotes of a string. -/
inductive BodySpelled : List Char → List Char → Prop
  | nil : BodySpelled [] []
  | cons {c : Char} {cs ds es : List Char} (hc : CharSpelled c ds) (hcs : BodySpelled cs es) :
      BodySpelled (c :: cs) (ds ++ es)

/-- The ways to write a string. -/
def TextSpelled (s : String) (cs : List Char) : Prop :=
  ∃ body, BodySpelled s.toList body ∧ cs = '"' :: body ++ ['"']

/-- Decimal digits, at least one. -/
def Digits (ds : List Char) : Prop :=
  ds ≠ [] ∧ ∀ d ∈ ds, d.isDigit = true

/-- The ways to write what follows the point of a number, if there is one. -/
inductive FractionSpelled : Option (List Char) → List Char → Prop
  | absent : FractionSpelled none []
  | digits {ds : List Char} (h : Digits ds) : FractionSpelled (some ds) ('.' :: ds)

/-- The ways to write the exponent of a number, if there is one. A plus may be left out. -/
inductive ExponentSpelled : Option (Bool × List Char) → List Char → Prop
  | absent : ExponentSpelled none []
  | digits {e : Char} {sign ds : List Char} {negative : Bool} (he : e = 'e' ∨ e = 'E')
      (hsign : (negative, sign) ∈ [(true, ['-']), (false, ['+']), (false, [])]) (h : Digits ds) :
      ExponentSpelled (some (negative, ds)) (e :: sign ++ ds)

/-- The ways to write a number. Before the point no zero may come first, unless it is alone. -/
inductive NumeralSpelled : Numeral → List Char → Prop
  | mk {negative : Bool} {sign whole f x : List Char} {fraction : Option (List Char)}
      {exponent : Option (Bool × List Char)} (hsign : sign = if negative then ['-'] else [])
      (hwhole : Digits whole) (hzero : whole.head? = some '0' → whole = ['0'])
      (hf : FractionSpelled fraction f) (hx : ExponentSpelled exponent x) :
      NumeralSpelled ⟨negative, whole, fraction, exponent⟩ (sign ++ (whole ++ (f ++ x)))

/-- A token with blanks around it. -/
inductive Padded (cs : List Char) : List Char → Prop
  | mk {b b' : List Char} (hb : Blanks b) (hb' : Blanks b') : Padded cs (b ++ (cs ++ b'))

mutual
/-- The ways to write a value. -/
inductive Node.Spelled : Node → List Char → Prop
  | null : Node.Spelled .null ['n', 'u', 'l', 'l']
  | yes : Node.Spelled (.bool true) ['t', 'r', 'u', 'e']
  | no : Node.Spelled (.bool false) ['f', 'a', 'l', 's', 'e']
  | number {n : Numeral} {cs : List Char} (h : NumeralSpelled n cs) : Node.Spelled (.number n) cs
  | string {s : String} {cs : List Char} (h : TextSpelled s cs) :
      Node.Spelled (.string ⟨s, true⟩) cs
  | emptyArray {b : List Char} (hb : Blanks b) : Node.Spelled (.array [] true) ('[' :: b ++ [']'])
  | array {items : List Node} {cs : List Char} (h : ItemsSpelled items cs) :
      Node.Spelled (.array items true) ('[' :: cs ++ [']'])
  | emptyObject {b : List Char} (hb : Blanks b) :
      Node.Spelled (.object [] true) ('\x7b' :: b ++ ['\x7d'])
  | object {members : List (Token × Node)} {cs : List Char} (h : MembersSpelled members cs) :
      Node.Spelled (.object members true) ('\x7b' :: cs ++ ['\x7d'])

/-- The ways to write the items of an array, at least one. -/
inductive ItemsSpelled : List Node → List Char → Prop
  | last {node : Node} {cs ds : List Char} (h : Node.Spelled node cs) (hds : Padded cs ds) :
      ItemsSpelled [node] ds
  | more {node : Node} {items : List Node} {cs ds es : List Char} (h : Node.Spelled node cs)
      (hds : Padded cs ds) (hitems : ItemsSpelled items es) :
      ItemsSpelled (node :: items) (ds ++ ',' :: es)

/-- The ways to write the members of an object, at least one. -/
inductive MembersSpelled : List (Token × Node) → List Char → Prop
  | last {name : String} {node : Node} {ks ls cs ds : List Char} (hname : TextSpelled name ks)
      (hls : Padded ks ls) (h : Node.Spelled node cs) (hds : Padded cs ds) :
      MembersSpelled [(⟨name, true⟩, node)] (ls ++ ':' :: ds)
  | more {name : String} {node : Node} {members : List (Token × Node)}
      {ks ls cs ds es : List Char} (hname : TextSpelled name ks) (hls : Padded ks ls)
      (h : Node.Spelled node cs) (hds : Padded cs ds) (hmembers : MembersSpelled members es) :
      MembersSpelled ((⟨name, true⟩, node) :: members) (ls ++ ':' :: (ds ++ ',' :: es))
end

/-- The texts of a document: its value with blanks around it. -/
def Node.WrittenAs (node : Node) (text : String) : Prop :=
  ∃ cs, node.Spelled cs ∧ Padded cs text.toList

theorem Node.Spelled.writtenAs {node : Node} {cs b b' : List Char} (h : node.Spelled cs)
    (hb : Blanks b) (hb' : Blanks b') {text : String} (htext : text.toList = b ++ (cs ++ b')) :
    node.WrittenAs text :=
  ⟨cs, h, htext ▸ .mk hb hb'⟩

/-! ## Blanks -/

theorem isSpace_iff (c : Char) : isSpace c = true ↔ c ∈ [' ', '\n', '\t', '\r'] := by
  simp [isSpace, or_assoc]

theorem blanks_nil : Blanks [] := fun _ hc => absurd hc List.not_mem_nil

theorem Blanks.skipSpace {b : List Char} (hb : Blanks b) (cs : List Char) :
    skipSpace (b ++ cs) = skipSpace cs :=
  List.dropWhile_append_of_pos fun c hc => (isSpace_iff c).mpr (hb c hc)

theorem skipSpace_cons {c : Char} (h : isSpace c = false) (cs : List Char) :
    skipSpace (c :: cs) = c :: cs := by
  rw [skipSpace, List.dropWhile_cons_of_neg (by simp [h])]

theorem skipSpace_skipSpace (cs : List Char) : skipSpace (skipSpace cs) = skipSpace cs := by
  unfold skipSpace
  induction cs with
  | nil => rfl
  | cons c cs ih => by_cases hc : isSpace c <;> simp [hc, ih]

/-! ## Strings -/

theorem IsHex.hexValue? {c : Char} {n : Nat} (h : IsHex c n) : hexValue? c = some n := by
  have hdigit : ∀ ds : List Char, (ds = "0123456789abcdef".toList ∨
      ds = "0123456789ABCDEF".toList) → ds[n]? = some c → Json.hexValue? c = some n := by
    have hall : ∀ ds ∈ ["0123456789abcdef".toList, "0123456789ABCDEF".toList], ∀ i < 16,
        ds[i]?.bind Json.hexValue? = some i := by decide
    intro ds hds hget
    have hlength : n < ds.length := (List.getElem?_eq_some_iff.mp hget).1
    have hbind : ds[n]?.bind Json.hexValue? = some n := by
      rcases hds with rfl | rfl <;> exact hall _ (by simp) n hlength
    rwa [hget] at hbind
  rcases h with h | h
  · exact hdigit _ (Or.inl rfl) h
  · exact hdigit _ (Or.inr rfl) h

/-- Four digits are read as the number they write. -/
theorem IsUnit.readUnits {ds : List Char} {n : Nat} (h : IsUnit ds n) (rest : List Char) :
    readUnits ('\\' :: 'u' :: ds ++ rest) =
      (Json.readUnits rest).map fun p => (.unit n :: p.1, p.2) := by
  rcases h with ⟨a, b, c, d, i, j, k, l, rfl, ha, hb, hc, hd, rfl⟩
  have hunit : hexUnit? a b c d = some (((i * 16 + j) * 16 + k) * 16 + l) := by
    simp [hexUnit?, ha.hexValue?, hb.hexValue?, hc.hexValue?, hd.hexValue?]
  simp only [List.cons_append, List.nil_append, Json.readUnits, hunit]
  cases Json.readUnits rest <;> rfl

/-- A character that may stand in a string is read as itself. -/
theorem readUnits_plain {c : Char} (hquote : c ≠ '"') (hbackslash : c ≠ '\\')
    (hcontrol : 0x20 ≤ c.toNat) (rest : List Char) :
    readUnits (c :: rest) = (readUnits rest).map fun p => (.char c :: p.1, p.2) := by
  rw [readUnits.eq_def]
  split
  case h_5 heq =>
    obtain ⟨rfl, rfl⟩ := List.cons.inj heq
    rw [if_neg (Nat.not_lt.mpr hcontrol)]
    cases readUnits rest <;> rfl
  all_goals simp_all

/-- A character is read off the letter that it is escaped by. -/
theorem readUnits_letter {e c : Char} (h : (e, c) ∈ letters) (rest : List Char) :
    readUnits ('\\' :: e :: rest) = (readUnits rest).map fun p => (.char c :: p.1, p.2) := by
  have hletters : ∀ p ∈ letters, p.1 ≠ 'u' ∧ simpleEscape? p.1 = some p.2 := by decide
  rcases hletters _ h with ⟨he, hc⟩
  rw [readUnits.eq_def]
  split
  case h_4 heq =>
    obtain ⟨-, heq⟩ := List.cons.inj heq
    obtain ⟨rfl, rfl⟩ := List.cons.inj heq
    rw [hc]
    cases readUnits rest <;> rfl
  case h_5 hnone heq =>
    obtain ⟨hbackslash, hrest⟩ := List.cons.inj heq
    exact absurd hrest.symm (hnone e rest hbackslash.symm)
  all_goals simp_all

/-- The elements of a string that stand for a character, whatever follows. -/
def StandsFor (us : List Unit16) (c : Char) : Prop :=
  ∀ rest, pairUnits (us ++ rest) = (c :: (pairUnits rest).1, (pairUnits rest).2)

theorem standsFor_char (c : Char) : StandsFor [.char c] c :=
  fun _ => rfl

/-- The number of a character is no half of a pair. -/
theorem standsFor_unit (c : Char) : StandsFor [.unit c.toNat] c := by
  intro rest
  have hvalid : c.toNat < 0xD800 ∨ 0xDFFF < c.toNat := by
    rcases c.valid with h | h
    · exact Or.inl h
    · exact Or.inr h.1
  have hleading : isLeading c.toNat = false := by simp [isLeading]; omega
  have htrailing : isTrailing c.toNat = false := by simp [isTrailing]; omega
  rw [List.singleton_append, pairUnits.eq_def]
  rcases rest with - | ⟨next | next, rest⟩
  all_goals simp [hleading, htrailing, pairUnits]

theorem standsFor_pair {c : Char} {n m : Nat} (hn : 0xD800 ≤ n ∧ n < 0xDC00)
    (hm : 0xDC00 ≤ m ∧ m < 0xE000)
    (hc : c.toNat = 0x10000 + (n - 0xD800) * 0x400 + (m - 0xDC00)) :
    StandsFor [.unit n, .unit m] c := by
  intro rest
  have hleading : isLeading n = true := by simp [isLeading, hn]
  have htrailing : isTrailing m = true := by simp [isTrailing, hm]
  have hpair : pairUnits (.unit n :: .unit m :: rest) =
      (Char.ofNat c.toNat :: (pairUnits rest).1, (pairUnits rest).2) := by
    rw [pairUnits, hleading, htrailing, hc]
    rfl
  rwa [Char.ofNat_toNat] at hpair

/-- However a character is written, it is read before what follows. -/
theorem CharSpelled.readUnits {c : Char} {ds : List Char} (h : CharSpelled c ds) :
    ∃ us, StandsFor us c ∧ ∀ rest,
      readUnits (ds ++ rest) = (Json.readUnits rest).map fun p => (us ++ p.1, p.2) := by
  cases h with
  | plain hquote hbackslash hcontrol =>
      exact ⟨_, standsFor_char c, readUnits_plain hquote hbackslash hcontrol⟩
  | letter h => exact ⟨_, standsFor_char c, readUnits_letter h⟩
  | unit h => exact ⟨_, standsFor_unit c, h.readUnits⟩
  | @pair _ ds es n m hds hes hn hm hc =>
      refine ⟨_, standsFor_pair hn hm hc, fun rest => ?_⟩
      rw [List.append_assoc, hds.readUnits, hes.readUnits, Option.map_map]
      rfl

/-- What stands between the quotes is read up to the second one. -/
theorem BodySpelled.readUnits {cs ds : List Char} (h : BodySpelled cs ds) (rest : List Char) :
    ∃ us, Json.readUnits (ds ++ '"' :: rest) = some (us, rest) ∧ pairUnits us = (cs, true) := by
  induction h with
  | nil => exact ⟨[], by rw [List.nil_append, Json.readUnits], rfl⟩
  | cons hc _ ih =>
      rcases hc.readUnits with ⟨us, hstands, hread⟩
      rcases ih with ⟨vs, hrest, hpaired⟩
      refine ⟨us ++ vs, ?_, ?_⟩
      · rw [List.append_assoc, hread, hrest, Option.map_some]
      · rw [hstands, hpaired]

/-- A string is read from its first quote to its last, however it is written. -/
theorem TextSpelled.readToken {s : String} {cs : List Char} (h : TextSpelled s cs)
    (rest : List Char) :
    ∃ body, cs ++ rest = '"' :: body ∧ readToken body = some (⟨s, true⟩, rest) := by
  rcases h with ⟨ds, hds, rfl⟩
  rcases hds.readUnits rest with ⟨us, hread, hpaired⟩
  refine ⟨ds ++ '"' :: rest, by simp, ?_⟩
  simp only [Json.readToken, hread, Option.bind_eq_bind, Option.bind_some, hpaired,
    String.ofList_toList, Option.pure_def]

/-! ## Numbers -/

/-- What may follow a value: a blank, or what goes on with or ends a list. -/
def Follows (rest : List Char) : Prop :=
  ∀ c ∈ rest.head?, c ∈ [' ', '\n', '\t', '\r', ',', ']', '\x7d']

theorem Digits.spanDigits {ds : List Char} (h : Digits ds) {rest : List Char}
    (hrest : ∀ c ∈ rest.head?, c.isDigit = false) : spanDigits (ds ++ rest) = (ds, rest) := by
  have hstop : rest.takeWhile Char.isDigit = [] ∧ rest.dropWhile Char.isDigit = rest := by
    cases rest with
    | nil => exact ⟨rfl, rfl⟩
    | cons c rest => simp [hrest c rfl]
  rw [Json.spanDigits, List.takeWhile_append_of_pos h.2, List.dropWhile_append_of_pos h.2,
    hstop.1, hstop.2, List.append_nil]

/-- No part of a number starts with such a character. -/
theorem Follows.stops {rest : List Char} (h : Follows rest) :
    ∀ c ∈ rest.head?, c.isDigit = false ∧ c ≠ '.' ∧ c ≠ 'e' ∧ c ≠ 'E' := by
  have hall : ∀ c ∈ [' ', '\n', '\t', '\r', ',', ']', '\x7d'],
      c.isDigit = false ∧ c ≠ '.' ∧ c ≠ 'e' ∧ c ≠ 'E' := by simp
  exact fun c hc => hall c (h c hc)

/-- The exponent is read, if there is one. -/
theorem ExponentSpelled.readExponent {exponent : Option (Bool × List Char)} {x rest : List Char}
    (h : ExponentSpelled exponent x) (hrest : Follows rest) :
    readExponent (x ++ rest) = some (exponent, rest) := by
  cases h with
  | absent =>
      cases rest with
      | nil => rfl
      | cons c rest =>
          have hc := (hrest.stops c rfl).2.2
          simp only [List.nil_append, Json.readExponent.eq_def, hc, or_self, if_false]
  | @digits e sign ds negative he hsign hds =>
      have hspan := hds.spanDigits fun c hc => (hrest.stops c hc).1
      rcases ds with - | ⟨d, ds⟩
      · exact absurd rfl hds.1
      have hd := hds.2 d List.mem_cons_self
      simp only [List.append_assoc, List.cons_append, Json.readExponent.eq_def, if_pos he]
      simp only [List.mem_cons, Prod.mk.injEq, List.not_mem_nil, or_false] at hsign
      rcases hsign with ⟨rfl, rfl⟩ | ⟨rfl, rfl⟩ | ⟨rfl, rfl⟩
      · simp only [List.cons_append, List.nil_append] at hspan ⊢
        rw [hspan]
      · simp only [List.cons_append, List.nil_append] at hspan ⊢
        rw [hspan]
      · -- Without a sign the digits come at once, and none of them is one.
        have hminus : d ≠ '-' := by rintro rfl; exact absurd hd (by decide)
        have hplus : d ≠ '+' := by rintro rfl; exact absurd hd (by decide)
        simp only [List.cons_append, List.nil_append] at hspan ⊢
        simp [hminus, hplus, hspan]

theorem ExponentSpelled.head {exponent : Option (Bool × List Char)} {x rest : List Char}
    (h : ExponentSpelled exponent x) (hrest : Follows rest) :
    ∀ c ∈ (x ++ rest).head?, c.isDigit = false ∧ c ≠ '.' := by
  cases h with
  | absent => exact fun c hc => ⟨(hrest.stops c hc).1, (hrest.stops c hc).2.1⟩
  | digits he =>
      intro c hc
      obtain rfl := Option.some.inj hc
      rcases he with rfl | rfl <;> decide

/-- The digits after the point are read, if there are any. -/
theorem FractionSpelled.readFraction {fraction : Option (List Char)} {f rest : List Char}
    (h : FractionSpelled fraction f)
    (hrest : ∀ c ∈ rest.head?, c.isDigit = false ∧ c ≠ '.') :
    readFraction (f ++ rest) = some (fraction, rest) := by
  cases h with
  | absent =>
      rw [List.nil_append, Json.readFraction.eq_def]
      split
      · exact absurd rfl (hrest '.' rfl).2
      · rfl
  | @digits ds hds =>
      have hspan := hds.spanDigits fun c hc => (hrest c hc).1
      rcases ds with - | ⟨d, ds⟩
      · exact absurd rfl hds.1
      · rw [List.cons_append, Json.readFraction, hspan]

theorem FractionSpelled.head {fraction : Option (List Char)} {f rest : List Char}
    (h : FractionSpelled fraction f)
    (hrest : ∀ c ∈ rest.head?, c.isDigit = false) : ∀ c ∈ (f ++ rest).head?, c.isDigit = false := by
  cases h with
  | absent => exact hrest
  | digits => simp

/-- The digits before the point are read. -/
theorem readWhole_digits {whole rest : List Char} (h : Digits whole)
    (hzero : whole.head? = some '0' → whole = ['0'])
    (hrest : ∀ c ∈ rest.head?, c.isDigit = false) : readWhole (whole ++ rest) = some (whole, rest) := by
  rcases whole with - | ⟨d, ds⟩
  · exact absurd rfl h.1
  by_cases hd : d = '0'
  · subst hd
    obtain rfl : ds = [] := (List.cons.inj (hzero rfl)).2
    cases rest with
    | nil => rfl
    | cons c rest =>
        rw [List.cons_append, List.nil_append, readWhole, hrest c rfl]
        rfl
  · rw [List.cons_append, readWhole.eq_def]
    split
    · rename_i heq
      exact absurd (List.cons.inj heq).1 hd
    · rw [← List.cons_append, h.spanDigits hrest]

/-- A number is read, however it is written, if what follows cannot go on with it. -/
theorem NumeralSpelled.readNumeral {n : Numeral} {cs rest : List Char} (h : NumeralSpelled n cs)
    (hrest : Follows rest) : readNumeral (cs ++ rest) = some (n, rest) := by
  rcases h with @⟨negative, sign, whole, f, x, fraction, exponent, hsign, hwhole, hzero, hf, hx⟩
  have hexponent := hx.readExponent hrest
  have hfraction := hf.readFraction (hx.head hrest)
  have hread := readWhole_digits hwhole hzero
    (hf.head fun c hc => (hx.head hrest c hc).1)
  cases negative with
  | true =>
      simp only [hsign, if_true, List.cons_append, List.nil_append, List.append_assoc,
        Json.readNumeral, hread, hfraction, hexponent, Option.bind_eq_bind, Option.bind_some,
        Option.pure_def]
  | false =>
      rcases whole with - | ⟨d, ds⟩
      · exact absurd rfl hwhole.1
      have hminus : d ≠ '-' := by
        rintro rfl
        exact absurd (hwhole.2 '-' List.mem_cons_self) (by decide)
      simp only [List.cons_append] at hread
      simp only [hsign, Bool.false_eq_true, if_false, List.cons_append, List.nil_append,
        List.append_assoc, Json.readNumeral]
      split
      · simp_all
      · simp only [hread, hfraction, hexponent, Option.bind_eq_bind, Option.bind_some,
          Option.pure_def]

/-- A number starts with its sign or a digit. -/
theorem NumeralSpelled.head {n : Numeral} {cs : List Char} (h : NumeralSpelled n cs) :
    ∃ c t, cs = c :: t ∧ (c = '-' ∨ c.isDigit = true) := by
  rcases h with @⟨negative, sign, whole, f, x, fraction, exponent, hsign, hwhole, -, -, -⟩
  cases negative with
  | true => exact ⟨'-', _, by rw [hsign]; rfl, Or.inl rfl⟩
  | false =>
      rcases whole with - | ⟨d, ds⟩
      · exact absurd rfl hwhole.1
      · exact ⟨d, _, by rw [hsign]; rfl, Or.inr (hwhole.2 d List.mem_cons_self)⟩

/-! ## Values -/

/-- A value starts with a character that is no blank and ends no list. -/
theorem Node.Spelled.head {node : Node} {cs : List Char} (h : node.Spelled cs) :
    ∃ c t, cs = c :: t ∧ isSpace c = false ∧ c ≠ ']' := by
  cases h with
  | number h =>
      rcases h.head with ⟨c, t, rfl, rfl | hc⟩
      · exact ⟨_, _, rfl, by decide, by decide⟩
      · refine ⟨c, t, rfl, Bool.eq_false_iff.mpr fun hspace => ?_, ?_⟩
        · have hnot : ∀ d ∈ [' ', '\n', '\t', '\r'], d.isDigit = false := by simp
          exact absurd hc (by rw [hnot c ((isSpace_iff c).mp hspace)]; decide)
        · rintro rfl
          exact absurd hc (by decide)
  | string h =>
      rcases h with ⟨ds, -, rfl⟩
      exact ⟨_, _, rfl, by decide, by decide⟩
  | _ => exact ⟨_, _, rfl, by decide, by decide⟩

theorem Blanks.follows {b rest : List Char} (hb : Blanks b) (hrest : Follows rest) :
    Follows (b ++ rest) := by
  cases b with
  | nil => exact hrest
  | cons c b =>
      intro d hd
      obtain rfl : c = d := Option.some.inj hd
      exact List.mem_append_left [',', ']', '\x7d'] (hb c List.mem_cons_self)

/-- Where a value is read, blanks before it do not matter. -/
theorem readValue_skipSpace (fuel : Nat) (cs : List Char) :
    readValue fuel (skipSpace cs) = readValue fuel cs := by
  cases fuel with
  | zero => rfl
  | succ fuel => rw [readValue, readValue, skipSpace_skipSpace]

theorem Blanks.readValue {b : List Char} (hb : Blanks b) (fuel : Nat) (cs : List Char) :
    readValue fuel (b ++ cs) = readValue fuel cs := by
  rw [← readValue_skipSpace, hb.skipSpace, readValue_skipSpace]

theorem readItems_skipSpace (fuel : Nat) (cs : List Char) :
    readItems fuel (skipSpace cs) = readItems fuel cs := by
  cases fuel with
  | zero => rfl
  | succ fuel => rw [readItems, readItems, readValue_skipSpace]

theorem readMembers_skipSpace (fuel : Nat) (cs : List Char) :
    readMembers fuel (skipSpace cs) = readMembers fuel cs := by
  cases fuel with
  | zero => rfl
  | succ fuel => rw [readMembers, readMembers, skipSpace_skipSpace]

/-- The first item of an array is not its end. -/
theorem ItemsSpelled.head {items : List Node} {cs : List Char} (h : ItemsSpelled items cs)
    (rest : List Char) : ∃ c t, skipSpace (cs ++ rest) = c :: t ∧ c ≠ ']' := by
  have hfirst : ∀ {node cs ds}, Node.Spelled node cs → Padded cs ds → ∀ rest,
      ∃ c t, skipSpace (ds ++ rest) = c :: t ∧ c ≠ ']' := by
    rintro node cs ds hnode ⟨hb, -⟩ rest
    rcases hnode.head with ⟨c, t, rfl, hspace, hc⟩
    exact ⟨c, _, by rw [List.append_assoc, hb.skipSpace, List.append_assoc, List.cons_append,
      skipSpace_cons hspace], hc⟩
  cases h with
  | last hnode hds => exact hfirst hnode hds rest
  | more hnode hds hitems =>
      rw [List.append_assoc]
      exact hfirst hnode hds _

/-- The first member of an object starts with a quote. -/
theorem MembersSpelled.head {members : List (Token × Node)} {cs : List Char}
    (h : MembersSpelled members cs) (rest : List Char) :
    ∃ t, skipSpace (cs ++ rest) = '"' :: t := by
  have hfirst : ∀ {name ks ls}, TextSpelled name ks → Padded ks ls → ∀ rest,
      ∃ t, skipSpace (ls ++ rest) = '"' :: t := by
    rintro name ks ls ⟨body, -, rfl⟩ ⟨hb, -⟩ rest
    exact ⟨_, by rw [List.append_assoc, hb.skipSpace, List.append_assoc, List.cons_append,
      List.cons_append, skipSpace_cons (by decide)]⟩
  cases h with
  | last hname hls =>
      rw [List.append_assoc]
      exact hfirst hname hls _
  | more hname hls =>
      rw [List.append_assoc]
      exact hfirst hname hls _

/-- A string is a value by itself. -/
theorem readValue_quote {body rest : List Char} {t : Token} (fuel : Nat)
    (h : readToken body = some (t, rest)) :
    readValue (fuel + 1) ('"' :: body) = (.string t, some rest) := by
  rw [readValue, skipSpace_cons (by decide)]
  simp [readScalar, h]

/-- So is a number. -/
theorem readValue_number {n : Numeral} {cs rest : List Char} (fuel : Nat)
    (h : NumeralSpelled n cs) (hrest : Follows rest) :
    readValue (fuel + 1) (cs ++ rest) = (.number n, some rest) := by
  have hread := h.readNumeral hrest
  rcases h.head with ⟨c, t, rfl, hc⟩
  have hother : ∀ d ∈ [' ', '\n', '\t', '\r', '[', '\x7b', 'n', 't', 'f', '"'], c ≠ d := by
    rintro d hd rfl
    have hnot : ∀ d ∈ [' ', '\n', '\t', '\r', '[', '\x7b', 'n', 't', 'f', '"'],
        d ≠ '-' ∧ d.isDigit = false := by simp
    rcases hc with hc | hc
    · exact (hnot _ hd).1 hc
    · rw [(hnot _ hd).2] at hc
      exact Bool.false_ne_true hc
  simp only [List.mem_cons, List.not_mem_nil, or_false, forall_eq_or_imp, forall_eq] at hother
  have hspace : isSpace c = false := by
    rw [Bool.eq_false_iff, Ne, isSpace_iff]
    simp [hother]
  rw [List.cons_append] at hread ⊢
  rw [readValue, skipSpace_cons hspace]
  simp [hother, readScalar, hread]

/-- One of the characters that go on with a list or end it may follow. -/
theorem follows_cons (c : Char) (hc : c ∈ [',', ']', '\x7d']) (rest : List Char) :
    Follows (c :: rest) := by
  intro d hd
  obtain rfl : c = d := Option.some.inj hd
  exact List.mem_append_right [' ', '\n', '\t', '\r'] hc

-- The induction is on the rules. Blanks cost nothing, and past a value there is always one
-- character more, which pays for the step to the next one.
mutual
/-- A value is read, however it is written and whatever follows. -/
theorem Node.Spelled.readValue {node : Node} {cs : List Char} (h : node.Spelled cs) (fuel : Nat)
    (hfuel : 2 * cs.length ≤ fuel) {rest : List Char} (hrest : Follows rest) :
    readValue fuel (cs ++ rest) = (node, some rest) := by
  rcases h.head with ⟨c, t, hcs, -⟩
  rcases fuel with - | fuel
  · exact absurd hfuel (by simp [hcs])
  match h with
  | .null => simp [Json.readValue, skipSpace_cons, isSpace, readScalar]
  | .yes => simp [Json.readValue, skipSpace_cons, isSpace, readScalar]
  | .no => simp [Json.readValue, skipSpace_cons, isSpace, readScalar]
  | .number h => exact readValue_number fuel h hrest
  | .string h =>
      rcases h.readToken rest with ⟨body, hbody, hread⟩
      rw [hbody, readValue_quote fuel hread]
  | .emptyArray hb =>
      simp [Json.readValue, skipSpace_cons, isSpace, hb.skipSpace]
  | .array h =>
      have hitems := h.readItems fuel
        (by simp only [List.length_append, List.length_cons] at hfuel; omega) rest
      rcases h.head (']' :: rest) with ⟨c, t, hskip, hc⟩
      rw [← readItems_skipSpace, hskip] at hitems
      simp [Json.readValue, skipSpace_cons, isSpace, hskip, hc, hitems]
  | .emptyObject hb =>
      simp [Json.readValue, skipSpace_cons, isSpace, hb.skipSpace]
  | .object h =>
      have hmembers := h.readMembers fuel
        (by simp only [List.length_append, List.length_cons] at hfuel; omega) rest
      rcases h.head ('\x7d' :: rest) with ⟨t, hskip⟩
      rw [← readMembers_skipSpace, hskip] at hmembers
      simp [Json.readValue, skipSpace_cons, isSpace, hskip, hmembers]

/-- So are the items of an array, up to its closing bracket. -/
theorem ItemsSpelled.readItems {items : List Node} {cs : List Char} (h : ItemsSpelled items cs)
    (fuel : Nat) (hfuel : 2 * cs.length < fuel) (rest : List Char) :
    readItems fuel (cs ++ ']' :: rest) = (items, some rest) := by
  match h, fuel with
  | .last hnode (.mk hb hb'), fuel + 1 =>
      have hvalue := hnode.readValue fuel
        (by simp only [List.length_append] at hfuel; omega)
        (hb'.follows (follows_cons ']' (by simp) rest))
      rw [List.append_assoc, List.append_assoc, Json.readItems, hb.readValue, hvalue]
      simp [hb'.skipSpace, skipSpace_cons, isSpace]
  | @ItemsSpelled.more _ _ _ _ es hnode (.mk hb hb') hitems, fuel + 1 =>
      have hvalue := hnode.readValue fuel
        (by simp only [List.length_append] at hfuel; omega)
        (hb'.follows (follows_cons ',' (by simp) (es ++ ']' :: rest)))
      have hmore := hitems.readItems fuel
        (by simp only [List.length_append, List.length_cons] at hfuel; omega) rest
      rcases hitems.head (']' :: rest) with ⟨c, t, hskip, hc⟩
      rw [← readItems_skipSpace, hskip] at hmore
      rw [List.append_assoc, List.append_assoc, List.append_assoc, Json.readItems,
        hb.readValue, List.cons_append, hvalue]
      simp [hb'.skipSpace, skipSpace_cons, isSpace, hskip, hc, hmore]

/-- So are the members of an object, up to its closing brace. -/
theorem MembersSpelled.readMembers {members : List (Token × Node)} {cs : List Char}
    (h : MembersSpelled members cs) (fuel : Nat) (hfuel : 2 * cs.length < fuel)
    (rest : List Char) : readMembers fuel (cs ++ '\x7d' :: rest) = (members, some rest) := by
  match h, fuel with
  | .last hname (.mk hb hb') hnode (.mk hc hc'), fuel + 1 =>
      have hvalue := hnode.readValue fuel
        (by simp only [List.length_append, List.length_cons] at hfuel; omega)
        (hc'.follows (follows_cons '\x7d' (by simp) rest))
      rcases hname.readToken _ with ⟨body, hbody, hread⟩
      simp only [List.append_assoc, List.cons_append]
      rw [Json.readMembers, hb.skipSpace, hbody, skipSpace_cons (by decide)]
      rw [← hc.readValue] at hvalue
      simp [hread, hb'.skipSpace, hc'.skipSpace, skipSpace_cons, isSpace, hvalue]
  | @MembersSpelled.more _ _ _ _ _ _ _ es hname (.mk hb hb') hnode (.mk hc hc') hmembers,
    fuel + 1 =>
      have hvalue := hnode.readValue fuel
        (by simp only [List.length_append, List.length_cons] at hfuel; omega)
        (hc'.follows (follows_cons ',' (by simp) (es ++ '\x7d' :: rest)))
      have hmore := hmembers.readMembers fuel
        (by simp only [List.length_append, List.length_cons] at hfuel; omega) rest
      rcases hname.readToken _ with ⟨body, hbody, hread⟩
      simp only [List.append_assoc, List.cons_append]
      rw [Json.readMembers, hb.skipSpace, hbody, skipSpace_cons (by decide)]
      rw [← hc.readValue] at hvalue
      simp [hread, hb'.skipSpace, hc'.skipSpace, skipSpace_cons, isSpace, hvalue, hmore]
end

/-! ## Documents -/

/-- Every text of a document is read as that document. -/
theorem Node.WrittenAs.read {node : Node} {text : String} (h : node.WrittenAs text) :
    read text = ⟨node, true⟩ := by
  rcases h with ⟨cs, hcs, hpadded⟩
  generalize htext : text.toList = all at hpadded
  rcases hpadded with @⟨b, b', hb, hb'⟩
  have hend : Follows [] := fun c hc => absurd hc (by simp)
  have hvalue := hcs.readValue (3 * text.toList.length + 3)
    (by rw [htext]; simp only [List.length_append]; omega) (hb'.follows hend)
  rw [← hb.readValue, List.append_nil, htext] at hvalue
  have hclean : skipSpace b' = [] := by simpa [skipSpace] using hb'.skipSpace []
  simp only [Json.read, htext, hvalue, hclean, List.isEmpty_nil]

/-- A text says one document at most. -/
theorem Node.WrittenAs.unique {node other : Node} {text : String} (h : node.WrittenAs text)
    (h' : other.WrittenAs text) : node = other := by
  have hsame := h.read.symm.trans h'.read
  exact (Document.mk.inj hsame).1

end Json

end Qualifier
