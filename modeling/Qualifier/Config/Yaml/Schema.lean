import Qualifier.Config.Datum
import Qualifier.Config.Environment
import Qualifier.Config.Yaml.Node
import Qualifier.Decimal.Bounds
import Qualifier.Text.Base64
import Qualifier.Text.Utf8

/-!
# The Data of YAML Nodes

What the nodes of a document mean. A scalar without quotes is a truth value or a
number if it looks like one; every other scalar is a text, also one that stands for
nothing. A mapping may take over the entries of others under a merge key.

## Main definitions

* `integer?`, `float?`: The numbers.
* `Scalar.datum?`: The value of a scalar.
* `Meaning`, `Node.meaning`: The value of a node, and what it gives to a mapping that
  merges it.
* `Node.entries?`: The entries of a document.
-/

namespace Qualifier

namespace Yaml

/-- The value of a digit in a base of at most sixteen. -/
def digit? (base : Nat) (c : Char) : Option Nat :=
  (Literal.hexDigit? c).filter (· < base)

/-- The number that digits in a base stand for. Underscores between them say nothing,
    but at least one digit has to be there. -/
def natural? (base : Nat) (cs : List Char) : Option Nat :=
  let digits := cs.filter (· != '_')
  if digits.isEmpty then none
  else digits.foldlM (fun n c => (digit? base c).map (base * n + ·)) 0

/-- The base of a whole number without its sign, and its digits. -/
def baseOf : List Char → Nat × List Char
  | '0' :: 'x' :: digits | '0' :: 'X' :: digits => (16, digits)
  | '0' :: 'o' :: digits | '0' :: 'O' :: digits => (8, digits)
  | '0' :: 'b' :: digits | '0' :: 'B' :: digits => (2, digits)
  | digits => (10, digits)

/-- The whole number that a text stands for, if it fits into 64 bits with or without a
    sign. -/
def integer? (cs : List Char) : Option Int := do
  let (base, digits) := baseOf (Literal.unsigned cs)
  let n ← natural? base digits
  if cs.head? = some '-' then if n ≤ 0x8000000000000000 then some (-(n : Int)) else none
  else if n < 0x10000000000000000 then some n else none

/-- A number that is not whole, or not finite. -/
inductive FloatText where
  | finite
  | infinite (isNegative : Bool)
  | undefined
deriving DecidableEq, Repr

/-- Whether a text is a decimal number, with or without a point and an exponent. -/
def isDecimal (cs : List Char) : Bool :=
  let body := Literal.unsigned cs
  let digits := body.takeWhile Char.isDigit
  Literal.isDecimal cs || (!digits.isEmpty && Literal.isExponent (body.drop digits.length))

/-- The number that is not whole, or not finite, which a text stands for. Decimals out
    of range are infinite. -/
def float? (cs : List Char) : Option FloatText :=
  let isNegative := cs.head? = some '-'
  let word := String.ofList ((Literal.unsigned cs).map Char.toLower)
  if word ∈ ["inf", "infinity", ".inf"] then some (.infinite isNegative)
  else if word ∈ ["nan", ".nan"] then some .undefined
  else if !isDecimal cs then none
  else if Decimal.isOutOfRange cs then some (.infinite isNegative)
  else some .finite

/-- The datum of a number that is not whole. One that is not finite is a text. -/
def FloatText.datum (written : String) : FloatText → Datum
  | finite => .float written
  | infinite true => .text "-.inf"
  | infinite false => .text ".inf"
  | undefined => .text ".nan"

/-- What a scalar without quotes looks like, unless it is a text. -/
def typed? (cs : List Char) : Option Datum :=
  let written := String.ofList cs
  let word := String.ofList (cs.map Char.toLower)
  if word = "true" then some (.boolean true)
  else if word = "false" then some (.boolean false)
  else
    match integer? cs with
    | some n => some (.integer n)
    | none => (float? cs).map (FloatText.datum written)

/-- The text that a scalar stands for, if its kind allows for one. Blanks between the
    characters that bytes are written in say nothing. -/
def scalarText? (kind : Kind) (text : String) : Option String :=
  if !kind.allowsText then none
  else if kind = .binary then do
    let bytes ← Text.ofBase64? (text.toList.filter fun c => !Text.isBlank c)
    Text.strict? ⟨bytes.toArray⟩
  else some text

/-- The value of a scalar. Only a text takes its tag into account. -/
def scalarDatum? (isPlain : Bool) (kind : Kind) (text : String) : Option Datum :=
  match if isPlain then typed? (Text.trimChars text.toList) else none with
  | some d => some d
  | none => (scalarText? kind text).map Datum.text

/-- Whether a scalar stands for nothing. -/
def isNothing (isPlain : Bool) (text : String) : Bool :=
  isPlain && text.map Char.toLower ∈ ["", "~", "null"]

/-- A key of a mapping. Two keys of different kinds are never the same. -/
structure Key where
  kind : Kind
  text : String
deriving DecidableEq, Repr

/-- An entry of a mapping: its key, if that is a scalar, and its value, if that is well
    formed. -/
structure Field where
  key : Option Key
  value : Option Datum

/-- What a node means: its value, and the fields that it gives to a mapping that merges
    it. A node need not have either. -/
structure Meaning where
  value : Option Datum
  merged : Option (List Field)

/-- Whether a node is the key under which other mappings are merged. -/
def Node.isMerge : Node → Bool
  | .scalar true _ "<<" => true
  | _ => false

/-- The key that a node stands for. -/
def Node.key? : Node → Option Key
  | .scalar _ kind text => some ⟨kind, text⟩
  | _ => none

/-- The fields of a mapping with those it merges, of which the later ones come first. -/
def allFields (own : List Field) (merged : List (Option (List Field))) : Option (List Field) := do
  some (own ++ (← merged.mapM id).reverse.flatten)

/-- The fields without those whose key came before. -/
def firstFields (seen : List Key) : List Field → List Field
  | [] => []
  | f :: rest =>
    match f.key with
    | none => f :: firstFields seen rest
    | some k => if k ∈ seen then firstFields seen rest else f :: firstFields (k :: seen) rest

/-- Whether no key comes twice. -/
def areDistinct (fields : List Field) : Bool :=
  (firstFields [] fields).length = fields.length

/-- The entry of a table that a field stands for. -/
def Field.entry? (f : Field) : Option (String × Datum) := do
  let k ← f.key
  some (← scalarText? k.kind k.text, ← f.value)

/-- The value of a mapping. Its own fields have to differ in their keys, and they come
    before those that it merges. -/
def tableOf? (own : List Field) (merged : List (Option (List Field))) : Option Datum := do
  let fields ← allFields own merged
  if areDistinct own then (firstFields [] fields).mapM Field.entry? |>.map Datum.table else none

mutual
/-- What a node means. -/
def Node.meaning : Node → Meaning
  | .scalar isPlain kind text =>
    ⟨scalarDatum? isPlain kind text, if isNothing isPlain text then some [] else none⟩
  | .sequence items =>
    let meanings := itemMeanings items
    ⟨(meanings.mapM Meaning.value).map Datum.list, allFields [] (meanings.map Meaning.merged)⟩
  | .mapping entries =>
    let (own, merged) := entryMeanings entries
    ⟨tableOf? own merged, allFields own merged⟩

/-- What the items of a sequence mean. -/
def itemMeanings : List Node → List Meaning
  | [] => []
  | n :: rest => n.meaning :: itemMeanings rest

/-- The fields of a mapping of its own, and those that it merges. -/
def entryMeanings : List (Node × Node) → List Field × List (Option (List Field))
  | [] => ([], [])
  | (k, v) :: rest =>
    let found := entryMeanings rest
    if k.isMerge then (found.1, v.meaning.merged :: found.2)
    else (⟨k.key?, v.meaning.value⟩ :: found.1, found.2)
end

/-- The entries of a document, whose root has to be a mapping. -/
def Node.entries? (root : Node) : Option Entries :=
  match root.meaning.value with
  | some (.table entries) => some entries
  | _ => none

end Yaml

end Qualifier
