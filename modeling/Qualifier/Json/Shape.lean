import Qualifier.Json.Reader
import Qualifier.Text.Quoted
import Qualifier.Text.Search

/-!
# Reading Values of a Given Shape

Readers that expect a document to have a certain shape. They look at the document
in the order in which it is written and report the first thing that is not as
expected, be it a value of another kind or the place where the text stops being
JSON.

A record may be written as an object or as an array of its fields in order. In an
object unknown members are passed over, unless the record is strict, and each
known one may occur once.

## Main definitions

* `ShapeError`: What was found instead of what was expected.
* `Wording`: How this is told.
* `Decoder`: A reader of one shape.
* `Record`: The fields of a record; `Record.members` finds them in a document.
* `decode`: A decoder applied to a whole text.
-/

namespace Qualifier

namespace Json

/-- What a reader met that it did not expect. -/
inductive ShapeError where
  /-- The text is not JSON from some place on. -/
  | syntactic
  /-- A value of one kind stands where another is expected. -/
  | mismatch (found expected : String)
  /-- An array that stands for a record ends too early. -/
  | tooShort (length : Nat) (expected : String)
  | missingField (name : String)
  | duplicateField (name : String)
  | unknownField (name : String) (known : List String)
deriving DecidableEq, Repr

/-- What a shape error says of the cause. A syntax error has none beside its place. -/
def ShapeError.message : ShapeError → String
  | .syntactic => "<json syntax>"
  | .mismatch found expected => "invalid type: " ++ found ++ ", expected " ++ expected
  | .tooShort length expected =>
    "invalid length " ++ toString length ++ ", expected " ++ expected
  | .missingField name => "missing field `" ++ name ++ "`"
  | .duplicateField name => "duplicate field `" ++ name ++ "`"
  | .unknownField name known =>
    "unknown field `" ++ name ++ "`, expected one of " ++
      Text.joined ", " (known.map fun k => "`" ++ k ++ "`")

/-- How it is worded that a text cannot be read. The words end in the line and the column that
    the reader had come to, so they depend on the text and not just on what is wrong with it. -/
abbrev Wording := String → ShapeError → String

/-- The words up to the place. -/
def Wording.brief : Wording := fun _ e => e.message

/-- A reader of values of one shape. -/
abbrev Decoder (α : Type) := Node → Except ShapeError α

/-- The complaint about a value that is not of the kind expected. A value that
    cannot be read at all is a syntax error whatever was expected. -/
def mismatch (node : Node) (expected : String) : ShapeError :=
  match node with
  | .null => .mismatch "null" expected
  | .bool b => .mismatch ("boolean `" ++ (if b then "true" else "false") ++ "`") expected
  | .number n =>
    match n.value? with
    | some value => .mismatch value.describe expected
    | none => .syntactic
  | .string t =>
    if t.paired then .mismatch ("string " ++ Text.quoted t.text) expected else .syntactic
  | .array _ _ => .mismatch "sequence" expected
  | .object _ _ => .mismatch "map" expected
  | .broken => .syntactic

/-- A string, named in complaints as told. -/
def stringAs (expected : String) : Decoder String
  | .string t => if t.paired then .ok t.text else .error .syntactic
  | node => .error (mismatch node expected)

/-- A string. -/
def string : Decoder String :=
  stringAs "a string"

/-- A boolean. -/
def boolean : Decoder Bool
  | .bool b => .ok b
  | node => .error (mismatch node "a boolean")

/-- A value that may be absent, which is written as `null`. -/
def nullable {α : Type} (d : Decoder α) : Decoder (Option α)
  | .null => .ok none
  | node => (d node).map some

/-- A list of values of one shape. -/
def list {α : Type} (d : Decoder α) : Decoder (List α)
  | .array items closed => do
    let values ← items.mapM d
    -- Only after all items have been looked at does it matter how the list ends.
    if closed then .ok values else .error .syntactic
  | node => .error (mismatch node "a sequence")

/-- A reader that looks but keeps nothing. -/
def probe {α : Type} (d : Decoder α) : Node → Except ShapeError Unit :=
  fun node => (d node).map fun _ => ()

/-- A field of a record. `mayEndBefore` tells whether an array that stands for the
    record may end before this field. -/
structure Field where
  name : String
  check : Node → Except ShapeError Unit
  mayEndBefore : Bool

/-- A field that an array standing for its record has to reach. -/
def Field.of {α : Type} (name : String) (d : Decoder α) : Field :=
  ⟨name, probe d, false⟩

/-- A field that takes a default where an array standing for its record ends
    before it. -/
def Field.withDefault {α : Type} (name : String) (d : Decoder α) : Field :=
  ⟨name, probe d, true⟩

/-- A record: its name in complaints, its fields in order, and whether it refuses
    members it does not know. -/
structure Record where
  name : String
  fields : List Field
  isStrict : Bool

/-- The members of a record that a document names, each with its value. -/
abbrev Members := List (String × Node)

/-- The value of a member, if the document names it. -/
def Members.get? (ms : Members) (name : String) : Option Node :=
  (ms.find? fun m => m.1 == name).map Prod.snd

/-- The way a record is named where its length is at issue. -/
def Record.sized (r : Record) : String :=
  let count := r.fields.length
  r.name ++ " with " ++ toString count ++ (if count = 1 then " element" else " elements")

/-- Goes through the members of an object in the order in which they are written. -/
def Record.ofObject (r : Record) (closed : Bool) :
    Members → List (Token × Node) → Except ShapeError Members
  | seen, [] => if closed then .ok seen else .error .syntactic
  | seen, (key, value) :: rest =>
    if !key.paired then .error .syntactic
    else
      match r.fields.find? fun f => f.name == key.text with
      | some field =>
        -- A repeated member is refused before its value is looked at.
        if (seen.get? key.text).isSome then .error (.duplicateField key.text)
        else
          match field.check value with
          | .error e => .error e
          | .ok _ => r.ofObject closed (seen ++ [(key.text, value)]) rest
      | none =>
        if r.isStrict then .error (.unknownField key.text (r.fields.map Field.name))
        -- A member that is passed over has to be well formed all the same.
        else if value.isIntact then r.ofObject closed seen rest
        else .error .syntactic

/-- Goes through the items of an array and the fields they stand for. -/
def Record.ofArray (r : Record) (closed : Bool) :
    (index : Nat) → List Field → List Node → Except ShapeError Members
  | _, [], [] => if closed then .ok [] else .error .syntactic
  -- An item too many is reported as text after the end of the array.
  | _, [], _ :: _ => .error .syntactic
  | index, field :: fields, [] =>
    if !closed then .error .syntactic
    else if field.mayEndBefore then r.ofArray closed (index + 1) fields []
    else .error (.tooShort index r.sized)
  | index, field :: fields, item :: items =>
    match field.check item with
    | .error e => .error e
    | .ok _ =>
      match r.ofArray closed (index + 1) fields items with
      | .error e => .error e
      | .ok rest => .ok ((field.name, item) :: rest)

/-- The members of a record, whichever way it is written. -/
def Record.members (r : Record) : Decoder Members
  | .object members closed => r.ofObject closed [] members
  | .array items closed => r.ofArray closed 0 r.fields items
  | node => .error (mismatch node r.name)

/-- The value of a field that has to be there. -/
def Members.required {α : Type} (ms : Members) (name : String) (d : Decoder α) :
    Except ShapeError α :=
  match ms.get? name with
  | some node => d node
  | none => .error (.missingField name)

/-- The value of a field, or a default where it is not there. -/
def Members.getD {α : Type} (ms : Members) (name : String) (d : Decoder α) (default : α) :
    Except ShapeError α :=
  match ms.get? name with
  | some node => d node
  | none => .ok default

/-- Reads a whole text. What follows the value is looked at last. -/
def decode {α : Type} (d : Decoder α) (text : String) : Except ShapeError α := do
  let document := read text
  let value ← d document.root
  if document.clean then .ok value else .error .syntactic

end Json

end Qualifier
