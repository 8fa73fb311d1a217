import Qualifier.Json.Numeral

/-!
# JSON Documents as Far as They Can Be Read

A document that breaks off with a syntax error still has a readable part before
the error, and a reader that expects certain members may object to that part
first. So reading never fails: it yields a tree whose leaves and ends tell where
the text stopped being JSON.

## Main definitions

* `Token`: A string of a document.
* `Node`: A value of a document, possibly cut short.
* `Node.isIntact`: Nothing in the value is cut short.
* `Document`: A value and whether only blanks follow it.
-/

namespace Qualifier

namespace Json

/-- A string as it was read. `paired` is false if an escape named half of a
    surrogate pair without its other half, so that there is no text to speak of. -/
structure Token where
  text : String
  paired : Bool
deriving DecidableEq, Repr

/-- A value of a document. `closed` is false where the text of an array or object
    stops being JSON after the items listed; `broken` stands where a value was
    due and none could be read. -/
inductive Node where
  | null
  | bool (b : Bool)
  | number (n : Numeral)
  | string (t : Token)
  | array (items : List Node) (closed : Bool)
  | object (members : List (Token × Node)) (closed : Bool)
  | broken

mutual
/-- Whether nothing in a value is cut short. Spelling alone counts here: a string
    without text and a number out of range are intact. -/
def Node.isIntact : Node → Bool
  | .null | .bool _ | .number _ | .string _ => true
  | .array items closed => closed && itemsIntact items
  | .object members closed => closed && membersIntact members
  | .broken => false

/-- Whether nothing in the items of an array is cut short. -/
def itemsIntact : List Node → Bool
  | [] => true
  | node :: rest => node.isIntact && itemsIntact rest

/-- Whether nothing in the members of an object is cut short. -/
def membersIntact : List (Token × Node) → Bool
  | [] => true
  | (_, node) :: rest => node.isIntact && membersIntact rest
end

/-- A whole text: its value, and whether nothing but blanks follows it. -/
structure Document where
  root : Node
  clean : Bool

end Json

end Qualifier
