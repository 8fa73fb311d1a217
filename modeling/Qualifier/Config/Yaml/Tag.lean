/-!
# Tags of YAML

A value may be marked by a tag, whose handle stands for the start of an address. The
first handle is declared by the language, others by directives of the document.

## Main definitions

* `Kind`: What a tag says about a value.
* `Handles.address?`: The address that a tag stands for.
* `Handles.kind?`: What a tag of a document says.
-/

namespace Qualifier

namespace Yaml

/-- What a tag says about a value, if it has one. Tags of no known kind say nothing. -/
inductive Kind where
  | untagged
  | any
  | text
  | integer
  | float
  | boolean
  | nothing
  | sequence
  | mapping
  | moment
  | binary
  | other
deriving DecidableEq, Repr

/-- What the addresses of the kinds start with. -/
def kindAddress : String :=
  "tag:yaml.org,2002:"

/-- The kind of an address. -/
def Kind.ofAddress (address : String) : Kind :=
  let known := [("str", text), ("int", integer), ("float", float), ("bool", boolean),
    ("null", nothing), ("seq", sequence), ("map", mapping), ("timestamp", moment),
    ("binary", binary)]
  if address = "!" then any
  else ((known.find? fun k => kindAddress ++ k.1 = address).map Prod.snd).getD other

/-- Whether a value of a kind may stand for a text. -/
def Kind.allowsText (k : Kind) : Bool :=
  k ∉ [integer, float, boolean, nothing, sequence, mapping]

/-- The handles that are declared, with what they stand for. -/
abbrev Handles := List (String × String)

/-- Whether a handle has to be declared: a name between two exclamation marks. -/
def isNamed (handle : String) : Bool :=
  2 ≤ handle.length && handle.startsWith "!" && handle.endsWith "!"

/-- The address that a tag stands for. -/
def Handles.address? (handles : Handles) (handle suffix : String) : Option String :=
  match handles.lookup handle with
  | some start => some (start ++ suffix)
  | none =>
    if handle = "!!" then some (kindAddress ++ suffix)
    else if isNamed handle then none
    else some (handle ++ suffix)

/-- What a tag of a document says, unless its handle is not declared. -/
def Handles.kind? (handles : Handles) (handle suffix : String) : Option Kind :=
  (handles.address? handle suffix).map Kind.ofAddress

end Yaml

end Qualifier
