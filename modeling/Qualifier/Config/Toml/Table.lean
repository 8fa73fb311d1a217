import Qualifier.Config.Datum

/-!
# Tables in TOML

How the lines of a TOML file add up to one table. A table comes into being when a
header names it, when a header or a dotted key leads through it, or as a value.
What is given a value once cannot be given another, and what one way has made
complete cannot be opened again in another way.

## Main definitions

* `Origin`, `Node`: What lies under a key while a file is being read.
* `descend`: A change at the end of a path of headers.
* `openTable`, `openElement`: What a header does.
* `assign`: What a line with a value does.
* `Node.datum`: The finished value.
-/

namespace Qualifier

namespace Toml

/-- How a table came into being: a header led through it, a header named it, or a
    dotted key led through it. -/
inductive Origin where
  | implied
  | headed
  | dotted
deriving DecidableEq, Repr

/-- What lies under a key: a value, a table, or a list of tables of which the last
    one is still growing. -/
inductive Node where
  | value (d : Datum)
  | table (origin : Origin) (level : List (String × Node))
  | elements (earlier : List Datum) (last : List (String × Node))

/-- The keys of one table with what lies under them. -/
abbrev Level := List (String × Node)

namespace Level

/-- What lies under a key. -/
def get? (level : Level) (key : String) : Option Node :=
  (level.find? fun e => e.1 = key).map Prod.snd

/-- The level with something else under a key that it has. -/
def set (level : Level) (key : String) (node : Node) : Level :=
  level.map fun e => if e.1 = key then (key, node) else e

/-- The level with a further key. -/
def add (level : Level) (key : String) (node : Node) : Level :=
  level ++ [(key, node)]

end Level

mutual
/-- The value of what lies under a key. -/
def Node.datum : Node → Datum
  | .value d => d
  | .table _ level => .table (Level.entries level)
  | .elements earlier last => .list (earlier ++ [.table (Level.entries last)])

/-- The values under the keys of a level. -/
def Level.entries : List (String × Node) → List (String × Datum)
  | [] => []
  | (key, node) :: rest => (key, node.datum) :: Level.entries rest
end

/-- Changes the level at the end of a path of headers. Tables that are missing on the
    way are made; of a list of tables the last one is entered. -/
def descend (change : Level → Option Level) : List String → Level → Option Level
  | [], level => change level
  | key :: path, level =>
    match level.get? key with
    | none => (descend change path []).map fun inner => level.add key (.table .implied inner)
    | some (.table origin inner) =>
      (descend change path inner).map fun inner => level.set key (.table origin inner)
    | some (.elements earlier last) =>
      (descend change path last).map fun last => level.set key (.elements earlier last)
    | some (.value _) => none

/-- Opens the table that a header names. -/
def openTable (key : String) (level : Level) : Option Level :=
  match level.get? key with
  | none => some (level.add key (.table .headed []))
  -- A header may name a table that another header led through before.
  | some (.table .implied inner) => some (level.set key (.table .headed inner))
  | some _ => none

/-- Opens a further table in the list that a header names. -/
def openElement (key : String) (level : Level) : Option Level :=
  match level.get? key with
  | none => some (level.add key (.elements [] []))
  | some (.elements earlier last) =>
    some (level.set key (.elements (earlier ++ [.table (Level.entries last)]) []))
  | some _ => none

/-- Whether a dotted key may lead through a table to what `path` names in it. A table
    with a header of its own is complete as far as dotted keys go; one that headers
    only led through may be passed, but nothing may be put into it. -/
def Origin.isOpen (origin : Origin) (path : List String) : Bool :=
  match origin with
  | .dotted => true
  | .implied => 1 < path.length
  | .headed => false

/-- Gives a dotted key a value. -/
def assign (d : Datum) : List String → Level → Option Level
  | [], _ => none
  | [key], level =>
    match level.get? key with
    | none => some (level.add key (.value d))
    | some _ => none
  | key :: path, level =>
    match level.get? key with
    | none => (assign d path []).map fun inner => level.add key (.table .dotted inner)
    | some (.table origin inner) =>
      if origin.isOpen path then
        (assign d path inner).map fun inner => level.set key (.table origin inner)
      else none
    | some (.elements earlier last) =>
      if Origin.isOpen .implied path then
        (assign d path last).map fun last => level.set key (.elements earlier last)
      else none
    | some (.value _) => none

end Toml

end Qualifier
