import Qualifier.Catalog
import Qualifier.Path

/-!
# Trees of Files

A file system as the entries it holds, each at its location below the root.
Entries are directories, regular files with their permission bits, and symbolic
links, whose targets are text and need not exist.

## Main definitions

* `Location`, `Entry`, `Tree`: The data.
* `Tree.get?`, `Tree.put`, `Tree.erase`: Looking at and changing one entry.
* `Tree.plant`: An entry together with the directories that lead to it.
* `Tree.listing`: All entries below a directory in the order of their paths.

## Theorems

* `get?_put_self`, `get?_put_of_ne`: What a change to one entry leaves to be seen.
* `get?_erase_self`, `get?_erase_of_ne`: The same for a removal.
-/

namespace Qualifier

namespace Storage

/-- Where an entry lies: the names that lead to it from the root. -/
abbrev Location := List String

/-- What can lie at a location. -/
inductive Entry where
  | directory
  | file (content : ByteArray) (mode : Nat)
  | link (target : String)

/-- The entries of a file system. The root is a directory without being listed. -/
structure Tree where
  entries : Catalog Location Entry

namespace Tree

/-- A file system that holds nothing but its root. -/
def empty : Tree :=
  ⟨.empty⟩

/-- The entry at a location. -/
def get? (t : Tree) (loc : Location) : Option Entry :=
  if loc = [] then some .directory else t.entries.get? loc

/-- The file system without what lies at a location. -/
def erase (t : Tree) (loc : Location) : Tree :=
  ⟨t.entries.erase loc⟩

/-- The file system with an entry at a location, whatever was there before. -/
def put (t : Tree) (loc : Location) (entry : Entry) : Tree :=
  ⟨t.entries.insert loc entry⟩

/-- The file system with an entry somewhere below a directory, and with directories
    on the way there as far as they are missing. -/
def plant (within : Location) : List String → Entry → Tree → Tree
  | [], _, t => t
  | [name], entry, t => t.put (within ++ [name]) entry
  | name :: rest, entry, t =>
    let place := within ++ [name]
    plant place rest entry (if (t.get? place).isSome then t else t.put place .directory)

/-- The entries below a directory with their paths from there, in the order of the
    paths. -/
def listing (t : Tree) (below : Location) : List (String × Entry) :=
  t.entries.entries.foldr
    (fun e listed =>
      match below.isPrefixOf? e.1 with
      | some (name :: names) => Catalog.insertSorted (Text.joined "/" (name :: names), e.2) listed
      | _ => listed)
    []

@[simp] theorem get?_put_self (t : Tree) (loc : Location) (entry : Entry) (h : loc ≠ []) :
    (t.put loc entry).get? loc = some entry := by
  simp [get?, put, h]

@[simp] theorem get?_erase_self (t : Tree) (loc : Location) (h : loc ≠ []) :
    (t.erase loc).get? loc = none := by
  simp [get?, erase, h]

theorem get?_erase_of_ne (t : Tree) {loc other : Location} (h : other ≠ loc) :
    (t.erase loc).get? other = t.get? other := by
  simp only [get?, erase, Catalog.get?_erase_of_ne t.entries h]

theorem get?_put_of_ne (t : Tree) {loc other : Location} (entry : Entry) (h : other ≠ loc) :
    (t.put loc entry).get? other = t.get? other := by
  simp only [get?, put, Catalog.get?_insert_of_ne t.entries entry h]

end Tree

end Storage

end Qualifier
