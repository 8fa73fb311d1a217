/-!
# Catalogs

Entries under keys, at most one under each. A catalog is what the simulated
services store their records in and what a tree of files is made of.

## Main definitions

* `Catalog`: Entries with their keys.
* `Catalog.get?`, `Catalog.insert`, `Catalog.erase`, `Catalog.modify`: One entry.
* `Catalog.sorted`: All entries in the order of their keys.

## Theorems

* `get?_insert_self`, `get?_insert_of_ne`: What an insertion leaves to be seen.
* `get?_erase_self`, `get?_erase_of_ne`: The same for a removal.
* `get?_modify`: A change shows at its own key only.
-/

namespace Qualifier

/-- Entries under keys. The newest stands first; the operations keep at most one
    under each key. -/
structure Catalog (κ α : Type) where
  entries : List (κ × α)
deriving DecidableEq

namespace Catalog

variable {κ α : Type}

/-- The catalog without entries. -/
def empty : Catalog κ α :=
  ⟨[]⟩

/-- The number of entries. -/
def size (c : Catalog κ α) : Nat :=
  c.entries.length

variable [DecidableEq κ]

/-- The entry under a key. -/
def get? (c : Catalog κ α) (key : κ) : Option α :=
  (c.entries.find? fun e => e.1 = key).map Prod.snd

/-- Whether there is an entry under a key. -/
def contains (c : Catalog κ α) (key : κ) : Bool :=
  (c.get? key).isSome

/-- The catalog without the entry under a key. -/
def erase (c : Catalog κ α) (key : κ) : Catalog κ α :=
  ⟨c.entries.filter fun e => e.1 ≠ key⟩

/-- The catalog with an entry under a key, whatever was there before. -/
def insert (c : Catalog κ α) (key : κ) (value : α) : Catalog κ α :=
  ⟨(key, value) :: (c.erase key).entries⟩

/-- The catalog with the entry under a key changed, if there is one. -/
def modify (c : Catalog κ α) (key : κ) (f : α → α) : Catalog κ α :=
  ⟨c.entries.map fun e => if e.1 = key then (e.1, f e.2) else e⟩

/-- Puts an entry into its place among entries in the order of their keys. -/
def insertSorted {α : Type} (e : String × α) : List (String × α) → List (String × α)
  | [] => [e]
  | f :: rest => if e.1 < f.1 then e :: f :: rest else f :: insertSorted e rest

/-- The entries in the order of their keys. -/
def sorted {α : Type} (c : Catalog String α) : List (String × α) :=
  c.entries.foldr insertSorted []

omit [DecidableEq κ] in
@[simp] theorem get?_empty [DecidableEq κ] (key : κ) : (empty : Catalog κ α).get? key = none :=
  rfl

@[simp] theorem get?_insert_self (c : Catalog κ α) (key : κ) (value : α) :
    (c.insert key value).get? key = some value := by
  simp [get?, insert]

theorem get?_erase_of_ne (c : Catalog κ α) {key other : κ} (h : other ≠ key) :
    (c.erase key).get? other = c.get? other := by
  simp only [get?, erase, List.find?_filter]
  congr 2
  funext e
  by_cases he : e.1 = other <;> simp [he, h]

@[simp] theorem get?_erase_self (c : Catalog κ α) (key : κ) : (c.erase key).get? key = none := by
  simp [get?, erase]

theorem get?_insert_of_ne (c : Catalog κ α) {key other : κ} (value : α) (h : other ≠ key) :
    (c.insert key value).get? other = c.get? other := by
  rw [← get?_erase_of_ne c h]
  simp [get?, insert, h.symm]

theorem get?_modify (c : Catalog κ α) (key other : κ) (f : α → α) :
    (c.modify key f).get? other = if other = key then (c.get? other).map f else c.get? other := by
  simp only [get?, modify]
  induction c.entries with
  | nil => simp
  | cons e rest ih =>
    by_cases hk : e.1 = key <;> by_cases ho : e.1 = other
    · subst hk; subst ho; simp
    · have : other ≠ key := fun h => ho (hk.trans h.symm)
      simp_all
    · have : other ≠ key := fun h => hk (ho.trans h)
      simp_all
    · simp_all

end Catalog

end Qualifier
