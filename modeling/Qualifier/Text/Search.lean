/-!
# Searching in Text

Finding one list of characters inside another, and cutting a text at a separator.

## Main definitions

* `occursIn`: Whether a word occurs somewhere in a text.
* `afterFirst?`: What follows the leftmost occurrence of a word.
* `beforeLast?`: What precedes the last occurrence of a character.
* `afterLast`: What follows the last occurrence of a character.

## Theorems

* `afterLast_eq_self`: Without the separator the whole text is its last segment.
* `not_mem_afterLast`: The last segment holds no separator.
* `afterLast_append`: A segment without separators is what follows the last one.
-/

namespace Qualifier

namespace Text

/-- Whether `word` occurs in the text, at any position. -/
def occursIn (word : List Char) : List Char → Bool
  | [] => word.isEmpty
  | c :: cs => word.isPrefixOf (c :: cs) || occursIn word cs

/-- The text after the leftmost occurrence of `word`, if it occurs. -/
def afterFirst? (word : List Char) : List Char → Option (List Char)
  | [] => if word.isEmpty then some [] else none
  | c :: cs =>
    if word.isPrefixOf (c :: cs) then some ((c :: cs).drop word.length)
    else afterFirst? word cs

/-- The text before the last occurrence of the character `mark`, if it occurs. -/
def beforeLast? (mark : Char) : List Char → Option (List Char)
  | [] => none
  | c :: cs =>
    match beforeLast? mark cs with
    | some before => some (c :: before)
    -- No later occurrence: this one, if it is one, is the last.
    | none => if c = mark then some [] else none

/-- The text after the last occurrence of the character `mark`; all of it if the
    character does not occur. -/
def afterLast (mark : Char) : List Char → List Char
  | [] => []
  | c :: cs =>
    if mark ∈ cs then afterLast mark cs
    else if c = mark then cs
    else c :: cs

/-- Cuts a text at every occurrence of the character `mark`. -/
def segments (mark : Char) : List Char → List (List Char)
  | [] => [[]]
  | c :: cs =>
    match segments mark cs with
    | [] => [[c]]
    | first :: rest => if c = mark then [] :: first :: rest else (c :: first) :: rest

/-- Joins texts with a separator between neighbours. -/
def joined (separator : String) : List String → String
  | [] => ""
  | [s] => s
  | s :: rest => s ++ separator ++ joined separator rest

theorem afterLast_eq_self {mark : Char} {cs : List Char} (h : mark ∉ cs) :
    afterLast mark cs = cs := by
  cases cs with
  | nil => rfl
  | cons c cs =>
    have hc : c ≠ mark := fun hc => h (by simp [hc])
    have hcs : mark ∉ cs := fun hcs => h (by simp [hcs])
    simp [afterLast, hc, hcs]

theorem not_mem_afterLast (mark : Char) (cs : List Char) : mark ∉ afterLast mark cs := by
  induction cs with
  | nil => simp [afterLast]
  | cons c cs ih =>
    by_cases hcs : mark ∈ cs
    · simpa [afterLast, hcs] using ih
    · by_cases hc : c = mark
      · simp [afterLast, hcs, hc]
      · have : mark ≠ c := fun h => hc h.symm
        simp [afterLast, hcs, hc, this]

theorem afterLast_append (mark : Char) (before last : List Char) (h : mark ∉ last) :
    afterLast mark (before ++ mark :: last) = last := by
  induction before with
  | nil => simp [afterLast, h]
  | cons c cs ih =>
    have hmem : mark ∈ cs ++ mark :: last := by simp
    simp only [List.cons_append, afterLast, if_pos hmem, ih]

end Text

end Qualifier
