import Qualifier.Proofs.Text.Segments

/-!
# The Lines of a Text

A program that prints a text for each of several things, and a line break after it, prints one
line for each exactly if none of the texts has a line break of its own. Otherwise a text takes as
many lines as it has stretches between breaks.

## Main definitions

* `Flat`: A text without a line break.
* `pieces`: The stretches of a text between its line breaks.
* `printedLines`: The lines of a text that was printed.

## Theorems

* `flat_ofList`, `flat_append`, `flat_repr`: Literals, texts that are put together, and numbers.
* `segments_append_mark`: A text is cut at every separator, wherever it stands.
* `printedLines_ended`: The lines of texts that are printed one after the other.
* `flatMap_pieces_eq_iff`, `length_flatMap_pieces`: Whether each is one line, and how many there
  are.
-/

namespace Qualifier

namespace Text

/-- There is no line break in a text. -/
def Flat (text : String) : Prop :=
  '\n' ∉ text.toList

instance (text : String) : Decidable (Flat text) :=
  inferInstanceAs (Decidable ('\n' ∉ text.toList))

/-- The stretches of a text between its line breaks. -/
def pieces (text : String) : List String :=
  (segments '\n' text.toList).map String.ofList

/-- The lines of a text that was printed: each is ended by a line break, and what follows the last
    one is no line. -/
def printedLines (text : String) : List String :=
  (segments '\n' text.toList).dropLast.map String.ofList

/-- A text that is given by its characters, as every literal is. -/
theorem flat_ofList {cs : List Char} (h : '\n' ∉ cs) : Flat (String.ofList cs) := by
  rwa [Flat, String.toList_ofList]

@[simp] theorem flat_append (a b : String) : Flat (a ++ b) ↔ Flat a ∧ Flat b := by
  simp [Flat, String.toList_append]

/-- A number is written in digits. -/
@[simp] theorem flat_repr (n : Nat) : Flat n.repr := by
  intro h
  have hdigits : n.repr.toList = Nat.toDigits 10 n := by simp
  rw [hdigits] at h
  have hdigit : '\n'.isDigit = true := Nat.isDigit_of_mem_toDigits (by decide) (by decide) h
  exact absurd hdigit (by decide)

/-- A text is cut at a separator wherever it stands. -/
theorem segments_append_mark (mark : Char) (before after : List Char) :
    segments mark (before ++ mark :: after) = segments mark before ++ segments mark after := by
  induction before with
  | nil => exact segments_append List.not_mem_nil after
  | cons c before ih =>
      rcases hcut : segments mark before with _ | ⟨first, rest⟩
      · exact absurd hcut (segments_ne_nil mark before)
      · rw [hcut] at ih
        by_cases hc : c = mark
        · simp [segments, ih, hcut, hc]
        · simp [segments, ih, hcut, hc]

theorem length_segments (mark : Char) (cs : List Char) :
    (segments mark cs).length = cs.count mark + 1 := by
  induction cs with
  | nil => rfl
  | cons c cs ih =>
      rcases hcut : segments mark cs with _ | ⟨first, rest⟩
      · exact absurd hcut (segments_ne_nil mark cs)
      · rw [hcut] at ih
        by_cases hc : c = mark
        · simp only [segments, hcut, List.length_cons, List.count_cons, hc,
            beq_self_eq_true, if_true] at ih ⊢
          omega
        · simp only [segments, hcut, if_neg hc, List.length_cons, List.count_cons,
            beq_iff_eq] at ih ⊢
          omega

theorem flat_of_mem_pieces {text piece : String} (h : piece ∈ pieces text) : Flat piece := by
  rcases List.mem_map.mp h with ⟨segment, hsegment, rfl⟩
  rw [Flat, String.toList_ofList]
  exact not_mem_of_mem_segments hsegment

theorem pieces_of_flat {text : String} (h : Flat text) : pieces text = [text] := by
  rw [pieces, segments_eq_singleton h, List.map_singleton, String.ofList_toList]

/-- Texts that are printed one after the other, each with a line break after it, take the lines
    that each of them takes. -/
theorem printedLines_ended (texts : List String) :
    printedLines (String.ofList (texts.flatMap fun t => t.toList ++ ['\n']))
      = texts.flatMap pieces := by
  have hcut : segments '\n' (texts.flatMap fun t => t.toList ++ ['\n'])
      = (texts.flatMap fun t => segments '\n' t.toList) ++ [[]] := by
    induction texts with
    | nil => rfl
    | cons text rest ih =>
        rw [List.flatMap_cons, List.flatMap_cons, List.append_assoc, List.singleton_append,
          segments_append_mark, ih, List.append_assoc]
  rw [printedLines, String.toList_ofList, hcut, List.dropLast_concat, List.map_flatMap]
  rfl

/-- Each of several texts takes one line exactly if it has no line break. -/
theorem flatMap_pieces_eq_iff (texts : List String) :
    texts.flatMap pieces = texts ↔ ∀ t ∈ texts, Flat t := by
  constructor
  · intro h text htext
    rw [← h] at htext
    rcases List.mem_flatMap.mp htext with ⟨whole, -, hpiece⟩
    exact flat_of_mem_pieces hpiece
  · intro h
    induction texts with
    | nil => rfl
    | cons text rest ih =>
        rw [List.flatMap_cons, pieces_of_flat (h text List.mem_cons_self),
          ih fun t ht => h t (List.mem_cons_of_mem _ ht), List.singleton_append]

/-- Every line break of its own makes a text take one more line. -/
theorem length_flatMap_pieces (texts : List String) :
    (texts.flatMap pieces).length = texts.length + (texts.flatMap String.toList).count '\n' := by
  induction texts with
  | nil => rfl
  | cons text rest ih =>
      rw [List.flatMap_cons, List.length_append, ih, pieces, List.length_map, length_segments,
        List.length_cons, List.flatMap_cons, List.count_append]
      omega

end Text

end Qualifier
