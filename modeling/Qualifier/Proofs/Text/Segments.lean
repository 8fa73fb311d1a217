import Qualifier.Text.Search

/-!
# The Segments of a Text

What cutting a text at a separator yields: at least one segment, none of which holds
the separator, and of which the last is what follows the last separator.

## Theorems

* `segments_eq_singleton`: A text without separators is its only segment.
* `segments_append`: What is before the first separator is the first segment.
* `not_mem_of_mem_segments`: No segment holds the separator.
* `getLastD_segments`: The last segment is what follows the last separator.
-/

namespace Qualifier

namespace Text

theorem segments_ne_nil (mark : Char) (cs : List Char) : segments mark cs ≠ [] := by
  cases cs with
  | nil => simp [segments]
  | cons c cs =>
      unfold segments
      split
      · simp
      · split <;> simp

/-- Cutting a text without separators leaves it whole. -/
theorem segments_eq_singleton {mark : Char} {cs : List Char} (h : mark ∉ cs) :
    segments mark cs = [cs] := by
  induction cs with
  | nil => rfl
  | cons c cs ih =>
      simp only [List.mem_cons, not_or] at h
      rw [segments, ih h.2]
      simp only [if_neg (Ne.symm h.1)]

/-- The first separator ends the first segment. -/
theorem segments_append {mark : Char} {first : List Char} (h : mark ∉ first) (rest : List Char) :
    segments mark (first ++ mark :: rest) = first :: segments mark rest := by
  induction first with
  | nil =>
      rcases hcut : segments mark rest with _ | ⟨second, others⟩
      · exact absurd hcut (segments_ne_nil mark rest)
      · simp [segments, hcut]
  | cons c first ih =>
      simp only [List.mem_cons, not_or] at h
      rw [List.cons_append, segments, ih h.2]
      simp only [if_neg (Ne.symm h.1)]

/-- A text with a separator has at least two segments. -/
theorem exists_segments_cons {mark : Char} {cs : List Char} (h : mark ∈ cs) :
    ∃ first second rest, segments mark cs = first :: second :: rest := by
  induction cs with
  | nil => exact absurd h List.not_mem_nil
  | cons c cs ih =>
      rcases hcut : segments mark cs with _ | ⟨first, rest⟩
      · exact absurd hcut (segments_ne_nil mark cs)
      · by_cases hc : c = mark
        · exact ⟨[], first, rest, by simp [segments, hcut, hc]⟩
        · have hmem : mark ∈ cs := (List.mem_cons.mp h).resolve_left (Ne.symm hc)
          rcases ih hmem with ⟨f, s, r, hmore⟩
          rw [hmore, List.cons.injEq] at hcut
          rcases hcut with ⟨rfl, rfl⟩
          exact ⟨c :: f, s, r, by simp [segments, hmore, hc]⟩

theorem getLastD_segments (mark : Char) (cs : List Char) :
    (segments mark cs).getLastD [] = afterLast mark cs := by
  induction cs with
  | nil => rfl
  | cons c cs ih =>
      by_cases hmem : mark ∈ cs
      · rcases exists_segments_cons hmem with ⟨first, second, rest, hcut⟩
        rw [afterLast, if_pos hmem, ← ih, segments, hcut]
        by_cases hc : c = mark <;> simp [hc]
      · rw [segments, segments_eq_singleton hmem, afterLast, if_neg hmem]
        by_cases hc : c = mark <;> simp [hc]

theorem not_mem_of_mem_segments {mark : Char} {cs segment : List Char}
    (h : segment ∈ segments mark cs) : mark ∉ segment := by
  induction cs generalizing segment with
  | nil =>
      rw [segments, List.mem_singleton] at h
      rw [h]
      exact List.not_mem_nil
  | cons c cs ih =>
      rcases hcut : segments mark cs with _ | ⟨first, rest⟩
      · exact absurd hcut (segments_ne_nil mark cs)
      · rw [hcut] at ih
        by_cases hc : c = mark
        · simp only [segments, hcut, if_pos hc, List.mem_cons] at h
          rcases h with rfl | h
          · exact List.not_mem_nil
          · exact ih (List.mem_cons.mpr h)
        · simp only [segments, hcut, if_neg hc, List.mem_cons] at h
          rcases h with rfl | h
          · rw [List.mem_cons, not_or]
            exact ⟨Ne.symm hc, ih List.mem_cons_self⟩
          · exact ih (List.mem_cons_of_mem _ h)

end Text

end Qualifier
