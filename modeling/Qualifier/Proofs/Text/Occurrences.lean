import Qualifier.Text.Blank
import Qualifier.Text.Search

/-!
# Occurrences in a Text

Where a word can stand in a text that is put together from parts. A character that the word
does not hold keeps the parts apart: no occurrence reaches across it, so the word stands in
the whole exactly if it stands in what is on one side of the character or on the other. In
the same way nothing of a word without blanks is lost when a text is trimmed, and a word
cannot begin, or end, in a part that its first character, or its last one, is not in.

Of the occurrences of a word the leftmost one is looked for, and of the occurrences of a
character the last one. Both searches are said here by what they find: a place in the text,
and the fact that no other place is further to the left, or to the right.

## Main definitions

* `LeftmostIn`: The leftmost of the occurrences of a word that have something good behind them.

## Theorems

* `occursIn_iff`: Looking for a word finds it wherever it stands.
* `prefix_append_cons_iff`, `infix_append_cons_iff`: A character that keeps parts apart.
* `infix_trimChars_iff`: A word without blanks stands in a text if it does so after trimming.
* `infix_append_iff_of_head_not_mem`, `infix_append_iff_of_last_not_mem`: Parts in which a word
  cannot begin, or end.
* `beforeLast?_eq_some_iff`, `beforeLast?_eq_none_iff`: What is before the last occurrence of a
  character.
* `leftmostIn_cons_iff`, `leftmostIn_of_not_infix`: Where the leftmost occurrence is.
* `afterFirst?_eq_some_iff`: What is behind the leftmost occurrence of a word.
-/

namespace Qualifier

namespace Text

/-- Looking for a word finds it wherever it stands. -/
theorem occursIn_iff (word text : List Char) : occursIn word text = true ↔ word <:+: text := by
  induction text with
  | nil => rw [occursIn, List.isEmpty_iff, List.infix_nil]
  | cons c cs ih =>
      rw [occursIn, Bool.or_eq_true, List.isPrefixOf_iff_prefix, ih, List.infix_cons_iff]

/-! ## Parts that are kept apart -/

variable {sep : Char} {word : List Char}

/-- No beginning of a text goes past a character that it does not hold. -/
theorem prefix_append_cons_iff (h : sep ∉ word) (before after : List Char) :
    word <+: before ++ sep :: after ↔ word <+: before := by
  constructor
  · intro hword
    by_cases hlen : word.length ≤ before.length
    · exact List.prefix_of_prefix_length_le hword (List.prefix_append _ _) hlen
    · -- A longer word would begin with all that is before the character, and with it.
      have hpast : before ++ [sep] <+: before ++ sep :: after :=
        ⟨after, by rw [List.append_assoc, List.singleton_append]⟩
      have hbegin : before ++ [sep] <+: word := by
        refine List.prefix_of_prefix_length_le hpast hword ?_
        rw [List.length_append, List.length_singleton]
        omega
      have hmem : sep ∈ before ++ [sep] := List.mem_append_right _ List.mem_cons_self
      exact absurd (hbegin.subset hmem) h
  · intro hword
    exact hword.trans (List.prefix_append _ _)

/-- A word stands in a text exactly if it stands on one side of a character that it does not
    hold. -/
theorem infix_append_cons_iff (h : sep ∉ word) (before after : List Char) :
    word <:+: before ++ sep :: after ↔ word <:+: before ∨ word <:+: after := by
  induction before with
  | nil =>
      have hbegin := prefix_append_cons_iff h [] after
      rw [List.nil_append] at hbegin ⊢
      rw [List.infix_cons_iff, hbegin, List.prefix_nil, List.infix_nil]
  | cons c cs ih =>
      have hbegin := prefix_append_cons_iff h (c :: cs) after
      rw [List.cons_append] at hbegin ⊢
      rw [List.infix_cons_iff, hbegin, ih, List.infix_cons_iff, or_assoc]

theorem infix_cons_iff_of_not_mem (h : sep ∉ word) (after : List Char) :
    word <:+: sep :: after ↔ word <:+: after := by
  have hsides := infix_append_cons_iff h [] after
  rw [List.nil_append, List.infix_nil] at hsides
  rw [hsides]
  constructor
  · rintro (rfl | hafter)
    · exact List.nil_infix
    · exact hafter
  · exact Or.inr

/-! ## Trimming -/

theorem infix_dropBlank_iff (h : ∀ c ∈ word, isBlank c = false) (cs : List Char) :
    word <:+: dropBlank cs ↔ word <:+: cs := by
  induction cs with
  | nil => rfl
  | cons c cs ih =>
      by_cases hc : isBlank c = true
      · have hmem : c ∉ word := by
          intro hmem
          rw [h c hmem] at hc
          exact Bool.false_ne_true hc
        have hdrop : dropBlank (c :: cs) = dropBlank cs := List.dropWhile_cons_of_pos hc
        rw [hdrop, ih, infix_cons_iff_of_not_mem hmem]
      · have hkeep : dropBlank (c :: cs) = c :: cs := List.dropWhile_cons_of_neg hc
        rw [hkeep]

/-- Trimming takes nothing away from a word without blanks. -/
theorem infix_trimChars_iff (h : ∀ c ∈ word, isBlank c = false) (cs : List Char) :
    word <:+: trimChars cs ↔ word <:+: cs := by
  have hback : ∀ c ∈ word.reverse, isBlank c = false :=
    fun c hc => h c (List.mem_reverse.mp hc)
  have hturn : word <:+: trimChars cs ↔ word.reverse <:+: dropBlank (dropBlank cs).reverse := by
    rw [trimChars, ← List.reverse_infix, List.reverse_reverse]
  rw [hturn, infix_dropBlank_iff hback, List.reverse_infix, infix_dropBlank_iff h]

/-! ## Beginnings and ends of words -/

/-- Where the first character of a word does not occur, the word does not begin. -/
theorem infix_append_iff_of_head_not_mem {c : Char} {front : List Char} (h : c ∉ front)
    (rest back : List Char) : c :: rest <:+: front ++ back ↔ c :: rest <:+: back := by
  induction front with
  | nil => rfl
  | cons d front ih =>
      simp only [List.mem_cons, not_or] at h
      have hbegin : ¬c :: rest <+: d :: (front ++ back) := by
        intro hpre
        rw [List.cons_prefix_cons] at hpre
        exact h.1 hpre.1
      rw [List.cons_append, List.infix_cons_iff, ih h.2]
      simp only [hbegin, false_or]

/-- Where the last character of a word does not occur, the word does not end. -/
theorem infix_append_iff_of_last_not_mem {c : Char} {back : List Char} (h : c ∉ back)
    (front rest : List Char) : rest ++ [c] <:+: front ++ back ↔ rest ++ [c] <:+: front := by
  have hturned : c ∉ back.reverse := fun hmem => h (List.mem_reverse.mp hmem)
  have hword : (rest ++ [c]).reverse = c :: rest.reverse := by
    rw [List.reverse_append, List.reverse_singleton, List.singleton_append]
  calc rest ++ [c] <:+: front ++ back
      ↔ c :: rest.reverse <:+: back.reverse ++ front.reverse := by
        rw [← hword, ← List.reverse_append, List.reverse_infix]
    _ ↔ c :: rest.reverse <:+: front.reverse :=
        infix_append_iff_of_head_not_mem hturned rest.reverse front.reverse
    _ ↔ rest ++ [c] <:+: front := by
        rw [← hword, List.reverse_infix]

/-! ## The last occurrence of a character -/

theorem beforeLast?_eq_none_iff (mark : Char) (cs : List Char) :
    beforeLast? mark cs = none ↔ mark ∉ cs := by
  induction cs with
  | nil => simp [beforeLast?]
  | cons c cs ih =>
      rw [beforeLast?]
      cases hrest : beforeLast? mark cs with
      | some before =>
          have hmem : mark ∈ cs := by
            refine Decidable.byContradiction fun hnot => ?_
            rw [ih.mpr hnot] at hrest
            exact Option.some_ne_none before hrest.symm
          simp [hmem]
      | none =>
          have hnot : mark ∉ cs := ih.mp hrest
          by_cases hc : c = mark
          · simp [hc]
          · simp [hc, hnot, Ne.symm hc]

/-- What is before the last occurrence of a character has an occurrence behind it, and none
    behind that. -/
theorem beforeLast?_eq_some_iff (mark : Char) (cs before : List Char) :
    beforeLast? mark cs = some before ↔ ∃ last, cs = before ++ mark :: last ∧ mark ∉ last := by
  induction cs generalizing before with
  | nil => simp [beforeLast?]
  | cons c cs ih =>
      rw [beforeLast?]
      cases hrest : beforeLast? mark cs with
      | some middle =>
          rcases (ih middle).mp hrest with ⟨last, rfl, hlast⟩
          constructor
          · intro h
            rw [Option.some.injEq] at h
            exact ⟨last, by rw [← h, List.cons_append], hlast⟩
          · rintro ⟨last', heq, hlast'⟩
            -- A first occurrence at the very beginning would have another one behind it.
            cases before with
            | nil =>
                rw [List.nil_append, List.cons.injEq] at heq
                rw [← heq.2] at hlast'
                exact absurd (List.mem_append_right _ List.mem_cons_self) hlast'
            | cons b before =>
                rw [List.cons_append, List.cons.injEq] at heq
                have hsame := (ih before).mpr ⟨last', heq.2, hlast'⟩
                rw [hrest, Option.some.injEq] at hsame
                rw [heq.1, hsame]
      | none =>
          have hnot : mark ∉ cs := (beforeLast?_eq_none_iff mark cs).mp hrest
          constructor
          · intro h
            by_cases hc : c = mark
            · rw [if_pos hc, Option.some.injEq] at h
              exact ⟨cs, by rw [← h, hc, List.nil_append], hnot⟩
            · rw [if_neg hc] at h
              exact absurd h.symm (Option.some_ne_none before)
          · rintro ⟨last, heq, -⟩
            cases before with
            | nil =>
                rw [List.nil_append, List.cons.injEq] at heq
                rw [if_pos heq.1]
            | cons b before =>
                rw [List.cons_append, List.cons.injEq] at heq
                rw [heq.2] at hnot
                exact absurd (List.mem_append_right _ List.mem_cons_self) hnot

/-! ## The leftmost occurrence of a word -/

/-- Of the occurrences of a word that have something good behind them, the leftmost one has
    `after` behind it. -/
def LeftmostIn (word : List Char) (good : List Char → Prop) (text after : List Char) : Prop :=
  ∃ before, text = before ++ word ++ after ∧ good after ∧
    ∀ before' after', text = before' ++ word ++ after' → good after' →
      before.length ≤ before'.length

variable {good : List Char → Prop}

theorem not_leftmostIn_nil (hword : word ≠ []) (after : List Char) :
    ¬LeftmostIn word good [] after := by
  rintro ⟨before, heq, -⟩
  simp [hword] at heq

/-- Two occurrences at the same place have the same text behind them. -/
theorem eq_of_same_place {before before' after after' : List Char}
    (h : before ++ word ++ after = before' ++ word ++ after')
    (hlen : before.length = before'.length) : after = after' := by
  have hwords : (before ++ word).length = (before' ++ word).length := by
    rw [List.length_append, List.length_append, hlen]
  exact (List.append_inj h hwords).2

/-- There is only one leftmost occurrence. -/
theorem LeftmostIn.unique {text after after' : List Char} (h : LeftmostIn word good text after)
    (h' : LeftmostIn word good text after') : after = after' := by
  rcases h with ⟨before, heq, hgood, hleft⟩
  rcases h' with ⟨before', heq', hgood', hleft'⟩
  have hlen : before.length = before'.length :=
    Nat.le_antisymm (hleft before' after' heq' hgood') (hleft' before after heq hgood)
  exact eq_of_same_place (heq.symm.trans heq') hlen

/-- The leftmost occurrence is at the beginning, or the beginning does not count and it is the
    leftmost one of what follows. -/
theorem leftmostIn_cons_iff (c : Char) (cs after : List Char) :
    LeftmostIn word good (c :: cs) after ↔
      c :: cs = word ++ after ∧ good after ∨
        (¬∃ here, c :: cs = word ++ here ∧ good here) ∧ LeftmostIn word good cs after := by
  constructor
  · rintro ⟨before, heq, hgood, hleft⟩
    cases before with
    | nil => exact Or.inl ⟨heq, hgood⟩
    | cons b before =>
        rw [List.cons_append, List.cons_append, List.cons.injEq] at heq
        refine Or.inr ⟨?_, before, heq.2, hgood, ?_⟩
        · rintro ⟨here, hhere, hgood'⟩
          exact Nat.not_succ_le_zero _ (hleft [] here hhere hgood')
        · intro before' after' heq' hgood'
          refine Nat.le_of_succ_le_succ (hleft (c :: before') after' ?_ hgood')
          rw [heq', List.cons_append, List.cons_append]
  · rintro (⟨heq, hgood⟩ | ⟨hnot, before, heq, hgood, hleft⟩)
    · exact ⟨[], heq, hgood, fun _ _ _ _ => Nat.zero_le _⟩
    · refine ⟨c :: before, by rw [heq, List.cons_append, List.cons_append], hgood, ?_⟩
      intro before' after' heq' hgood'
      cases before' with
      | nil => exact absurd ⟨after', heq', hgood'⟩ hnot
      | cons b before' =>
          rw [List.cons_append, List.cons_append, List.cons.injEq] at heq'
          exact Nat.succ_le_succ (hleft before' after' heq'.2 hgood')

/-- An occurrence is the leftmost one if the word does not occur in what is before its last
    character. -/
theorem leftmostIn_of_not_infix {before : List Char} (h : ¬word <:+: before ++ word.dropLast)
    {after : List Char} (hgood : good after) :
    LeftmostIn word good (before ++ word ++ after) after := by
  refine ⟨before, rfl, hgood, fun before' after' heq _ => ?_⟩
  refine Nat.le_of_not_lt fun hlt => ?_
  have hlen : word.dropLast.length = word.length - 1 := List.length_dropLast
  have hpast : before ++ word.dropLast <+: before ++ word ++ after :=
    (List.prefix_append_right_inj before |>.mpr (List.dropLast_prefix word)).trans
      (List.prefix_append _ _)
  have hother : before' ++ word <+: before ++ word ++ after := by
    rw [heq]
    exact List.prefix_append _ _
  have hinside : before' ++ word <+: before ++ word.dropLast := by
    refine List.prefix_of_prefix_length_le hother hpast ?_
    rw [List.length_append, List.length_append]
    omega
  exact h ((List.suffix_append before' word).isInfix.trans hinside.isInfix)

/-- What is behind the leftmost occurrence of a word. -/
theorem afterFirst?_eq_some_iff (hword : word ≠ []) (text after : List Char) :
    afterFirst? word text = some after ↔ LeftmostIn word (fun _ => True) text after := by
  have hempty : word.isEmpty = false := by
    rw [List.isEmpty_eq_false_iff]
    exact hword
  induction text with
  | nil =>
      rw [afterFirst?, hempty]
      simp only [Bool.false_eq_true, if_false, reduceCtorEq, false_iff]
      exact not_leftmostIn_nil hword after
  | cons c cs ih =>
      rw [afterFirst?, leftmostIn_cons_iff]
      by_cases hhere : word.isPrefixOf (c :: cs) = true
      · rcases List.isPrefixOf_iff_prefix.mp hhere with ⟨rest, hrest⟩
        rw [if_pos hhere, ← hrest, List.drop_left, Option.some.injEq]
        constructor
        · rintro rfl
          exact Or.inl ⟨rfl, trivial⟩
        · rintro (⟨heq, -⟩ | ⟨hnone, -⟩)
          · exact List.append_cancel_left heq
          · exact absurd ⟨rest, rfl, trivial⟩ hnone
      · have hnone : ¬∃ here, c :: cs = word ++ here ∧ True := by
          rintro ⟨here, heq, -⟩
          exact hhere (List.isPrefixOf_iff_prefix.mpr ⟨here, heq.symm⟩)
        rw [if_neg hhere]
        constructor
        · intro hafter
          exact Or.inr ⟨hnone, ih.mp hafter⟩
        · rintro (hat | ⟨-, hleft⟩)
          · exact absurd ⟨after, hat⟩ hnone
          · exact ih.mpr hleft

end Text

end Qualifier
