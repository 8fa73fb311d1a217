import Mathlib.Data.List.Basic
import Mathlib.Data.List.TakeWhile
import Qualifier.Evidence.LogReference
import Qualifier.Proofs.Text.Occurrences

/-!
# Addresses of Logs as Patterns

An address names a log by two patterns, one for the group and one for the stream. A pattern is
an opening word, any text on one line, and a closing word, which for the stream is nothing. Of
the places where a pattern fits the leftmost one counts, and there the longest text; the text
that is captured may be empty, and then the address names no log, even if the pattern fits
further on with a text in it.

The library does not search for patterns but for words and marks. Both are the same: the
leftmost place where a pattern fits is the leftmost opening word with a mark behind it on its
line, and the longest text ends at the last mark of that line. A line without a mark is passed
over together with its opening word, and a mark inside the captured text is passed over in
favour of a later one.

## Main definitions

* `Between`, `Behind`: What an address holds between a word and a mark, or behind a word.
* `Fits`, `Captures`: Where a pattern fits, and what it captures.
* `Address`: The parts that the console puts an address together from.

## Theorems

* `between_cons_of_none`, `between_iff_of_leftmost`: How the text between a word and a mark is
  found.
* `groupIn?_eq_some_iff`, `streamIn?_eq_some_iff`: What is found in an address.
* `between_iff_captures`, `behind_iff_captures`: The same by patterns.
* `parse?_eq_some_iff`: The reference that an address holds.
* `groupIn?_address`, `streamIn?_address`, `parse?_address`: What is found in an address of the
  console, with anything behind its stream.
* `parse?_patterns`: An address is read by the two patterns.
-/

namespace Qualifier

open Text (LeftmostIn)

/-! ## Lines -/

theorem restOfLine_append {front : List Char} (h : '\n' ∉ front) (rest : List Char) :
    restOfLine (front ++ rest) = front ++ restOfLine rest := by
  refine List.takeWhile_append_of_pos fun c hc => ?_
  rw [decide_eq_true_eq]
  rintro rfl
  exact h hc

theorem restOfLine_of_not_mem {text : List Char} (h : '\n' ∉ text) : restOfLine text = text := by
  have hwhole := restOfLine_append h []
  rwa [List.append_nil, show restOfLine [] = [] from rfl, List.append_nil] at hwhole

theorem not_mem_restOfLine (text : List Char) : '\n' ∉ restOfLine text := by
  intro hmem
  have hkept := List.mem_takeWhile_imp hmem
  rw [decide_eq_true_eq] at hkept
  exact hkept rfl

theorem exists_restOfLine_append (text : List Char) : ∃ rest, text = restOfLine text ++ rest :=
  ⟨text.dropWhile (· ≠ '\n'), List.takeWhile_append_dropWhile.symm⟩

/-! ## Words and marks -/

variable {word text found : List Char} {mark : Char}

/-- What a text holds between a word and a mark: behind the leftmost occurrence of the word that
    has a mark behind it on its line, up to the last such mark. -/
def Between (word : List Char) (mark : Char) (text found : List Char) : Prop :=
  ∃ after last, LeftmostIn word (mark ∈ restOfLine ·) text after ∧
    restOfLine after = found ++ mark :: last ∧ mark ∉ last

/-- What a text holds behind a word: from its leftmost occurrence up to the end of the line. -/
def Behind (word text found : List Char) : Prop :=
  ∃ after, LeftmostIn word (fun _ => True) text after ∧ restOfLine after = found

theorem not_between_nil (hword : word ≠ []) : ¬Between word mark [] found := by
  rintro ⟨after, last, hleft, -⟩
  exact Text.not_leftmostIn_nil hword after hleft

/-- A beginning that does not count makes no difference. -/
theorem between_cons_of_none {c : Char} {cs : List Char}
    (h : ¬∃ here, c :: cs = word ++ here ∧ mark ∈ restOfLine here) :
    Between word mark (c :: cs) found ↔ Between word mark cs found := by
  constructor
  · rintro ⟨after, last, hleft, hline, hlast⟩
    rcases (Text.leftmostIn_cons_iff c cs after).mp hleft with ⟨heq, hmem⟩ | ⟨-, hleft⟩
    · exact absurd ⟨after, heq, hmem⟩ h
    · exact ⟨after, last, hleft, hline, hlast⟩
  · rintro ⟨after, last, hleft, hline, hlast⟩
    have hcons := (Text.leftmostIn_cons_iff c cs after).mpr (Or.inr ⟨h, hleft⟩)
    exact ⟨after, last, hcons, hline, hlast⟩

/-- Where the leftmost occurrence is known, only its last mark is to be found. -/
theorem between_iff_of_leftmost {after : List Char}
    (h : LeftmostIn word (mark ∈ restOfLine ·) text after) :
    Between word mark text found ↔ Text.beforeLast? mark (restOfLine after) = some found := by
  rw [Text.beforeLast?_eq_some_iff]
  constructor
  · rintro ⟨after', last, hleft, hline, hlast⟩
    rw [hleft.unique h] at hline
    exact ⟨last, hline, hlast⟩
  · rintro ⟨last, hline, hlast⟩
    exact ⟨after, last, h, hline, hlast⟩

/-- The search for a group finds what is between the word and the mark. -/
theorem groupIn?_eq_some_iff (text group : List Char) :
    groupIn? text = some group ↔ Between "group=".toList ';' text group := by
  induction text with
  | nil =>
      rw [groupIn?]
      simp only [reduceCtorEq, false_iff]
      exact not_between_nil (by decide)
  | cons c cs ih =>
      rw [groupIn?]
      cases hhere : "group=".toList.isPrefixOf? (c :: cs) with
      | none =>
          have hnone : ¬∃ here, c :: cs = "group=".toList ++ here ∧ ';' ∈ restOfLine here := by
            rintro ⟨here, heq, -⟩
            rw [List.isPrefixOf?_eq_some_iff_append_eq.mpr heq.symm] at hhere
            exact Option.some_ne_none here hhere
          exact ih.trans (between_cons_of_none hnone).symm
      | some after =>
          have heq : c :: cs = "group=".toList ++ after :=
            (List.isPrefixOf?_eq_some_iff_append_eq.mp hhere).symm
          dsimp only
          cases hlast : Text.beforeLast? ';' (restOfLine after) with
          | none =>
              -- No mark on this line, so this place does not count.
              have hnot := (Text.beforeLast?_eq_none_iff _ _).mp hlast
              have hnone : ¬∃ here, c :: cs = "group=".toList ++ here ∧ ';' ∈ restOfLine here := by
                rintro ⟨here, hother, hmem⟩
                rw [List.append_cancel_left (hother.symm.trans heq)] at hmem
                exact hnot hmem
              exact ih.trans (between_cons_of_none hnone).symm
          | some before =>
              have hmem : ';' ∈ restOfLine after := by
                rcases (Text.beforeLast?_eq_some_iff _ _ _).mp hlast with ⟨last, hline, -⟩
                rw [hline]
                exact List.mem_append_right _ List.mem_cons_self
              have hleft : LeftmostIn "group=".toList (';' ∈ restOfLine ·) (c :: cs) after :=
                (Text.leftmostIn_cons_iff c cs after).mpr (Or.inl ⟨heq, hmem⟩)
              rw [between_iff_of_leftmost hleft, hlast]

/-- The search for a stream finds what is behind the word. -/
theorem streamIn?_eq_some_iff (text stream : List Char) :
    streamIn? text = some stream ↔ Behind "stream=".toList text stream := by
  have hword : "stream=".toList ≠ [] := by decide
  rw [streamIn?, Option.map_eq_some_iff]
  exact exists_congr fun after => and_congr_left' (Text.afterFirst?_eq_some_iff hword text after)

/-! ## Patterns -/

/-- Behind `before` a text fits a pattern of an opening word, any text on one line, and a closing
    word, with `found` between the two words. -/
structure Fits (opening closing text before found : List Char) : Prop where
  stands : ∃ after, text = before ++ opening ++ found ++ closing ++ after
  oneLine : '\n' ∉ found

/-- What a pattern captures in a text: at the leftmost place where it fits, the longest text with
    which it fits there. -/
def Captures (opening closing text found : List Char) : Prop :=
  ∃ before, Fits opening closing text before found ∧
    ∀ before' found', Fits opening closing text before' found' →
      before.length < before'.length ∨
        before.length = before'.length ∧ found'.length ≤ found.length

/-- Nothing that ends at a mark is longer than what ends at the last mark. -/
theorem length_le_of_last {before before' last last' : List Char} (hlast : mark ∉ last)
    (h : before' ++ mark :: last' = before ++ mark :: last) : before'.length ≤ before.length := by
  rcases List.append_eq_append_iff.mp h with ⟨between, hbefore, -⟩ | ⟨between, hbefore, hrest⟩
  · rw [hbefore, List.length_append]
    exact Nat.le_add_right _ _
  · cases between with
    | nil =>
        rw [hbefore, List.append_nil]
    | cons c between =>
        rw [List.cons_append, List.cons.injEq] at hrest
        rw [hrest.2] at hlast
        exact absurd (List.mem_append_right _ List.mem_cons_self) hlast

theorem restOfLine_append_mark (hmark : mark ≠ '\n') {front : List Char} (h : '\n' ∉ front)
    (rest : List Char) :
    restOfLine (front ++ [mark] ++ rest) = front ++ mark :: restOfLine rest := by
  have hone : '\n' ∉ front ++ [mark] := by
    simp only [List.mem_append, List.mem_singleton, not_or]
    exact ⟨h, hmark.symm⟩
  rw [restOfLine_append hone, List.append_assoc, List.singleton_append]

/-- Each mark on the line behind a word makes the pattern fit. -/
theorem fits_of_mark {before front last after : List Char}
    (h : restOfLine after = front ++ mark :: last) :
    Fits word [mark] (before ++ word ++ after) before front := by
  rcases exists_restOfLine_append after with ⟨rest, hafter⟩
  refine ⟨⟨last ++ rest, ?_⟩, ?_⟩
  · rw [hafter, h]
    simp only [List.append_assoc, List.cons_append, List.nil_append]
  · intro hbreak
    refine not_mem_restOfLine after ?_
    rw [h]
    exact List.mem_append_left _ hbreak

/-- The text between a word and the last mark of its line is what the pattern captures: where the
    pattern fits, there is a mark on the line, and it cannot fit past the last one. -/
theorem captures_of_between (hmark : mark ≠ '\n') (h : Between word mark text found) :
    Captures word [mark] text found := by
  rcases h with ⟨after, last, ⟨before, rfl, -, hleft⟩, hfound, hlast⟩
  refine ⟨before, fits_of_mark hfound, ?_⟩
  rintro before' found' ⟨⟨after', heq⟩, hone⟩
  have hother : before ++ word ++ after = before' ++ word ++ (found' ++ [mark] ++ after') := by
    rw [heq]
    simp only [List.append_assoc]
  have hline := restOfLine_append_mark hmark hone after'
  have hmem : mark ∈ restOfLine (found' ++ [mark] ++ after') := by
    rw [hline]
    exact List.mem_append_right _ List.mem_cons_self
  rcases Nat.lt_or_eq_of_le (hleft before' _ hother hmem) with hlt | hlen
  · exact Or.inl hlt
  · -- At the same place the text behind the word is the same.
    rw [Text.eq_of_same_place hother hlen, hline] at hfound
    exact Or.inr ⟨hlen, length_le_of_last hlast hfound⟩

/-- What the pattern captures is the text between a word and the last mark of its line: a further
    mark would make a longer text, and a mark further to the left another place. -/
theorem between_of_captures (hmark : mark ≠ '\n') (h : Captures word [mark] text found) :
    Between word mark text found := by
  rcases h with ⟨before, ⟨⟨after, rfl⟩, hone⟩, hbest⟩
  have hline := restOfLine_append_mark hmark hone after
  have htext : before ++ word ++ found ++ [mark] ++ after
      = before ++ word ++ (found ++ [mark] ++ after) := by
    simp only [List.append_assoc]
  have hmem : mark ∈ restOfLine (found ++ [mark] ++ after) := by
    rw [hline]
    exact List.mem_append_right _ List.mem_cons_self
  refine ⟨found ++ [mark] ++ after, restOfLine after, ⟨before, htext, hmem, ?_⟩, hline, ?_⟩
  · intro before' after' heq hmem'
    rcases List.append_of_mem hmem' with ⟨found', last, hfound⟩
    have hfits : Fits word [mark] (before' ++ word ++ after') before' found' := fits_of_mark hfound
    rw [← heq] at hfits
    have hplace := hbest before' found' hfits
    omega
  · intro hmore
    rcases List.append_of_mem hmore with ⟨more, last, hrest⟩
    have hlonger : restOfLine (found ++ [mark] ++ after) =
        (found ++ mark :: more) ++ mark :: last := by
      rw [hline, hrest, List.append_assoc, List.cons_append]
    have hfits : Fits word [mark] (before ++ word ++ (found ++ [mark] ++ after)) before
        (found ++ mark :: more) := fits_of_mark hlonger
    rw [← htext] at hfits
    have hlength := hbest before (found ++ mark :: more) hfits
    simp only [List.length_append, List.length_cons] at hlength
    omega

/-- Up to the last mark of a line is as far as a pattern that ends with the mark can fit. -/
theorem between_iff_captures (hmark : mark ≠ '\n') :
    Between word mark text found ↔ Captures word [mark] text found :=
  ⟨captures_of_between hmark, between_of_captures hmark⟩

/-- Each piece of the line behind a word makes the pattern fit that ends with nothing. -/
theorem fits_of_piece {before front last after : List Char}
    (h : restOfLine after = front ++ last) :
    Fits word [] (before ++ word ++ after) before front := by
  rcases exists_restOfLine_append after with ⟨rest, hafter⟩
  refine ⟨⟨last ++ rest, ?_⟩, ?_⟩
  · rw [hafter, h]
    simp only [List.append_assoc, List.nil_append]
  · intro hbreak
    refine not_mem_restOfLine after ?_
    rw [h]
    exact List.mem_append_left _ hbreak

/-- The text behind a word is what the pattern captures that ends with nothing: it cannot fit past
    the end of the line. -/
theorem captures_of_behind (h : Behind word text found) : Captures word [] text found := by
  rcases h with ⟨after, ⟨before, rfl, -, hleft⟩, rfl⟩
  have hwhole : restOfLine after = restOfLine after ++ [] := (List.append_nil _).symm
  refine ⟨before, fits_of_piece hwhole, ?_⟩
  rintro before' found' ⟨⟨after', heq⟩, hone⟩
  have hother : before ++ word ++ after = before' ++ word ++ (found' ++ after') := by
    rw [heq]
    simp only [List.append_assoc, List.nil_append]
  rcases Nat.lt_or_eq_of_le (hleft before' _ hother trivial) with hlt | hlen
  · exact Or.inl hlt
  · refine Or.inr ⟨hlen, ?_⟩
    rw [Text.eq_of_same_place hother hlen, restOfLine_append hone, List.length_append]
    exact Nat.le_add_right _ _

/-- What the pattern captures that ends with nothing is the text behind a word: more text on the
    line would make a longer text, and a word further to the left another place. -/
theorem behind_of_captures (h : Captures word [] text found) : Behind word text found := by
  rcases h with ⟨before, ⟨⟨after, rfl⟩, hone⟩, hbest⟩
  have hline : restOfLine (found ++ after) = found ++ restOfLine after :=
    restOfLine_append hone after
  have htext : before ++ word ++ found ++ [] ++ after = before ++ word ++ (found ++ after) := by
    simp only [List.append_assoc, List.nil_append]
  rw [htext] at hbest ⊢
  refine ⟨found ++ after, ⟨before, rfl, trivial, ?_⟩, ?_⟩
  · intro before' after' heq _
    have hempty : restOfLine after' = [] ++ restOfLine after' := (List.nil_append _).symm
    have hfits : Fits word [] (before' ++ word ++ after') before' [] := fits_of_piece hempty
    rw [← heq] at hfits
    have hplace := hbest before' [] hfits
    omega
  · have hwhole : restOfLine (found ++ after) = (found ++ restOfLine after) ++ [] := by
      rw [hline, List.append_nil]
    have hlength := hbest before (found ++ restOfLine after) (fits_of_piece hwhole)
    rw [List.length_append] at hlength
    have hnil : (restOfLine after).length = 0 := by omega
    rw [hline, List.length_eq_zero_iff.mp hnil, List.append_nil]

/-- Up to the end of the line is as far as a pattern that ends with nothing can fit. -/
theorem behind_iff_captures : Behind word text found ↔ Captures word [] text found :=
  ⟨captures_of_behind, behind_of_captures⟩

/-! ## References -/

/-- What is read from an address is what is found in it, if neither text is empty. -/
theorem parse?_eq_some_iff (url : String) (r : LogReference) :
    LogReference.parse? url = some r ↔
      (r.group ≠ "" ∧ Between "group=".toList ';' url.toList r.group.toList) ∧
        r.stream ≠ "" ∧ Behind "stream=".toList url.toList r.stream.toList := by
  have hcons : ∀ s : String, s ≠ "" → ∃ c cs, s.toList = c :: cs := by
    intro s hs
    cases hlist : s.toList with
    | nil => exact absurd (String.toList_eq_nil_iff.mp hlist) hs
    | cons c cs => exact ⟨c, cs, rfl⟩
  rw [← groupIn?_eq_some_iff, ← streamIn?_eq_some_iff, LogReference.parse?]
  split
  · rename_i g gs s ss hgroup hstream
    rw [hgroup, hstream]
    constructor
    · intro h
      rw [Option.some.injEq] at h
      rw [← h]
      simp only [String.toList_ofList, and_true]
      constructor
      · intro hnil
        simpa using congrArg String.toList hnil
      · intro hnil
        simpa using congrArg String.toList hnil
    · rintro ⟨⟨-, hg⟩, -, hs⟩
      rw [Option.some.injEq] at hg hs
      rw [hg, hs, String.ofList_toList, String.ofList_toList]
  · rename_i hnone
    constructor
    · intro h
      exact absurd h.symm (Option.some_ne_none r)
    · rintro ⟨⟨hg, hgroup⟩, hs, hstream⟩
      rcases hcons r.group hg with ⟨g, gs, hglist⟩
      rcases hcons r.stream hs with ⟨s, ss, hslist⟩
      rw [hglist] at hgroup
      rw [hslist] at hstream
      exact absurd hstream (hnone g gs s ss hgroup)

/-! ## Addresses of the console -/

/-- The parts that the console puts an address together from: what is in front of the group, the
    group, and the stream. What is in front holds neither of the two words, the group and the
    stream are not empty and on one line, the group does not hold the word that the stream begins
    with, and the stream does not hold the mark that ends the group. -/
structure Address (before group stream : String) : Prop where
  before_group : ¬"group=".toList <:+: before.toList
  before_stream : ¬"stream=".toList <:+: before.toList
  group_ne : group ≠ ""
  group_line : '\n' ∉ group.toList
  group_stream : ¬"stream=".toList <:+: group.toList
  stream_ne : stream ≠ ""
  stream_line : '\n' ∉ stream.toList
  stream_mark : ';' ∉ stream.toList

variable {before group stream : String}

/-- Where the leftmost word has a mark behind it, the group ends at the last one. -/
theorem groupIn?_of_leftmost {text after : List Char}
    (h : LeftmostIn "group=".toList (';' ∈ restOfLine ·) text after) :
    groupIn? text = Text.beforeLast? ';' (restOfLine after) := by
  ext group
  rw [groupIn?_eq_some_iff, between_iff_of_leftmost h]

/-- The line that the group of an address begins goes on behind its stream. -/
theorem restOfLine_address (h : Address before group stream) (rest : List Char) :
    restOfLine (group.toList ++ ";stream=".toList ++ stream.toList ++ rest) =
      group.toList ++ ";stream=".toList ++ stream.toList ++ restOfLine rest := by
  have hfixed : '\n' ∉ ";stream=".toList := by decide
  have hone : '\n' ∉ group.toList ++ ";stream=".toList ++ stream.toList := by
    simp only [List.mem_append, not_or]
    exact ⟨⟨h.group_line, hfixed⟩, h.stream_line⟩
  exact restOfLine_append hone rest

/-- The group of an address ends at the last mark on its line, wherever this is. -/
theorem groupIn?_address (h : Address before group stream) (rest : String) :
    groupIn? (before ++ "group=" ++ group ++ ";stream=" ++ stream ++ rest).toList =
      Text.beforeLast? ';'
        (group.toList ++ ";stream=".toList ++ stream.toList ++ restOfLine rest.toList) := by
  have hword : "group=".toList = "group".toList ++ ['='] := by decide
  have hdrop : "group=".toList.dropLast = "group".toList := by decide
  have hlast : '=' ∉ "group".toList := by decide
  have hearlier : ¬"group=".toList <:+: before.toList ++ "group=".toList.dropLast := by
    rw [hdrop, hword, Text.infix_append_iff_of_last_not_mem hlast, ← hword]
    exact h.before_group
  have hmem : ';' ∈ restOfLine
      (group.toList ++ ";stream=".toList ++ stream.toList ++ rest.toList) := by
    rw [restOfLine_address h]
    simp
  have hleft : LeftmostIn "group=".toList (';' ∈ restOfLine ·) _ _ :=
    Text.leftmostIn_of_not_infix hearlier hmem
  rw [← restOfLine_address h, ← groupIn?_of_leftmost hleft]
  simp only [String.toList_append, List.append_assoc]

/-- The stream of an address ends where its line does. -/
theorem streamIn?_address (h : Address before group stream) (rest : String) :
    streamIn? (before ++ "group=" ++ group ++ ";stream=" ++ stream ++ rest).toList =
      some (stream.toList ++ restOfLine rest.toList) := by
  have hword : "stream=".toList = "stream".toList ++ ['='] := by decide
  have hbegin : "stream=".toList = 's' :: "tream=".toList := by decide
  have hdrop : "stream=".toList.dropLast = "stream".toList := by decide
  have hlast : '=' ∉ "stream".toList := by decide
  have hfirst : 's' ∉ "roup=".toList := by decide
  have hg : 'g' ∉ "stream=".toList := by decide
  have hmark : ';' ∉ "stream=".toList := by decide
  have hgroup : "group=".toList = 'g' :: "roup=".toList := by decide
  have hfixed : ";stream=".toList = ';' :: "stream=".toList := by decide
  -- No occurrence reaches out of the group, or of what is in front of it.
  have hfront : ¬"stream=".toList <:+:
      before.toList ++ 'g' :: ("roup=".toList ++ group.toList) := by
    rw [Text.infix_append_cons_iff hg, hbegin, Text.infix_append_iff_of_head_not_mem hfirst,
      ← hbegin]
    exact not_or.mpr ⟨h.before_stream, h.group_stream⟩
  have hearlier : ¬"stream=".toList <:+:
      before.toList ++ 'g' :: ("roup=".toList ++ group.toList) ++ [';'] ++
        "stream=".toList.dropLast := by
    rw [hdrop, hword, Text.infix_append_iff_of_last_not_mem hlast, ← hword,
      Text.infix_append_cons_iff hmark]
    refine not_or.mpr ⟨hfront, ?_⟩
    rw [List.infix_nil]
    decide
  have hleft : LeftmostIn "stream=".toList (fun _ => True) _ (stream.toList ++ rest.toList) :=
    Text.leftmostIn_of_not_infix hearlier trivial
  rw [streamIn?_eq_some_iff]
  refine ⟨stream.toList ++ rest.toList, ?_, restOfLine_append h.stream_line _⟩
  simpa only [String.toList_append, hgroup, hfixed, List.append_assoc, List.cons_append,
    List.nil_append] using hleft

/-- An address with something behind its stream is read as what the searches find. -/
theorem parse?_address (h : Address before group stream) (rest : String) {found : List Char}
    (hfound : Text.beforeLast? ';'
      (group.toList ++ ";stream=".toList ++ stream.toList ++ restOfLine rest.toList) = some found)
    (hne : found ≠ []) :
    LogReference.parse? (before ++ "group=" ++ group ++ ";stream=" ++ stream ++ rest)
      = some ⟨String.ofList found, stream ++ String.ofList (restOfLine rest.toList)⟩ := by
  have hstream : stream ++ String.ofList (restOfLine rest.toList) ≠ "" := by
    intro hnil
    rw [← String.toList_eq_nil_iff, String.toList_append, List.append_eq_nil_iff] at hnil
    exact h.stream_ne (String.toList_eq_nil_iff.mp hnil.1)
  have hgroup : String.ofList found ≠ "" := by
    rw [Ne, ← String.toList_eq_nil_iff, String.toList_ofList]
    exact hne
  refine (parse?_eq_some_iff _ _).mpr ⟨⟨hgroup, ?_⟩, hstream, ?_⟩
  · rw [← groupIn?_eq_some_iff, groupIn?_address h, hfound, String.toList_ofList]
  · rw [← streamIn?_eq_some_iff, streamIn?_address h, String.toList_append, String.toList_ofList]

/-- An address that ends with its stream is read as its group and its stream. -/
theorem parse?_console (h : Address before group stream) :
    LogReference.parse? (before ++ "group=" ++ group ++ ";stream=" ++ stream)
      = some ⟨group, stream⟩ := by
  have hlast : Text.beforeLast? ';' (group.toList ++ ";stream=".toList ++ stream.toList ++
      restOfLine "".toList) = some group.toList := by
    have hfixed : ';' ∉ "stream=".toList := by decide
    have hnone : ';' ∉ "stream=".toList ++ stream.toList := by
      rw [List.mem_append, not_or]
      exact ⟨hfixed, h.stream_mark⟩
    refine (Text.beforeLast?_eq_some_iff _ _ _).mpr ⟨_, ?_, hnone⟩
    simp only [restOfLine, String.toList_empty, List.takeWhile_nil, List.append_nil,
      List.append_assoc]
    rfl
  have hne : group.toList ≠ [] := fun hnil => h.group_ne (String.toList_eq_nil_iff.mp hnil)
  have hparse := parse?_address h "" hlast hne
  rwa [String.append_empty, String.ofList_toList, String.toList_empty,
    show restOfLine [] = [] from rfl, String.ofList_nil, String.append_empty] at hparse

/-- An address is read by the two patterns. It holds a reference exactly if there is a text
    between the leftmost `group=` that has a semicolon behind it on its line and the last
    semicolon of that line, and one between the leftmost `stream=` and the end of its line, and
    neither text is empty; an empty one is not passed over. These are the texts that the patterns
    `group=(.*);` and `stream=(.*)` capture. So an address that the console puts together from a
    group and a stream is read as these two. -/
theorem parse?_patterns :
    (∀ (url : String) (r : LogReference), LogReference.parse? url = some r ↔
      (r.group ≠ "" ∧ Between "group=".toList ';' url.toList r.group.toList) ∧
        r.stream ≠ "" ∧ Behind "stream=".toList url.toList r.stream.toList) ∧
    (∀ url : String, Between "group=".toList ';' url.toList [] ∨
      Behind "stream=".toList url.toList [] → LogReference.parse? url = none) ∧
    (∀ text found : List Char,
      (Between "group=".toList ';' text found ↔ Captures "group=".toList ";".toList text found) ∧
        (Behind "stream=".toList text found ↔ Captures "stream=".toList [] text found)) ∧
    ∀ before group stream, Address before group stream →
      LogReference.parse? (before ++ "group=" ++ group ++ ";stream=" ++ stream)
        = some ⟨group, stream⟩ := by
  refine ⟨parse?_eq_some_iff, ?_, ?_, ?_⟩
  · intro url hempty
    cases hparse : LogReference.parse? url with
    | none => rfl
    | some r =>
        rcases (parse?_eq_some_iff url r).mp hparse with ⟨⟨hg, hgroup⟩, hs, hstream⟩
        -- Only one text is found, so it would be the empty one.
        rcases hempty with hempty | hempty
        · rw [← groupIn?_eq_some_iff] at hgroup hempty
          rw [hempty, Option.some.injEq] at hgroup
          exact absurd (String.toList_eq_nil_iff.mp hgroup.symm) hg
        · rw [← streamIn?_eq_some_iff] at hstream hempty
          rw [hempty, Option.some.injEq] at hstream
          exact absurd (String.toList_eq_nil_iff.mp hstream.symm) hs
  · intro text found
    exact ⟨between_iff_captures (by decide), behind_iff_captures⟩
  · exact fun before group stream h => parse?_console h

/-- The address of a log as the console shows it. -/
theorem parse?_patterns_console :
    LogReference.parse?
        "https://console.example/home#logEventViewer:group=/aws/device;tests;stream=run-1"
      = some ⟨"/aws/device;tests", "run-1"⟩ := by
  have haddress : Address "https://console.example/home#logEventViewer:" "/aws/device;tests"
      "run-1" := by
    constructor <;> decide +kernel
  exact parse?_patterns.2.2.2 _ _ _ haddress

end Qualifier
