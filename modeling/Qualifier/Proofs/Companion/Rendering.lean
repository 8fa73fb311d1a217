import Qualifier.Companion

/-!
# Reading a Rendered Command Back

A companion is shown as one line of shell, and the line is only worth showing if a
shell would take it apart into the very program and arguments that are launched.
What a shell does with a line is said here without any regard to how lines are
written: it goes over the characters one by one, and is at every moment outside of
quotes, right after a backslash there, or inside single quotes. A character that
asks for more than quoting and blanks outside of quotes ends the reading, so a line
that is read has no operator, no expansion, no pattern and no comment in it.

The reading is a fold of `Reading.step`, so a line can be read piece by piece
(`Reading.run_append`). Inside quotes, what is written for a character adds that
character and ends inside quotes again, although the two hard ones leave the quotes
and come back (`run_quoteChar`). Two inductions on characters follow, for a quoted
and for a plain stretch, then one statement about a word, whichever way it is
written (`run_quoteWord`), and the induction on the list of words, where the blank
between two of them is what ends the first.

## Main definitions

* `Shell.Place`: Where a shell is in a line.
* `Shell.Reading`: The words it has read and where it is.
* `Shell.Reading.step`: What one character does.
* `Shell.words?`: The words of a line.

## Theorems

* `Shell.run_quoteWord`: A word is read as itself, however it is written.
* `Shell.words?_joined`: The words of a line of written words.
* `Invocation.render_reads_back`: The line reads as the program and its arguments,
  and no other command is shown by it.
-/

namespace Qualifier

namespace Shell

/-- Where a shell is in a line: outside of quotes, right after a backslash there, or
    inside single quotes. Each comes with what it has of the word it is in; outside
    of quotes there may be none, which is not the same as one without characters. -/
inductive Place where
  | bare (word : Option (List Char))
  | escaped (word : Option (List Char))
  | quoted (word : List Char)
deriving DecidableEq, Repr

/-- How far a shell has come with a line. -/
structure Reading where
  words : List (List Char)
  place : Place
deriving DecidableEq, Repr

/-- Whether a character separates words. -/
def isSeparator (c : Char) : Bool :=
  c == ' ' || c == '\t'

/-- The characters that mean something outside of quotes which is neither quoting nor
    the end of a word: they make an operator, end the command, or begin an expansion, a
    pattern, a comment or another kind of quotes. -/
def reserved : List Char :=
  ['|', '&', ';', '<', '>', '(', ')', '$', '\x60', '"', '\n', '*', '?', '[', ']', '^', '!', '#',
    '~', '%', '\x7b', '\x7d']

/-- A word with one more character, begun if it was not. -/
def extended (word : Option (List Char)) (c : Char) : Option (List Char) :=
  some (word.getD [] ++ [c])

/-- What a character does, or nothing where it is not for words to say. -/
def Reading.step : Reading → Char → Option Reading
  | ⟨words, .bare word⟩, c =>
    if c = '\'' then some ⟨words, .quoted (word.getD [])⟩
    else if c = '\\' then some ⟨words, .escaped word⟩
    else if isSeparator c then some ⟨words ++ word.toList, .bare none⟩
    else if c ∈ reserved then none
    else some ⟨words, .bare (extended word c)⟩
  -- A line that ends in a backslash goes on in the next one, as if neither were there.
  | ⟨words, .escaped word⟩, c =>
    if c = '\n' then some ⟨words, .bare word⟩ else some ⟨words, .bare (extended word c)⟩
  | ⟨words, .quoted word⟩, c =>
    if c = '\'' then some ⟨words, .bare (some word)⟩ else some ⟨words, .quoted (word ++ [c])⟩

/-- What a stretch of a line does. -/
def Reading.run (r : Reading) (cs : List Char) : Option Reading :=
  cs.foldlM Reading.step r

/-- The words at the end of a line, where no quotes are open and no backslash waits. -/
def Reading.finish : Reading → Option (List (List Char))
  | ⟨words, .bare word⟩ => some (words ++ word.toList)
  | ⟨_, .escaped _⟩ => none
  | ⟨_, .quoted _⟩ => none

/-- The words of a line, if quoting and blanks are all there is in it. -/
def words? (line : String) : Option (List String) :=
  ((Reading.run ⟨[], .bare none⟩ line.toList).bind Reading.finish).map (·.map String.ofList)

@[simp]
theorem Reading.run_nil (r : Reading) : r.run [] = some r := rfl

@[simp]
theorem Reading.run_cons (r : Reading) (c : Char) (cs : List Char) :
    r.run (c :: cs) = (r.step c).bind (·.run cs) := rfl

theorem Reading.run_append (r : Reading) (cs ds : List Char) :
    r.run (cs ++ ds) = (r.run cs).bind (·.run ds) :=
  List.foldlM_append

/-- No character that goes without quoting means anything outside of quotes. -/
theorem not_special_of_isPlain {c : Char} (h : isPlain c = true) :
    c ≠ '\'' ∧ c ≠ '\\' ∧ isSeparator c = false ∧ c ∉ reserved := by
  have hspecial : ∀ d ∈ '\'' :: '\\' :: ' ' :: '\t' :: reserved, isPlain d = false := by
    simp [reserved, isPlain]
  have hne : ∀ d ∈ '\'' :: '\\' :: ' ' :: '\t' :: reserved, c ≠ d := by
    rintro d hd rfl
    exact absurd h (by simp [hspecial c hd])
  refine ⟨hne _ (by decide), hne _ (by decide), ?_, fun hc => hne c (by simp [hc]) rfl⟩
  simp [isSeparator, hne ' ' (by decide), hne '\t' (by decide)]

theorem step_of_isPlain (words : List (List Char)) (word : Option (List Char)) {c : Char}
    (h : isPlain c = true) :
    Reading.step ⟨words, .bare word⟩ c = some ⟨words, .bare (extended word c)⟩ := by
  obtain ⟨hquote, hbackslash, hseparator, hreserved⟩ := not_special_of_isPlain h
  simp [Reading.step, hquote, hbackslash, hseparator, hreserved]

/-- What is written for a character inside quotes stands for that character alone, and
    leaves the shell inside quotes. -/
theorem run_quoteChar (words : List (List Char)) (word : List Char) (c : Char) :
    Reading.run ⟨words, .quoted word⟩ (quoteChar c) = some ⟨words, .quoted (word ++ [c])⟩ := by
  unfold quoteChar
  split
  next h =>
    -- Out of the quotes, a backslash, the character itself, and back into the quotes.
    have hne : c ≠ '\n' := by rcases h with rfl | rfl <;> decide
    simp [Reading.step, extended, hne]
  next h =>
    have hne : c ≠ '\'' := fun hc => h (.inl hc)
    simp [Reading.step, hne]

theorem run_flatMap_quoteChar (words : List (List Char)) (cs : List Char) :
    ∀ word, Reading.run ⟨words, .quoted word⟩ (cs.flatMap quoteChar) =
      some ⟨words, .quoted (word ++ cs)⟩ := by
  induction cs with
  | nil => simp
  | cons c cs ih =>
    intro word
    rw [List.flatMap_cons, Reading.run_append, run_quoteChar, Option.bind_some, ih,
      List.append_assoc, List.singleton_append]

theorem run_plain (words : List (List Char)) (cs : List Char) (h : ∀ c ∈ cs, isPlain c = true) :
    ∀ word, Reading.run ⟨words, .bare (some word)⟩ cs =
      some ⟨words, .bare (some (word ++ cs))⟩ := by
  induction cs with
  | nil => simp
  | cons c cs ih =>
    intro word
    have hc := h c (List.mem_cons_self ..)
    rw [Reading.run_cons, step_of_isPlain words (some word) hc, Option.bind_some, extended,
      ih (fun d hd => h d (List.mem_cons_of_mem c hd)), Option.getD_some, List.append_assoc,
      List.singleton_append]

/-- Between two words, a written word makes the shell begin a word, and have all of it
    at its end. A word without characters is begun all the same. -/
theorem run_quoteWord (words : List (List Char)) (w : String) :
    Reading.run ⟨words, .bare none⟩ (quoteWord w).toList =
      some ⟨words, .bare (some w.toList)⟩ := by
  simp only [quoteWord]
  split
  next h =>
    obtain ⟨hne, hplain⟩ := h
    rw [List.all_eq_true] at hplain
    obtain ⟨c, cs, hw⟩ := List.exists_cons_of_ne_nil hne
    rw [hw] at hplain ⊢
    have hc := hplain c (List.mem_cons_self ..)
    rw [Reading.run_cons, step_of_isPlain words none hc, Option.bind_some, extended,
      run_plain words cs (fun d hd => hplain d (List.mem_cons_of_mem c hd))]
    rfl
  next =>
    have hopen : Reading.step ⟨words, .bare none⟩ '\'' = some ⟨words, .quoted []⟩ := rfl
    have hclose : Reading.run ⟨words, .quoted w.toList⟩ ['\''] =
        some ⟨words, .bare (some w.toList)⟩ := rfl
    rw [String.toList_ofList, List.cons_append, Reading.run_cons, hopen, Option.bind_some,
      Reading.run_append, run_flatMap_quoteChar, List.nil_append, Option.bind_some, hclose]

/-- The words of a line that begins between two words: those it had, and those that are
    written in it. -/
theorem run_joined (w : String) (ws : List String) :
    ∀ words, (Reading.run ⟨words, .bare none⟩
        (Text.joined " " ((w :: ws).map quoteWord)).toList).bind Reading.finish =
      some (words ++ (w :: ws).map String.toList) := by
  induction ws generalizing w with
  | nil =>
    intro words
    simp only [List.map_cons, List.map_nil, Text.joined]
    rw [run_quoteWord]
    rfl
  | cons v vs ih =>
    intro words
    -- The blank ends the first word, and the rest is read from between two words again.
    have hblank : Reading.step ⟨words, .bare (some w.toList)⟩ ' ' =
        some ⟨words ++ [w.toList], .bare none⟩ := rfl
    have hline : (Text.joined " " ((w :: v :: vs).map quoteWord)).toList =
        (quoteWord w).toList ++ ' ' :: (Text.joined " " ((v :: vs).map quoteWord)).toList := by
      simp [Text.joined]
    rw [hline, Reading.run_append, run_quoteWord, Option.bind_some, Reading.run_cons, hblank,
      Option.bind_some, ih v (words ++ [w.toList])]
    simp

/-- A line of written words is read as these words. -/
theorem words?_joined (w : String) (ws : List String) :
    words? (Text.joined " " ((w :: ws).map quoteWord)) = some (w :: ws) := by
  rw [words?, run_joined w ws []]
  simp

-- An argument without characters, one with a blank, and one with both hard characters.
example : words? "mvn '' 'a b' 'don'\\''t'\\!''" = some ["mvn", "", "a b", "don't!"] := by decide

end Shell

/-- The line that is shown for a companion is taken apart by a shell into the program
    and its arguments, whatever characters they consist of; so two invocations are
    shown alike only if they launch the same program with the same arguments. -/
theorem Invocation.render_reads_back (i : Invocation) :
    Shell.words? i.render = some (i.program :: i.arguments) ∧
      ∀ j : Invocation, i.render = j.render ↔
        i.program = j.program ∧ i.arguments = j.arguments := by
  have hreads : ∀ k : Invocation, Shell.words? k.render = some (k.program :: k.arguments) :=
    fun k => Shell.words?_joined k.program k.arguments
  refine ⟨hreads i, fun j => ⟨fun h => ?_, fun ⟨hprogram, harguments⟩ => ?_⟩⟩
  · have hwords : some (i.program :: i.arguments) = some (j.program :: j.arguments) := by
      rw [← hreads i, ← hreads j, h]
    simpa using hwords
  · rw [Invocation.render, Invocation.render, hprogram, harguments]

end Qualifier
