import Mathlib.Data.List.Basic
import Qualifier.Suite.Definition

/-!
# Selections of Suites

What is left of a suite file when suites are asked for by name. The names are gone through
twice. The first pass looks for a name that no suite has, and the first such name is complained
about; the second pass goes through the file and keeps the suites whose names are listed.

Both lists may repeat themselves: a file may have several suites of one name, and a name may be
listed more than once. `Keeps` says what a selection is without going through either. The suites
that are left are in the order of the file; those that are wanted are there as often as in the
file, and no others are there. This leaves no choice (`keeps_iff`), and it depends on the names
only as far as a name is listed or not, which is why their order and their repetitions make no
difference, and why selecting twice is selecting once.

## Main definitions

* `SuiteFile.Has`: A file has a suite of some name.
* `Wanted`: A suite of some name is asked for.
* `SuiteFile.Keeps`: What is left of a file.

## Theorems

* `keeps_iff`: Only one file can be left.
* `select_ok_iff`, `select_error_iff`: What comes of a selection.
* `select_by_names`: Selection is by the set of the names.
-/

namespace Qualifier

/-- A suite of some name is asked for. Naming none asks for all. -/
def Wanted (names : List String) (name : String) : Prop :=
  names = [] ∨ name ∈ names

instance (names : List String) (name : String) : Decidable (Wanted names name) :=
  inferInstanceAs (Decidable (names = [] ∨ name ∈ names))

namespace SuiteFile

variable {f g : SuiteFile} {names : List String}

/-- A file has a suite of some name. -/
def Has (f : SuiteFile) (name : String) : Prop :=
  ∃ s ∈ f.suites, s.name = name

theorem hasSuite_iff (f : SuiteFile) (name : String) : f.hasSuite name ↔ f.Has name := by
  simp [hasSuite, Has]

/-- What is left of a file: the suites that are wanted, in the order of the file and each as
    often as it is there. -/
structure Keeps (f : SuiteFile) (names : List String) (g : SuiteFile) : Prop where
  inOrder : g.suites.Sublist f.suites
  wanted : ∀ s, Wanted names s.name → g.suites.count s = f.suites.count s
  unwanted : ∀ s, ¬ Wanted names s.name → s ∉ g.suites

/-! ## What is left -/

theorem keeps_filter (f : SuiteFile) (names : List String) :
    f.Keeps names ⟨f.suites.filter fun s => Wanted names s.name⟩ where
  inOrder := List.filter_sublist
  wanted s hs := List.count_filter (by simpa using hs)
  unwanted s hs hmem := by
    have hwanted := (List.mem_filter.mp hmem).2
    exact hs (by simpa using hwanted)

/-- Only one file can be left. A list that repeats the wanted suites as often as they are there
    is as long as the list of all of them, and is a part of it. -/
theorem keeps_iff : f.Keeps names g ↔ g = ⟨f.suites.filter fun s => Wanted names s.name⟩ := by
  constructor
  · intro h
    have hkept : g.suites.filter (fun s => Wanted names s.name) = g.suites := by
      rw [List.filter_eq_self]
      intro s hs
      by_contra hunwanted
      exact h.unwanted s (by simpa using hunwanted) hs
    have hsub : g.suites.Sublist (f.suites.filter fun s => Wanted names s.name) := by
      rw [← hkept]
      exact h.inOrder.filter _
    have hperm : g.suites.Perm (f.suites.filter fun s => Wanted names s.name) := by
      rw [List.perm_iff_count]
      intro s
      by_cases hs : Wanted names s.name
      · rw [h.wanted s hs, List.count_filter (by simpa using hs)]
      · rw [List.count_eq_zero_of_not_mem (h.unwanted s hs),
          List.count_eq_zero_of_not_mem ((keeps_filter f names).unwanted s hs)]
    -- A part of the list that is as long as all of it.
    cases g with
    | mk suites => exact congrArg SuiteFile.mk (hsub.eq_of_length hperm.length_eq)
  · rintro rfl
    exact keeps_filter f names

/-! ## What comes of a selection -/

/-- A selection by no name at all goes the same way as the others: no name is missing, and all
    suites are wanted. -/
theorem select_eq (f : SuiteFile) (names : List String) :
    f.select names =
      match names.find? fun name => !f.hasSuite name with
      | some missing => .error (.unknownSuite missing)
      | none => .ok ⟨f.suites.filter fun s => Wanted names s.name⟩ := by
  cases names with
  | nil => simp [select, Wanted]
  | cons name rest =>
      -- Some name is given, so only the listed ones are wanted.
      have hwanted : (fun s : Suite => decide (Wanted (name :: rest) s.name)) =
          fun s => decide (s.name ∈ name :: rest) := by
        simp [Wanted]
      rw [hwanted]
      rfl

/-- No name is missing from a file that has a suite of each. -/
theorem find?_missing_eq_none_iff :
    (names.find? fun name => !f.hasSuite name) = none ↔ ∀ name ∈ names, f.Has name := by
  simp [← hasSuite_iff]

theorem select_ok_iff :
    f.select names = .ok g ↔ (∀ name ∈ names, f.Has name) ∧ f.Keeps names g := by
  rw [select_eq, ← find?_missing_eq_none_iff, keeps_iff]
  cases names.find? fun name => !f.hasSuite name with
  | none => simp [eq_comm]
  | some missing => simp

/-- A selection fails with the first name that no suite has, whatever the other names are. -/
theorem select_error_iff {e : SuiteFileError} :
    f.select names = .error e ↔ ∃ before missing after, names = before ++ missing :: after ∧
      (∀ name ∈ before, f.Has name) ∧ ¬ f.Has missing ∧ e = .unknownSuite missing := by
  rw [select_eq]
  constructor
  · intro h
    cases hfound : names.find? fun name => !f.hasSuite name with
    | none =>
        rw [hfound] at h
        exact absurd h (by simp)
    | some missing =>
        rw [hfound] at h
        rcases List.find?_eq_some_iff_append.mp hfound with ⟨hmissing, before, after, rfl, hbefore⟩
        simp only [Bool.not_not, Bool.not_eq_true', ← Bool.not_eq_true, hasSuite_iff]
          at hbefore hmissing
        exact ⟨before, missing, after, rfl, hbefore, hmissing, (Except.error.inj h).symm⟩
  · rintro ⟨before, missing, after, rfl, hbefore, hmissing, rfl⟩
    have hfound : ((before ++ missing :: after).find? fun name => !f.hasSuite name) =
        some missing := by
      rw [List.find?_eq_some_iff_append]
      simp only [Bool.not_not, Bool.not_eq_true', ← Bool.not_eq_true, hasSuite_iff]
      exact ⟨hmissing, before, after, rfl, hbefore⟩
    rw [hfound]

/-- Names that stand for the same set of names ask for the same suites. -/
theorem Keeps.congr {names' : List String} (h : f.Keeps names g)
    (hsame : ∀ name, name ∈ names' ↔ name ∈ names) : f.Keeps names' g := by
  have hnil : names' = [] ↔ names = [] := by
    rw [List.eq_nil_iff_forall_not_mem, List.eq_nil_iff_forall_not_mem]
    exact forall_congr' fun name => not_congr (hsame name)
  have hwanted : ∀ name, Wanted names' name ↔ Wanted names name :=
    fun name => or_congr hnil (hsame name)
  exact ⟨h.inOrder, fun s hs => h.wanted s ((hwanted _).mp hs),
    fun s hs => h.unwanted s (mt (hwanted _).mpr hs)⟩

/-- What is left after a selection is what is left of it by the same selection. -/
theorem Keeps.again (h : f.Keeps names g) : g.Keeps names g where
  inOrder := .refl _
  wanted _ _ := rfl
  unwanted := h.unwanted

/-- A suite that is asked for is still there afterwards. -/
theorem Keeps.has (h : f.Keeps names g) {name : String} (hname : name ∈ names)
    (hhas : f.Has name) : g.Has name := by
  rcases hhas with ⟨s, hs, rfl⟩
  refine ⟨s, ?_, rfl⟩
  rw [← List.count_pos_iff, h.wanted s (Or.inr hname)]
  exact List.count_pos_iff.mpr hs

/-- Selection is by the set of the names. It succeeds exactly if no name is given or every name
    is that of a suite. Then exactly the suites of these names are left, or all of them if none
    is given, in the order of the file and each as often as it has it; neither the order of the
    names nor their repetition matters, and the same selection leaves the same again. Otherwise
    the first name that no suite has is complained about, whatever the other names are. -/
theorem select_by_names (f : SuiteFile) (names : List String) :
    ((∃ g, f.select names = .ok g) ↔ names = [] ∨ ∀ name ∈ names, f.Has name) ∧
    (∀ g, f.select names = .ok g → f.Keeps names g ∧ (names = [] → g = f) ∧
      (∀ names', (∀ name, name ∈ names' ↔ name ∈ names) → f.select names' = .ok g) ∧
      g.select names = .ok g) ∧
    (∀ e, f.select names = .error e ↔ ∃ before missing after,
      names = before ++ missing :: after ∧ (∀ name ∈ before, f.Has name) ∧
        ¬ f.Has missing ∧ e = .unknownSuite missing) := by
  refine ⟨?_, fun g hg => ?_, fun e => select_error_iff⟩
  · constructor
    · rintro ⟨g, hg⟩
      exact Or.inr (select_ok_iff.mp hg).1
    · intro h
      have hhas : ∀ name ∈ names, f.Has name := by
        rcases h with rfl | hhas
        · exact fun name hname => absurd hname List.not_mem_nil
        · exact hhas
      exact ⟨_, select_ok_iff.mpr ⟨hhas, keeps_filter f names⟩⟩
  · rcases select_ok_iff.mp hg with ⟨hhas, hkeeps⟩
    refine ⟨hkeeps, ?_, fun names' hsame => ?_, ?_⟩
    · rintro rfl
      exact Except.ok.inj (hg.symm.trans rfl)
    · exact select_ok_iff.mpr ⟨fun name hname => hhas name ((hsame name).mp hname),
        hkeeps.congr hsame⟩
    · exact select_ok_iff.mpr ⟨fun name hname => hkeeps.has hname (hhas name hname),
        hkeeps.again⟩

end SuiteFile

end Qualifier
