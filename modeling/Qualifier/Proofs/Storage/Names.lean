import Qualifier.Proofs.Text.Segments
import Qualifier.Storage.Files

/-!
# Names at the End of Paths

A file is reached in two stages: the directory part of its path is opened, and the
name at the end is looked up inside. The second stage walks a path that consists of
this name alone. What makes that walk a single step is that the name is `Plain`: it
came out of a path as a component of its own, so it holds no separator and is
neither of the two names that only say which way to go.

## Main definitions

* `Plain`: A name that is one component of a path.

## Theorems

* `plain_of_mem_components`: The names in a path are plain.
* `plain_of_splitPath`: So is the name at its end.
* `Plain.ofText`: A plain name is a path of one step.
-/

namespace Qualifier

namespace Storage

/-- A name that can stand in a path as a component of its own. -/
structure Plain (name : String) : Prop where
  ne_empty : name ≠ ""
  ne_dot : name ≠ "."
  ne_dots : name ≠ ".."
  no_slash : '/' ∉ name.toList

theorem not_mem_of_mem_stretches {p : Path} {stretch : String} (h : stretch ∈ p.stretches) :
    '/' ∉ stretch.toList := by
  have hall : stretch ∈ (Text.segments '/' p.text.toList).map String.ofList := by
    unfold Path.stretches at h
    by_cases habs : p.isAbsolute
    · rw [if_pos habs] at h
      exact List.mem_of_mem_drop h
    · rwa [if_neg habs] at h
  rcases List.mem_map.mp hall with ⟨segment, hmem, rfl⟩
  rw [String.toList_ofList]
  exact Text.not_mem_of_mem_segments hmem

/-- Only a stretch that names something becomes a name. -/
theorem componentOf_eq_name {stretch name : String}
    (h : Path.componentOf stretch = .name name) :
    stretch = name ∧ name ≠ "." ∧ name ≠ ".." := by
  unfold Path.componentOf at h
  by_cases hdot : stretch = "."
  · simp [hdot] at h
  · by_cases hdots : stretch = ".."
    · simp [hdots] at h
    · simp only [beq_iff_eq, if_neg hdot, if_neg hdots, Component.name.injEq] at h
      exact ⟨h, h ▸ hdot, h ▸ hdots⟩

/-- A stretch that is not empty and becomes a name becomes a plain one. -/
theorem plain_of_stretch {p : Path} {stretch name : String} (hmem : stretch ∈ p.stretches)
    (hne : stretch ≠ "") (h : Path.componentOf stretch = .name name) : Plain name := by
  rcases componentOf_eq_name h with ⟨rfl, hdot, hdots⟩
  exact ⟨hne, hdot, hdots, not_mem_of_mem_stretches hmem⟩

theorem plain_of_mem_laterComponents {p : Path} {stretches : List String} {name : String}
    (hsub : ∀ s ∈ stretches, s ∈ p.stretches)
    (h : Component.name name ∈ Path.laterComponents stretches) : Plain name := by
  unfold Path.laterComponents at h
  rcases List.mem_map.mp h with ⟨stretch, hmem, hname⟩
  rcases List.mem_filter.mp hmem with ⟨hmem, hkept⟩
  refine plain_of_stretch (hsub stretch hmem) ?_ hname
  rintro rfl
  exact absurd hkept (by simp [Path.isRedundant])

theorem plain_of_mem_components {p : Path} {name : String}
    (h : Component.name name ∈ p.components) : Plain name := by
  unfold Path.components at h
  by_cases habs : p.isAbsolute
  · rw [if_pos habs, List.mem_cons] at h
    rcases h with h | h
    · exact absurd h (by simp)
    · exact plain_of_mem_laterComponents (fun _ hs => hs) h
  · rw [if_neg habs] at h
    rcases hcut : p.stretches with _ | ⟨first, rest⟩
    · simp [hcut] at h
    · have hrest : ∀ s ∈ rest, s ∈ p.stretches := fun s hs =>
        hcut ▸ List.mem_cons_of_mem _ hs
      simp only [hcut] at h
      -- The first stretch is judged by a rule of its own.
      by_cases hred : Path.isRedundant true first
      · rw [if_pos hred] at h
        exact plain_of_mem_laterComponents hrest h
      · rw [if_neg hred, List.mem_cons] at h
        rcases h with h | h
        · refine plain_of_stretch (hcut ▸ List.mem_cons_self) ?_ h.symm
          rintro rfl
          exact absurd hred (by simp [Path.isRedundant])
        · exact plain_of_mem_laterComponents hrest h

theorem plain_of_fileName? {p : Path} {name : String} (h : p.fileName? = some name) :
    Plain name := by
  unfold Path.fileName? at h
  rcases hlast : p.components.getLast? with _ | component
  · simp [hlast] at h
  · rw [hlast] at h
    have hmem : component ∈ p.components := List.mem_of_getLast? hlast
    cases component with
    | name s =>
        simp only [Option.some.injEq] at h
        exact plain_of_mem_components (h ▸ hmem)
    | _ => exact absurd h (by simp)

theorem plain_of_splitPath {path parent : Path} {name : String}
    (h : splitPath path = .ok (parent, name)) : Plain name := by
  unfold splitPath at h
  rcases hname : path.fileName? with _ | found
  · simp [hname] at h
  · rw [hname] at h
    -- Without a parent the name is the whole path; it is the same name either way.
    have hsame : found = name := by
      rcases hparent : path.parent? with _ | q
      · simp only [hparent, Except.ok.injEq, Prod.mk.injEq] at h
        exact h.2
      · simp only [hparent, Except.ok.injEq, Prod.mk.injEq] at h
        exact h.2
    exact plain_of_fileName? (hsame ▸ hname)

theorem Plain.ofText {name : String} (h : Plain name) :
    Route.ofText name = ⟨false, [name], false⟩ := by
  have habs : Path.isAbsolute ⟨name⟩ = false := by
    simp only [Path.isAbsolute, beq_eq_false_iff_ne]
    exact fun hhead => h.no_slash (List.mem_of_head? hhead)
  have hslash : Path.endsInSlash ⟨name⟩ = false := by
    simp only [Path.endsInSlash, beq_eq_false_iff_ne]
    exact fun hlast => h.no_slash (List.mem_of_getLast? hlast)
  have hstretches : Path.stretches ⟨name⟩ = [name] := by
    simp [Path.stretches, habs, Text.segments_eq_singleton h.no_slash]
  simp [Route.ofText, habs, hslash, hstretches, h.ne_empty]

end Storage

end Qualifier
