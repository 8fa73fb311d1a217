import Qualifier.Proofs.Storage.Comparison
import Qualifier.Proofs.Storage.Names

/-!
# What Was Written Can Be Removed

A path is written and later removed, and between the two other paths are written and
removed as well. These may be anything: the same path again, a directory on the way
to the first one, a link the first one goes through. What holds of a path that was
written is therefore said in two strengths. Right after a write there is an entry
that is no directory (`Settled`), and this stays so as long as nothing is taken away.
Writing a private file may take a link away, and with it the way to the first path.
What is left is that a removal will do: if there still is an entry, it is no
directory (`Clearable`). Removals preserve this, and after its own removal a path has
no entry, now or after any further removal.

## Main definitions

* `Removable`: A name that a removal can deal with.
* `Workspace.place?`, `Workspace.found?`: The place a path leads to, and the entry there,
  without following it.
* `Workspace.Settled`: There is an entry, and it can be removed.
* `Workspace.Clearable`: Whatever there is can be removed.
* `Workspace.Shrinks`: Only removals happened.

## Theorems

* `settled_of_write`: A path that was written is settled.
* `clearable_of_writePrivate`: A path that was written privately is clearable.
* `Settled.writePrivate`: So is what was settled before.
* `get?_removeIfPresent`: A removal takes away what is at the place of the path.
* `found?_removeIfPresent`: After its removal a path has no entry.
* `Shrinks.clearable`, `Shrinks.found?_eq_none`: What other removals preserve.
-/

namespace Qualifier

namespace Storage

/-- A walk along a plain name that is no link ends at the name. -/
theorem leg_plain {t : Tree} {rules : Rules} {loc : Location} {name : String}
    (hplain : Plain name) (hshort : name.utf8ByteSize ≤ nameLimit)
    (hget : ∀ link, t.get? (loc ++ [name]) ≠ some (.link link)) :
    leg t rules false loc [name] = .arrived (.ok (.entry loc name false)) := by
  rw [leg_cons, if_neg hplain.ne_dot, if_neg hplain.ne_dots, if_neg (Nat.not_lt.mpr hshort)]
  exact legInto_nil hget t rules false loc name

/-- Looking up a name inside a directory is a walk of one step, with a fence. -/
theorem fenced_plain {t : Tree} {dir : Location} {name : String} {target : Target}
    (hplain : Plain name) (h : t.fenced dir name = .ok target) :
    '\x00' ∉ name.toList ∧ name.utf8ByteSize ≤ nameLimit ∧
      walk t ⟨some dir, true⟩ linkLimit false dir [name] = .ok target := by
  unfold Tree.fenced at h
  by_cases hnul : '\x00' ∈ name.toList
  · rw [if_pos hnul] at h
    exact absurd h (by simp)
  rw [if_neg hnul] at h
  unfold Tree.target at h
  by_cases hlong : pathLimit ≤ name.utf8ByteSize
  · simp only [if_neg hnul, if_pos hlong] at h
    exact absurd h (by simp)
  simp only [if_neg hnul, if_neg hlong, if_neg hplain.ne_empty, hplain.ofText,
    Bool.false_eq_true, if_false] at h
  refine ⟨hnul, Nat.not_lt.mp fun hname => ?_, h⟩
  have hleg : leg t ⟨some dir, true⟩ false dir [name] = .arrived (.error .nameTooLong) := by
    rw [leg_cons, if_neg hplain.ne_dot, if_neg hplain.ne_dots, if_pos hname]
  rw [walk_of_arrived hleg] at h
  exact absurd h (by simp)

/-- Writing to a name puts a file where the walk to it ended: at a free name, or in the place
    of a file. -/
theorem writeWithin_put {t t' : Tree} {dir : Location} {name text : String}
    (hplain : Plain name) (h : t.writeWithin dir name text = .ok t') :
    ∃ within last mode, t.fenced dir name = .ok (.entry within last false) ∧
      t' = t.put (within ++ [last]) (.file text.toUTF8 mode) ∧
      ∀ e, t.get? (within ++ [last]) = some e → e.conducts = false := by
  unfold Tree.writeWithin at h
  rcases hfenced : t.fenced dir name with fault | target
  · simp [hfenced] at h
  rw [hfenced] at h
  cases target with
  | directory loc => simp at h
  | entry within last slash =>
      have hnot := walk_not_link rfl linkLimit false dir [name] (fenced_plain hplain hfenced).2.2
      simp only at h
      by_cases hslash : slash = true
      · simp [hslash] at h
      rw [if_neg hslash] at h
      rw [Bool.not_eq_true] at hslash
      subst hslash
      rcases hget : t.get? (within ++ [last]) with _ | e
      · simp only [hget, Except.ok.injEq] at h
        exact ⟨within, last, _, rfl, h.symm, by simp [hget]⟩
      · cases e with
        | directory => simp [hget] at h
        | link link => exact absurd hget (hnot link)
        | file content mode =>
            simp only [hget, Except.ok.injEq] at h
            exact ⟨within, last, _, rfl, h.symm, by simp [hget, Entry.conducts]⟩

/-- Writing to a name leaves an entry under it that is no directory, and takes away
    no way. The entry is the file, or the link that led to it. -/
theorem writeWithin_ok {t t' : Tree} {dir : Location} {name text : String}
    (hplain : Plain name) (h : t.writeWithin dir name text = .ok t') :
    '\x00' ∉ name.toList ∧ name.utf8ByteSize ≤ nameLimit ∧ t.Thinner t' ∧
      ∃ e, t'.get? (dir ++ [name]) = some e ∧ e ≠ .directory := by
  rcases writeWithin_put hplain h with ⟨within, last, mode, hfenced, rfl, hfree⟩
  rcases fenced_plain hplain hfenced with ⟨hnul, hshort, hwalk⟩
  -- The file goes where the walk ended, and links may have led it elsewhere.
  have hnot := walk_not_link rfl linkLimit false dir [name] hwalk
  refine ⟨hnul, hshort, Tree.thinner_put hfree _, ?_⟩
  -- A link under the name stays as it is; otherwise the file itself is there.
  by_cases hlink : ∃ link, t.get? (dir ++ [name]) = some (.link link)
  · rcases hlink with ⟨link, hlink⟩
    have hother : dir ++ [name] ≠ within ++ [last] := by
      intro heq
      exact hnot link (heq ▸ hlink)
    exact ⟨.link link, by rw [Tree.get?_put_of_ne _ _ hother, hlink], by simp⟩
  · have hhere : leg t ⟨some dir, true⟩ false dir [name]
        = .arrived (.ok (.entry dir name false)) :=
      leg_plain hplain hshort fun link hget => hlink ⟨link, hget⟩
    rw [walk_of_arrived hhere, Except.ok.injEq, Target.entry.injEq] at hwalk
    rcases hwalk with ⟨rfl, rfl, -⟩
    exact ⟨_, Tree.get?_put_self _ _ _ (by simp), by simp⟩

/-- A name inside a directory that a removal can deal with: there is nothing under it,
    or something that is no directory. -/
structure Removable (t : Tree) (within : Location) (name : String) : Prop where
  no_nul : '\x00' ∉ name.toList
  short : name.utf8ByteSize ≤ nameLimit
  not_directory : t.get? (within ++ [name]) ≠ some .directory

theorem Removable.removeWithin_none {t : Tree} {within : Location} {name : String}
    (h : Removable t within name) (hget : t.get? (within ++ [name]) = none) :
    t.removeWithin within name = .error .notFound := by
  unfold Tree.removeWithin
  rw [if_neg h.no_nul, if_neg (Nat.not_lt.mpr h.short), hget]

theorem Removable.removeWithin_some {t : Tree} {within : Location} {name : String} {e : Entry}
    (h : Removable t within name) (hget : t.get? (within ++ [name]) = some e) :
    t.removeWithin within name = .ok (t.erase (within ++ [name])) := by
  unfold Tree.removeWithin
  rw [if_neg h.no_nul, if_neg (Nat.not_lt.mpr h.short), hget]
  cases e with
  | directory => exact absurd hget h.not_directory
  | file content mode => rfl
  | link link => rfl

/-- Otherwise the removal fails, and not for want of something to remove. -/
theorem removeWithin_of_not_removable {t : Tree} {within : Location} {name : String}
    (h : ¬ Removable t within name) :
    ∃ fault, fault ≠ .notFound ∧ t.removeWithin within name = .error fault := by
  unfold Tree.removeWithin
  by_cases hnul : '\x00' ∈ name.toList
  · exact ⟨.invalidArgument, by decide, by rw [if_pos hnul]⟩
  by_cases hlong : nameLimit < name.utf8ByteSize
  · exact ⟨.nameTooLong, by decide, by rw [if_neg hnul, if_pos hlong]⟩
  by_cases hget : t.get? (within ++ [name]) = some .directory
  · exact ⟨.isDirectory, by decide, by rw [if_neg hnul, if_neg hlong, hget]⟩
  · exact absurd ⟨hnul, Nat.not_lt.mp hlong, hget⟩ h

namespace Workspace

variable {w w' : Workspace}

/-- The entry a path leads to, which may be a link. -/
def found? (w : Workspace) (path : Path) : Option Entry :=
  match splitPath path with
  | .error _ => none
  | .ok (parent, name) =>
    match w.tree.directoryAt w.workingDirectory parent with
    | .error _ => none
    | .ok dir => w.tree.get? (dir ++ [name])

/-- The place a path leads to, whatever is there. -/
def place? (w : Workspace) (path : Path) : Option Location :=
  match splitPath path with
  | .error _ => none
  | .ok (parent, name) =>
    match w.tree.directoryAt w.workingDirectory parent with
    | .error _ => none
    | .ok dir => some (dir ++ [name])

/-- A path that ends in a name a directory can hold. -/
structure Ends (path parent : Path) (name : String) : Prop where
  split : splitPath path = .ok (parent, name)
  no_nul : '\x00' ∉ name.toList
  short : name.utf8ByteSize ≤ nameLimit

/-- A path leads to an entry that is no directory. -/
def Settled (w : Workspace) (path : Path) : Prop :=
  ∃ parent name dir e, Ends path parent name ∧
    w.tree.directoryAt w.workingDirectory parent = .ok dir ∧
    w.tree.get? (dir ++ [name]) = some e ∧ e ≠ .directory

/-- If a path leads to an entry, it is no directory. -/
def Clearable (w : Workspace) (path : Path) : Prop :=
  ∃ parent name, Ends path parent name ∧
    ∀ dir, w.tree.directoryAt w.workingDirectory parent = .ok dir →
      w.tree.get? (dir ++ [name]) ≠ some .directory

/-- Nothing was added from `w` to `w'`. -/
structure Shrinks (w w' : Workspace) : Prop where
  workingDirectory : w'.workingDirectory = w.workingDirectory
  tree : w'.tree.Keeps w.tree

/-- Nothing was taken away from `w` to `w'`. -/
structure Grows (w w' : Workspace) : Prop where
  workingDirectory : w'.workingDirectory = w.workingDirectory
  tree : w.tree.Keeps w'.tree

theorem Shrinks.refl (w : Workspace) : w.Shrinks w :=
  ⟨rfl, Tree.Keeps.refl _⟩

theorem Shrinks.trans {w w' w'' : Workspace} (h : w.Shrinks w') (h' : w'.Shrinks w'') :
    w.Shrinks w'' :=
  ⟨h'.workingDirectory.trans h.workingDirectory, h'.tree.trans h.tree⟩

theorem Grows.refl (w : Workspace) : w.Grows w :=
  ⟨rfl, Tree.Keeps.refl _⟩

/-- A path is clearable if it ended in a directory and there is none in its place now,
    provided that no way was added since. -/
theorem clearable_of_thinner {path parent : Path} {name : String} {dir : Location}
    (hends : Ends path parent name) (hwd : w'.workingDirectory = w.workingDirectory)
    (hthin : w'.tree.Thinner w.tree)
    (hdir : w.tree.directoryAt w.workingDirectory parent = .ok dir)
    (hget : w'.tree.get? (dir ++ [name]) ≠ some .directory) : w'.Clearable path := by
  refine ⟨parent, name, hends, fun dir' hdir' => ?_⟩
  rw [hwd] at hdir'
  have hsame := directoryAt_of_thinner hthin hdir'
  rw [hdir, Except.ok.injEq] at hsame
  exact hsame ▸ hget

theorem Settled.clearable {path : Path} (h : w.Settled path) : w.Clearable path := by
  rcases h with ⟨parent, name, dir, e, hends, hdir, hget, hne⟩
  refine clearable_of_thinner hends rfl (Tree.Thinner.refl _) hdir ?_
  rw [hget]
  simpa using hne

theorem Grows.settled (h : w.Grows w') {path : Path} (hpath : w.Settled path) :
    w'.Settled path := by
  rcases hpath with ⟨parent, name, dir, e, hends, hdir, hget, hne⟩
  refine ⟨parent, name, dir, e, hends, ?_, h.tree _ _ hget, hne⟩
  rw [h.workingDirectory]
  exact directoryAt_of_thinner h.tree.thinner hdir

theorem Shrinks.clearable (h : w.Shrinks w') {path : Path} (hpath : w.Clearable path) :
    w'.Clearable path := by
  rcases hpath with ⟨parent, name, hends, hclear⟩
  refine ⟨parent, name, hends, fun dir hdir hget => ?_⟩
  rw [h.workingDirectory] at hdir
  exact hclear dir (directoryAt_of_thinner h.tree.thinner hdir) (h.tree _ _ hget)

theorem found?_eq (w : Workspace) (path : Path) :
    w.found? path = (w.place? path).bind w.tree.get? := by
  unfold found? place?
  rcases splitPath path with e | ⟨parent, name⟩
  · rfl
  · simp only
    rcases w.tree.directoryAt w.workingDirectory parent with fault | dir <;> rfl

/-- A path leads where it led when no way was taken away. -/
theorem place?_of_thinner (hwd : w'.workingDirectory = w.workingDirectory)
    (h : w.tree.Thinner w'.tree) {path : Path} {loc : Location}
    (hplace : w.place? path = some loc) : w'.place? path = some loc := by
  unfold place? at hplace ⊢
  rcases hsplit : splitPath path with e | ⟨parent, name⟩
  · simp [hsplit] at hplace
  · simp only [hsplit] at hplace ⊢
    rcases hdir : w.tree.directoryAt w.workingDirectory parent with fault | dir
    · simp [hdir] at hplace
    · rw [hdir] at hplace
      rw [hwd, directoryAt_of_thinner h hdir]
      exact hplace

theorem Shrinks.place? (h : w.Shrinks w') {path : Path} {loc : Location}
    (hplace : w'.place? path = some loc) : w.place? path = some loc :=
  place?_of_thinner h.workingDirectory.symm h.tree.thinner hplace

/-- A path without an entry gets none when something is removed. -/
theorem Shrinks.found?_eq_none (h : w.Shrinks w') {path : Path} (hpath : w.found? path = none) :
    w'.found? path = none := by
  rw [found?_eq] at hpath ⊢
  rcases hplace : w'.place? path with _ | loc
  · rfl
  · rw [h.place? hplace] at hpath
    rcases hget : w'.tree.get? loc with _ | e
    · exact hget
    · exact absurd (hpath.symm.trans (h.tree _ _ hget)) (by simp)

/-- Directories may be made on the way to a path, and nothing else is done. -/
theorem widens_prepare (w : Workspace) (parent : Path) :
    (w.prepare parent).2.workingDirectory = w.workingDirectory ∧
      w.tree.Widens (w.prepare parent).2.tree := by
  have hwidens := Tree.widens_makeChain w.workingDirectory
    (parent.ancestors (parent.text.length + 1)) w.tree
  unfold prepare Tree.makeDirectories
  rcases hmake : Tree.makeChain w.workingDirectory (parent.ancestors (parent.text.length + 1))
    w.tree with ⟨fault | _, t⟩
  · rw [hmake] at hwidens
    exact ⟨rfl, hwidens⟩
  · rw [hmake] at hwidens
    simp only
    split <;> exact ⟨rfl, hwidens⟩

theorem grows_prepare (w : Workspace) (parent : Path) : w.Grows (w.prepare parent).2 :=
  ⟨(widens_prepare w parent).1, (widens_prepare w parent).2.keeps⟩

theorem directoryAt_prepare {parent : Path} {dir : Location}
    (h : w.prepare parent = (.ok dir, w')) :
    w'.tree.directoryAt w'.workingDirectory parent = .ok dir := by
  unfold prepare at h
  rcases hmake : w.tree.makeDirectories w.workingDirectory parent with ⟨fault | _, t⟩
  · simp [hmake] at h
  · rw [hmake] at h
    rcases hdir : t.directoryAt w.workingDirectory parent with fault | found
    · simp [hdir] at h
    · simp only [hdir, Prod.mk.injEq, Except.ok.injEq] at h
      rcases h with ⟨rfl, rfl⟩
      exact hdir

/-- A path that was written is settled. -/
theorem settled_of_write {path : Path} {text : String} (h : w.write path text = (.ok (), w')) :
    w'.Settled path := by
  unfold write at h
  rcases hsplit : splitPath path with e | ⟨parent, name⟩
  · simp [hsplit] at h
  rw [hsplit] at h
  rcases hprepare : w.prepare parent with ⟨e | dir, made⟩
  · simp [hprepare] at h
  simp only [hprepare] at h
  rcases hwrite : made.tree.writeWithin dir name text with fault | t
  · simp [hwrite] at h
  simp only [hwrite, Prod.mk.injEq, true_and] at h
  subst h
  rcases writeWithin_ok (plain_of_splitPath hsplit) hwrite with
    ⟨hnul, hshort, hthin, e, hget, hne⟩
  refine ⟨parent, name, dir, e, ⟨hsplit, hnul, hshort⟩, ?_, hget, hne⟩
  exact directoryAt_of_thinner hthin (directoryAt_prepare hprepare)

theorem get?_put_at (t : Tree) (dir : Location) (name : String) (entry : Entry)
    (loc : Location) :
    (t.put (dir ++ [name]) entry).get? loc
      = if loc = dir ++ [name] then some entry else t.get? loc := by
  by_cases hloc : loc = dir ++ [name]
  · rw [if_pos hloc, hloc, Tree.get?_put_self _ _ _ (by simp)]
  · rw [if_neg hloc, Tree.get?_put_of_ne _ _ hloc]

/-- What writing a private file does: nothing but the making of directories, or after
    that a file put in the place of whatever is no directory. -/
theorem writePrivate_cases (w : Workspace) (path : Path) (text : String) :
    (∃ e, (w.writePrivate path text).1 = .error e ∧ w.Grows (w.writePrivate path text).2 ∧
      w.tree.Widens (w.writePrivate path text).2.tree) ∨
    ∃ parent name dir made, Ends path parent name ∧ w.Grows made ∧ w.tree.Widens made.tree ∧
      made.tree.directoryAt made.workingDirectory parent = .ok dir ∧
      made.tree.get? (dir ++ [name]) ≠ some .directory ∧ (w.writePrivate path text).1 = .ok () ∧
      (w.writePrivate path text).2.workingDirectory = made.workingDirectory ∧
      (w.writePrivate path text).2.tree.Thinner made.tree ∧
      ∀ loc, (w.writePrivate path text).2.tree.get? loc =
        if loc = dir ++ [name] then some (.file text.toUTF8 privateMode)
        else made.tree.get? loc := by
  unfold writePrivate
  rcases hsplit : splitPath path with e | ⟨parent, name⟩
  · exact Or.inl ⟨e, rfl, Grows.refl w, Tree.Widens.refl _⟩
  have hgrows := grows_prepare w parent
  have hwidens := (widens_prepare w parent).2
  rcases hprepare : w.prepare parent with ⟨e | dir, made⟩
  · rw [hprepare] at hgrows hwidens
    simp only [hprepare]
    exact Or.inl ⟨e, rfl, hgrows, hwidens⟩
  rw [hprepare] at hgrows hwidens
  simp only [hprepare]
  by_cases hremovable : Removable made.tree dir name
  · refine Or.inr ⟨parent, name, dir, made, ⟨hsplit, hremovable.no_nul, hremovable.short⟩,
      hgrows, hwidens, directoryAt_prepare hprepare, hremovable.not_directory, ?_⟩
    rcases hget : made.tree.get? (dir ++ [name]) with _ | e
    · rw [hremovable.removeWithin_none hget]
      exact ⟨rfl, rfl, Tree.thinner_put_file _ _ _ _, get?_put_at _ _ _ _⟩
    · rw [hremovable.removeWithin_some hget]
      -- The old entry is removed first: if it is a link, a way is lost with it.
      refine ⟨rfl, rfl, (Tree.thinner_put_file _ _ _ _).trans (Tree.keeps_of_erase _ _).thinner,
        ?_⟩
      intro loc
      refine (get?_put_at _ _ _ _ loc).trans ?_
      by_cases hloc : loc = dir ++ [name]
      · rw [if_pos hloc, if_pos hloc]
      · rw [if_neg hloc, if_neg hloc, Tree.get?_erase_of_ne _ hloc]
  · rcases removeWithin_of_not_removable hremovable with ⟨fault, hfound, hfault⟩
    rw [hfault]
    refine Or.inl ⟨.access path fault, ?_⟩
    cases fault with
    | notFound => exact absurd rfl hfound
    | _ => exact ⟨rfl, hgrows, hwidens⟩

/-- A path that was written privately is clearable. -/
theorem clearable_of_writePrivate {path : Path} {text : String}
    (h : w.writePrivate path text = (.ok (), w')) : w'.Clearable path := by
  have hcases := writePrivate_cases w path text
  rw [h] at hcases
  rcases hcases with ⟨e, hfailed, -⟩ |
    ⟨parent, name, dir, made, hends, _, _, hdir, _, _, hwd, hthin, hget⟩
  · exact absurd hfailed (by simp)
  · refine clearable_of_thinner hends hwd hthin hdir ?_
    rw [hget, if_pos rfl]
    simp

/-- What was settled is clearable after a private file was written, or could not be. -/
theorem Settled.writePrivate {other : Path} (h : w.Settled other) (path : Path)
    (text : String) : (w.writePrivate path text).2.Clearable other := by
  rcases writePrivate_cases w path text with ⟨_, _, hgrows, -⟩ |
    ⟨parent, name, dir, made, _, hgrows, _, _, _, _, hwd, hthin, hget⟩
  · exact (hgrows.settled h).clearable
  · rcases hgrows.settled h with ⟨parent', name', dir', e, hends, hdir, hthere, hne⟩
    refine clearable_of_thinner hends hwd hthin hdir ?_
    rw [hget]
    -- Two paths may lead to one place, and then the new file is there.
    by_cases hsame : dir' ++ [name'] = dir ++ [name]
    · rw [if_pos hsame]
      simp
    · rw [if_neg hsame, hthere]
      simpa using hne

/-- A removal takes away one entry or none. -/
theorem shrinks_removeIfPresent (w : Workspace) (path : Path) :
    w.Shrinks (w.removeIfPresent path).2 := by
  have hsame := Shrinks.refl w
  unfold removeIfPresent
  rcases splitPath path with e | ⟨parent, name⟩
  · exact hsame
  simp only
  split
  · exact hsame
  · exact hsame
  next dir _ =>
    by_cases hremovable : Removable w.tree dir name
    · rcases hget : w.tree.get? (dir ++ [name]) with _ | e
      · rw [hremovable.removeWithin_none hget]
        exact hsame
      · rw [hremovable.removeWithin_some hget]
        exact ⟨rfl, Tree.keeps_of_erase _ _⟩
    · rcases removeWithin_of_not_removable hremovable with ⟨fault, _, hfault⟩
      rw [hfault]
      cases fault <;> exact hsame

/-- Removing a clearable path takes away what is at its place, and nothing else. -/
theorem get?_removeIfPresent {path : Path} (h : w.Clearable path) (loc : Location) :
    (w.removeIfPresent path).2.tree.get? loc =
      if w.place? path = some loc then none else w.tree.get? loc := by
  rcases h with ⟨parent, name, ⟨hsplit, hnul, hshort⟩, hclear⟩
  unfold removeIfPresent place?
  simp only [hsplit]
  rcases hdir : w.tree.directoryAt w.workingDirectory parent with fault | dir
  · simp only [reduceCtorEq, if_false]
    cases fault <;> rfl
  have hremovable : Removable w.tree dir name := ⟨hnul, hshort, hclear dir hdir⟩
  simp only [Option.some.injEq]
  rcases hget : w.tree.get? (dir ++ [name]) with _ | e
  · rw [hremovable.removeWithin_none hget]
    by_cases hloc : dir ++ [name] = loc
    · rw [if_pos hloc, ← hloc]
      exact hget
    · rw [if_neg hloc]
  · rw [hremovable.removeWithin_some hget]
    by_cases hloc : dir ++ [name] = loc
    · rw [if_pos hloc, ← hloc]
      exact Tree.get?_erase_self _ _ (by simp)
    · rw [if_neg hloc]
      exact Tree.get?_erase_of_ne _ (Ne.symm hloc)

/-- After its removal a clearable path has no entry. -/
theorem found?_removeIfPresent {path : Path} (h : w.Clearable path) :
    (w.removeIfPresent path).2.found? path = none := by
  rw [found?_eq]
  rcases hplace : (w.removeIfPresent path).2.place? path with _ | loc
  · rfl
  · have hbefore := (shrinks_removeIfPresent w path).place? hplace
    exact (get?_removeIfPresent h loc).trans (if_pos hbefore)

end Workspace

end Storage

end Qualifier
