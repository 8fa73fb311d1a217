import Qualifier.Proofs.Storage.Paving

/-!
# Ways through a Replaced Link

A private file takes the place of the entry at its path, and then no way leads on from there. A
way goes through directories and links only, and a directory is never replaced. So other paths
lead where they led, unless the entry was a link and they went through it: with the file in its
place they lead where they would with nothing there (`Replaces.place?`). Hence it can be told from
the tree before which paths are lost: those that lead somewhere, and nowhere once the link is
taken out (`LeadsThrough`, `ReadsThrough`).

Two files written one after the other, the second one privately, are an instance. Both are there
afterwards unless a path is lost in this way. What is read under the first path is the first text,
or the second one if both paths have come to lead to one file.

## Main definitions

* `Workspace.without`: A workspace with nothing at a location.
* `Workspace.Present`: A path leads to an entry that is no directory.
* `Workspace.LeadsThrough`, `Workspace.ReadsThrough`: Ways through the link at a location.
* `Workspace.Replaces`: A private file in the place of what was at a location.
* `Workspace.Lodged`: What comes of two files.

## Theorems

* `replaces_of_writePrivate`: What the writing of a private file changes, once the way is made.
* `Replaces.place?`, `Replaces.leads`, `Replaces.reads`: What becomes of the other paths.
* `present_of_writes`, `lodged_of_writes`: What becomes of two files.
-/

namespace Qualifier

namespace Storage

namespace Workspace

variable {w w' w'' before now : Workspace} {path other : Path} {text secret : String}
  {loc place : Location}

/-! ## Without an entry -/

/-- The workspace with nothing at a location. -/
def without (w : Workspace) (loc : Location) : Workspace :=
  w.withTree (w.tree.erase loc)

/-- A path leads to a place, and it leads to none without the link at a location. -/
structure LeadsThrough (w : Workspace) (path : Path) (loc : Location) : Prop where
  link : ∃ target, w.tree.get? loc = some (.link target)
  leads : w.place? path ≠ none
  lost : (w.without loc).place? path = none

/-- A file is read under a path, and none is without the link at a location. -/
structure ReadsThrough (w : Workspace) (path : Path) (loc : Location) : Prop where
  link : ∃ target, w.tree.get? loc = some (.link target)
  reads : ∃ place, w.ReadAt path place
  lost : ∀ place, ¬ (w.without loc).ReadAt path place

/-- A path leads to an entry, and this is no directory. -/
def Present (w : Workspace) (path : Path) : Prop :=
  ∃ e, w.found? path = some e ∧ e ≠ .directory

theorem workingDirectory_without (w : Workspace) (loc : Location) :
    (w.without loc).workingDirectory = w.workingDirectory :=
  rfl

theorem get?_without (hloc : loc ≠ []) (place : Location) :
    (w.without loc).tree.get? place = if place = loc then none else w.tree.get? place := by
  by_cases hplace : place = loc
  · rw [if_pos hplace, hplace]
    exact Tree.get?_erase_self _ _ hloc
  · rw [if_neg hplace]
    exact Tree.get?_erase_of_ne _ hplace

theorem thinner_without (w : Workspace) (loc : Location) :
    (w.without loc).tree.Thinner w.tree :=
  (Tree.keeps_of_erase _ _).thinner

/-- What is neither a directory nor a link is on no way. -/
theorem thinner_without_of_not_link (hdir : w.tree.get? loc ≠ some .directory)
    (hlink : ∀ target, w.tree.get? loc ≠ some (.link target)) :
    w.tree.Thinner (w.without loc).tree := by
  have hroot : loc ≠ [] := by
    rintro rfl
    exact hdir rfl
  exact Tree.thinner_of_get?_eq (get?_without hroot) hdir hlink

/-- Where no way is added and none is taken away a path leads where it led. -/
theorem place?_congr (hwd : w'.workingDirectory = w.workingDirectory)
    (hthin : w.tree.Thinner w'.tree) (hthin' : w'.tree.Thinner w.tree) (path : Path) :
    w'.place? path = w.place? path := by
  rcases hplace : w.place? path with _ | place
  · rcases hplace' : w'.place? path with _ | place'
    · rfl
    · exact absurd (hplace.symm.trans (place?_of_thinner hwd.symm hthin' hplace')) (by simp)
  · exact place?_of_thinner hwd hthin hplace

/-! ## What is read -/

/-- The file that is read under a path lies at one place, at which there is no link. -/
theorem ReadAt.not_link (h : w.ReadAt path loc) (target : String) :
    w.tree.get? loc ≠ some (.link target) := by
  rcases h with ⟨parent, name, dir, within, last, -, -, hfenced, rfl⟩
  rcases Tree.fenced_cases dir name with ⟨fault, hgo⟩ | ⟨slash, start, steps, hgo⟩
  · exact absurd ((hgo w.tree).symm.trans hfenced) (by simp)
  · exact walk_not_link rfl _ _ _ _ ((hgo w.tree).symm.trans hfenced) target

theorem ReadAt.unique (h : w.ReadAt path loc) (h' : w.ReadAt path place) : place = loc := by
  rcases h with ⟨parent, name, dir, within, last, hsplit, hdir, hfenced, rfl⟩
  rcases h' with ⟨parent', name', dir', within', last', hsplit', hdir', hfenced', rfl⟩
  obtain ⟨rfl, rfl⟩ := Prod.mk.inj (Except.ok.inj (hsplit.symm.trans hsplit'))
  obtain rfl := Except.ok.inj (hdir.symm.trans hdir')
  have hsame := Except.ok.inj (hfenced.symm.trans hfenced')
  rw [Target.entry.injEq] at hsame
  rw [hsame.1, hsame.2.1]

/-- What is read is in a file. -/
theorem readAt_of_read (h : w.read path = .ok text) :
    ∃ loc content mode, w.ReadAt path loc ∧ w.tree.get? loc = some (.file content mode) := by
  unfold Workspace.read at h
  rcases hsplit : splitPath path with e | ⟨parent, name⟩
  · simp [hsplit] at h
  rcases hdir : w.tree.directoryAt w.workingDirectory parent with fault | dir
  · simp [hsplit, hdir] at h
  rcases hfenced : w.tree.fenced dir name with fault | ⟨found | ⟨within, last, slash⟩⟩
  · simp [hsplit, hdir, Tree.readWithin, hfenced] at h
  · simp [hsplit, hdir, Tree.readWithin, hfenced] at h
  rcases hget : w.tree.get? (within ++ [last]) with _ | e
  · simp [hsplit, hdir, Tree.readWithin, hfenced, hget] at h
  cases e with
  | directory => simp [hsplit, hdir, Tree.readWithin, hfenced, hget] at h
  | link target => simp [hsplit, hdir, Tree.readWithin, hfenced, hget] at h
  | file content mode =>
      cases slash with
      | true => simp [hsplit, hdir, Tree.readWithin, hfenced, hget] at h
      | false =>
          exact ⟨_, content, mode, ⟨parent, name, dir, within, last, hsplit, hdir, hfenced, rfl⟩,
            hget⟩

/-! ## In the place of an entry -/

/-- From `before` to `now` a private file was put where there was no directory. -/
structure Replaces (before : Workspace) (loc : Location) (text : String) (now : Workspace) :
    Prop where
  workingDirectory : now.workingDirectory = before.workingDirectory
  free : before.tree.get? loc ≠ some .directory
  tree : ∀ place, now.tree.get? place =
    if place = loc then some (.file text.toUTF8 privateMode) else before.tree.get? place

theorem Replaces.ne_root (h : before.Replaces loc text now) : loc ≠ [] := by
  rintro rfl
  exact h.free rfl

theorem Replaces.here (h : before.Replaces loc text now) :
    now.tree.get? loc = some (.file text.toUTF8 privateMode) :=
  (h.tree loc).trans (if_pos rfl)

/-- No way leads through the file, so it may as well not be there. -/
theorem Replaces.thinner (h : before.Replaces loc text now) :
    now.tree.Thinner (before.without loc).tree := by
  intro place e he hget
  rw [h.tree] at hget
  rw [get?_without h.ne_root]
  by_cases hplace : place = loc
  · rw [if_pos hplace, Option.some.injEq] at hget
    exact absurd he (by simp [← hget, Entry.conducts])
  · rwa [if_neg hplace] at hget ⊢

theorem Replaces.bare_thinner (h : before.Replaces loc text now) :
    (before.without loc).tree.Thinner now.tree := by
  intro place e _ hget
  rw [get?_without h.ne_root] at hget
  rw [h.tree]
  by_cases hplace : place = loc
  · rw [if_pos hplace] at hget
    exact absurd hget (by simp)
  · rwa [if_neg hplace] at hget ⊢

/-- With the file there a path leads where it leads with nothing there. -/
theorem Replaces.place? (h : before.Replaces loc text now) (path : Path) :
    now.place? path = (before.without loc).place? path :=
  place?_congr (h.workingDirectory.trans (workingDirectory_without before loc).symm)
    h.bare_thinner h.thinner path

/-- A path that is lost went through a link. -/
theorem Replaces.leads (h : before.Replaces loc text now)
    (hplace : before.place? path = some place) :
    now.place? path = some place ∨ before.LeadsThrough path loc ∧ now.place? path = none := by
  rw [h.place?]
  rcases hbare : (before.without loc).place? path with _ | place'
  · refine Or.inr ⟨⟨?_, by simp [hplace], hbare⟩, rfl⟩
    refine Classical.byContradiction fun hlink => ?_
    have hways := thinner_without_of_not_link h.free fun target hget => hlink ⟨target, hget⟩
    have hleads := place?_of_thinner (workingDirectory_without before loc) hways hplace
    exact absurd (hbare.symm.trans hleads) (by simp)
  · have hleads := place?_of_thinner (workingDirectory_without before loc).symm
      (thinner_without before loc) hbare
    exact Or.inl (hleads.symm.trans hplace)

/-- An entry that a path led to is found under it, unless the path went through the link. -/
theorem Replaces.found? (h : before.Replaces loc text now)
    (hplace : before.place? path = some place) :
    now.found? path = now.tree.get? place ∨
      before.LeadsThrough path loc ∧ now.found? path = none := by
  simp only [found?_eq]
  exact (h.leads hplace).imp (fun hleads => by rw [hleads, Option.bind_some])
    (And.imp_right fun hlost => by rw [hlost, Option.bind_none])

/-- A path that was settled leads to an entry, unless it went through the link. -/
theorem Replaces.present (h : before.Replaces loc text now) (hpath : before.Settled path) :
    now.Present path ∨ before.LeadsThrough path loc ∧ now.found? path = none := by
  rcases hpath with ⟨parent, name, dir, e, hends, hdir, hget, hne⟩
  refine (h.found? (place?_of_directoryAt hends.split hdir)).imp_left fun hfound => ?_
  rw [h.tree] at hfound
  by_cases hsame : dir ++ [name] = loc
  · exact ⟨_, hfound.trans (if_pos hsame), by simp⟩
  · exact ⟨e, (hfound.trans (if_neg hsame)).trans hget, hne⟩

/-- What is read now under a path that a file was read under: what was read, or the new file,
    or nothing, as the path went through the link. -/
theorem Replaces.reads (h : before.Replaces loc secret now) {mode : Nat}
    (hread : before.ReadAt path place)
    (hfile : before.tree.get? place = some (.file text.toUTF8 mode)) :
    now.read path = .ok text ∨ now.ReadAt path loc ∧ now.read path = .ok secret ∨
      before.ReadsThrough path loc ∧ ∀ contents, now.read path ≠ .ok contents := by
  by_cases hbare : ∃ place', (before.without loc).ReadAt path place'
  · rcases hbare with ⟨place', hbare⟩
    by_cases hsame : place' = loc
    · subst hsame
      have hnow := hbare.of_thinner h.workingDirectory h.bare_thinner (by simp [h.here])
      exact Or.inr (Or.inl ⟨hnow, hnow.read h.here⟩)
    · -- Elsewhere both trees are the same, so it is the place where the file was.
      have hget := get?_without (w := before) h.ne_root place'
      rw [if_neg hsame] at hget
      have hbefore := hbare.of_thinner (workingDirectory_without before loc).symm
        (thinner_without before loc) fun target => hget ▸ hbare.not_link target
      obtain rfl := hread.unique hbefore
      have hnow : now.tree.get? place' = some (.file text.toUTF8 mode) := by
        rw [h.tree, if_neg hsame, hfile]
      refine Or.inl (ReadAt.read ?_ hnow)
      exact hbare.of_thinner h.workingDirectory h.bare_thinner (by simp [hnow])
  · have hlost : ∀ place', ¬ (before.without loc).ReadAt path place' :=
      fun place' hread' => hbare ⟨place', hread'⟩
    refine Or.inr (Or.inr ⟨⟨?_, ⟨place, hread⟩, hlost⟩, fun contents hcontents => ?_⟩)
    · refine Classical.byContradiction fun hlink => hlost place ?_
      have hways := thinner_without_of_not_link h.free fun target hget => hlink ⟨target, hget⟩
      refine hread.of_thinner (workingDirectory_without before loc) hways fun target hget => ?_
      exact hread.not_link target (Tree.keeps_of_erase _ _ _ _ hget)
    · rcases readAt_of_read hcontents with ⟨place', content, mode', hnow, hget⟩
      refine hlost place' (hnow.of_thinner h.workingDirectory.symm h.thinner fun target hlink => ?_)
      rw [get?_without h.ne_root] at hlink
      by_cases hsame : place' = loc
      · rw [if_pos hsame] at hlink
        exact absurd hlink (by simp)
      · rw [if_neg hsame] at hlink
        rw [h.tree, if_neg hsame, hlink] at hget
        exact absurd hget (by simp)

/-- The writing of a private file opens the directory part of its path and replaces what it then
    finds. -/
theorem replaces_of_writePrivate (h : w.writePrivate path text = (.ok (), w')) :
    ∃ loc, (w.opened path).place? path = some loc ∧ (w.opened path).Replaces loc text w' := by
  obtain rfl : (w.writePrivate path text).2 = w' := by rw [h]
  rcases writePrivate_of_opened w path text with ⟨e, hfailed⟩ |
    ⟨parent, name, dir, hends, -, hdir, hfree, -, hwd, hget⟩
  · exact absurd (hfailed.symm.trans h) (by simp)
  · exact ⟨dir ++ [name], place?_of_directoryAt hends.split hdir, hwd, hfree, hget⟩

/-! ## Two files -/

theorem grows_opened (w : Workspace) (path : Path) : w.Grows (w.opened path) :=
  ⟨(paved_opened w path).workingDirectory, (paved_opened w path).widens.keeps⟩

/-- Of two files that were written both are there, unless the path went through a link that the
    second one has replaced. -/
theorem present_of_writes (h : w.write path text = (.ok (), w'))
    (h' : w'.writePrivate other secret = (.ok (), w'')) :
    ∃ loc, (w'.opened other).place? other = some loc ∧
      w''.tree.get? loc = some (.file secret.toUTF8 privateMode) ∧
      ∀ p ∈ [path, other],
        w''.Present p ∨ (w'.opened other).LeadsThrough p loc ∧ w''.found? p = none := by
  rcases replaces_of_writePrivate h' with ⟨loc, hplace, hreplaces⟩
  refine ⟨loc, hplace, hreplaces.here, fun p hp => ?_⟩
  rcases List.mem_cons.mp hp with rfl | hp
  · exact hreplaces.present ((grows_opened w' other).settled (settled_of_write h))
  · rw [List.mem_singleton.mp hp]
    exact (hreplaces.found? hplace).imp_left fun hfound =>
      ⟨_, hfound.trans hreplaces.here, by simp⟩

/-- What comes of two files, the second one private and put at a location: each is found as it was
    written, unless the first path has come to lead to the second file, or a path went through the
    link that was at the location. -/
structure LodgedAt (between : Workspace) (loc : Location) (path other : Path)
    (text secret : String) (now : Workspace) : Prop where
  place : between.place? other = some loc
  file : now.tree.get? loc = some (.file secret.toUTF8 privateMode)
  first : now.read path = .ok text ∨ now.ReadAt path loc ∧ now.read path = .ok secret ∨
    between.ReadsThrough path loc ∧ ∀ contents, now.read path ≠ .ok contents
  second : now.found? other = some (.file secret.toUTF8 privateMode) ∨
    between.LeadsThrough other loc ∧ now.found? other = none

/-- What comes of two files that are written one after the other. What there is in between is what
    the first write leaves, with the way to the second file made. -/
def Lodged (begun : Workspace) (path other : Path) (text secret : String) (now : Workspace) :
    Prop :=
  ∃ loc, ((begun.write path text).2.opened other).LodgedAt loc path other text secret now

theorem lodged_of_writes (h : w.write path text = (.ok (), w'))
    (h' : w'.writePrivate other secret = (.ok (), w'')) :
    w.Lodged path other text secret w'' := by
  rcases replaces_of_writePrivate h' with ⟨loc, hplace, hreplaces⟩
  rcases readAt_of_write h with ⟨place, mode, hread, hfile⟩
  have hgrows := grows_opened w' other
  have hthere := hgrows.tree _ _ hfile
  have hopen := hread.of_thinner hgrows.workingDirectory hgrows.tree.thinner (by simp [hthere])
  refine ⟨loc, ?_⟩
  rw [h]
  exact ⟨hplace, hreplaces.here, hreplaces.reads hopen hthere,
    (hreplaces.found? hplace).imp_left fun hfound => hfound.trans hreplaces.here⟩

end Workspace

end Storage

end Qualifier
