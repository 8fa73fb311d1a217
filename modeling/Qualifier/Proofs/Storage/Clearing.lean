import Qualifier.Proofs.Storage.Divergence
import Qualifier.Proofs.Storage.Removal

/-!
# Files Written to Be Removed

Of a file that was written and is to be removed later on, it matters where its path leads
in the meantime. Other files are written and removed, and any of these may be a link or lie
behind one.

A path that was written is `Firm`: it leads to no directory, and no further write can change
that. So a removal of it is `Harmless`, and takes nothing away that another path leads
through; what it takes away is the entry at its own place. In this way each of several files
can be removed in turn, and only what stands in a place that no path leads to any more is left.
A private file may get there, as it is put in the place of a link; it is then one that
`Strands`.

## Main definitions

* `Workspace.Widened`: Only directories were made.
* `Workspace.Firm`, `Workspace.Harmless`: Paths that lead to no directory, for good or for now.
* `Workspace.Strands`: A private file is put where its path does not lead afterwards.
* `inscribed`: What a write puts into a file, by how it ends.
* `Workspace.Wrote`, `Workspace.WrotePrivately`, `Workspace.FailedPrivately`: What a write
  leaves behind.

## Theorems

* `Firm.of_overlays`: What is firm stays so.
* `wrote_write`, `wrotePrivately_writePrivate`: Writes leave their path firm.
* `Harmless.place?_removeIfPresent`: After a harmless removal other paths lead where they led.
-/

namespace Qualifier

namespace Storage

/-- To put a file anywhere is to overlay a tree. -/
theorem Tree.overlays_of_get?_eq {t t' : Tree} {loc : Location} {content : ByteArray} {mode : Nat}
    (hget : ∀ other, t'.get? other =
      if other = loc then some (.file content mode) else t.get? other) : t.Overlays t' := by
  intro other
  rw [hget]
  by_cases hother : other = loc
  · exact Or.inr (Or.inr ⟨content, mode, if_pos hother⟩)
  · exact Or.inl (if_neg hother)

/-- A plain name is always looked up. -/
theorem looksUp_plain {name : String} (hplain : Plain name)
    (hshort : name.utf8ByteSize ≤ nameLimit) (rules : Rules) (slash : Bool) (loc : Location)
    (rest : List String) : LooksUp rules slash loc name rest := by
  intro t
  rw [leg_cons, if_neg hplain.ne_dot, if_neg hplain.ne_dots, if_neg (Nat.not_lt.mpr hshort)]

/-- What a write puts into a file: the text, or nothing if it fails when it has opened the
    file. -/
def inscribed (text : String) : Except FileError Unit → ByteArray
  | .ok _ => text.toUTF8
  | .error _ => "".toUTF8

namespace Workspace

variable {w w' w'' : Workspace}

/-- From `w` to `w'` nothing but directories was made. -/
structure Widened (w w' : Workspace) : Prop where
  workingDirectory : w'.workingDirectory = w.workingDirectory
  tree : w.tree.Widens w'.tree

/-- A path leads to no directory, and not for want of an entry. -/
def Firm (w : Workspace) (path : Path) : Prop :=
  ∃ parent name, Ends path parent name ∧
    w.tree.directoryAt w.workingDirectory parent ≠ .error .notFound ∧
    ∀ dir, w.tree.directoryAt w.workingDirectory parent = .ok dir → w.tree.Sealed dir name

/-- A path leads to no directory, not even through a link. -/
def Harmless (w : Workspace) (path : Path) : Prop :=
  ∃ parent name, Ends path parent name ∧
    ∀ dir, w.tree.directoryAt w.workingDirectory parent = .ok dir → w.tree.DeadEnd dir name

/-- A private file that is written to the path is put at a location in the place of a link,
    and the path, which led through the link, does not lead there any more. -/
structure Strands (w : Workspace) (path : Path) (text : String) (loc : Location) : Prop where
  link : ∃ target, w.tree.get? loc = some (.link target)
  file : (w.writePrivate path text).2.tree.get? loc = some (.file text.toUTF8 privateMode)
  lost : (w.writePrivate path text).2.found? path = none

/-- What a write leaves behind, however it ended. -/
structure Wrote (w : Workspace) (path : Path) (text : String) (answer : Except FileError Unit)
    (w' : Workspace) : Prop where
  workingDirectory : w'.workingDirectory = w.workingDirectory
  thinner : w.tree.Thinner w'.tree
  overlays : w.tree.Overlays w'.tree
  firm : answer = .ok () → w'.Firm path
  files : ∀ loc content mode, w'.tree.get? loc = some (.file content mode) →
    w.tree.get? loc = some (.file content mode) ∨ content = inscribed text answer

/-- What the writing of a private file leaves behind, if it was written. -/
structure WrotePrivately (w : Workspace) (path : Path) (text : String) (w' : Workspace) :
    Prop where
  workingDirectory : w'.workingDirectory = w.workingDirectory
  overlays : w.tree.Overlays w'.tree
  firm : w'.Firm path
  files : ∀ loc content mode, w'.tree.get? loc = some (.file content mode) →
    w.tree.get? loc = some (.file content mode) ∨
      content = text.toUTF8 ∧ (w'.place? path = some loc ∨ w.Strands path text loc)

/-- What is left behind if a private file could not be written. -/
structure FailedPrivately (w w' : Workspace) : Prop where
  harmless : ∀ path, w.Firm path → w'.Harmless path
  files : ∀ loc content mode, w'.tree.get? loc = some (.file content mode) →
    w.tree.get? loc = some (.file content mode) ∨ content = "".toUTF8

/-! ## What stays as it is -/

theorem Widened.file (h : w.Widened w') {loc : Location} {content : ByteArray} {mode : Nat}
    (hfile : w'.tree.get? loc = some (.file content mode)) :
    w.tree.get? loc = some (.file content mode) := by
  rcases h.tree loc with hsame | ⟨-, hmade⟩
  · rw [← hsame, hfile]
  · exact absurd (hfile.symm.trans hmade) (by simp)

/-- What is firm stays so, whatever is written. -/
theorem Firm.of_overlays {path : Path} (h : w.Firm path)
    (hwd : w'.workingDirectory = w.workingDirectory) (hover : w.tree.Overlays w'.tree) :
    w'.Firm path := by
  rcases h with ⟨parent, name, hends, hfound, hsealed⟩
  refine ⟨parent, name, hends, ?_⟩
  rw [hwd]
  rcases hover.directoryAt w.workingDirectory parent with hsame | hnone | hfile
  · rw [hsame]
    exact ⟨hfound, fun dir hdir => (hsealed dir hdir).of_overlays hover⟩
  · exact absurd hnone hfound
  · rw [hfile]
    exact ⟨by simp, fun dir hdir => absurd hdir (by simp)⟩

theorem Firm.harmless {path : Path} (h : w.Firm path) : w.Harmless path := by
  rcases h with ⟨parent, name, hends, -, hsealed⟩
  exact ⟨parent, name, hends, fun dir hdir => (hsealed dir hdir).deadEnd⟩

/-- What is harmless stays so, whatever is taken away. -/
theorem Harmless.of_shrinks {path : Path} (h : w.Harmless path) (hshrinks : w.Shrinks w') :
    w'.Harmless path := by
  rcases h with ⟨parent, name, hends, hdead⟩
  refine ⟨parent, name, hends, fun dir hdir => ?_⟩
  rw [hshrinks.workingDirectory] at hdir
  exact (hdead dir (directoryAt_of_thinner hshrinks.tree.thinner hdir)).of_thinner
    hshrinks.tree.thinner

theorem Harmless.clearable {path : Path} (h : w.Harmless path) : w.Clearable path := by
  rcases h with ⟨parent, name, hends, hdead⟩
  refine ⟨parent, name, hends, fun dir hdir hget => ?_⟩
  have hleg : leg w.tree .free false dir [name] = .arrived (.ok (.entry dir name false)) := by
    rw [looksUp_plain (plain_of_splitPath hends.split) hends.short .free false dir [] w.tree, hget]
    rfl
  -- A directory under the name would be where the walk to it ends.
  refine hdead dir hdir linkLimit false [] (dir ++ [name]) ?_
  rw [Tree.reach, walk_of_arrived hleg]
  simp only [Tree.arrival, hget]

/-! ## What writes leave -/

/-- What a write does: nothing but the making of directories, or after that a file put where
    the fenced walk to the name has ended. -/
theorem widened_prepare (w : Workspace) (parent : Path) : w.Widened (w.prepare parent).2 :=
  ⟨(widens_prepare w parent).1, (widens_prepare w parent).2⟩

theorem write_cases (w : Workspace) (path : Path) (text : String) :
    (∃ e, (w.write path text).1 = .error e ∧ w.Widened (w.write path text).2) ∨
    (w.write path text).1 = .ok () ∧ ∃ parent name dir made within last mode,
      splitPath path = .ok (parent, name) ∧ w.Widened made ∧
      made.tree.directoryAt made.workingDirectory parent = .ok dir ∧
      made.tree.fenced dir name = .ok (.entry within last false) ∧
      (∀ e, made.tree.get? (within ++ [last]) = some e → e.conducts = false) ∧
      (w.write path text).2 =
        made.withTree (made.tree.put (within ++ [last]) (.file text.toUTF8 mode)) := by
  unfold write
  rcases hsplit : splitPath path with e | ⟨parent, name⟩
  · exact Or.inl ⟨e, rfl, rfl, Tree.Widens.refl _⟩
  have hwidened := widened_prepare w parent
  rcases hprepare : w.prepare parent with ⟨e | dir, made⟩
  · rw [hprepare] at hwidened
    simp only [hprepare]
    exact Or.inl ⟨e, rfl, hwidened⟩
  rw [hprepare] at hwidened
  simp only [hprepare]
  rcases hwrite : made.tree.writeWithin dir name text with fault | t
  · exact Or.inl ⟨_, rfl, hwidened⟩
  · rcases writeWithin_put (plain_of_splitPath hsplit) hwrite with
      ⟨within, last, mode, hfenced, rfl, hfree⟩
    exact Or.inr ⟨rfl, parent, name, dir, made, within, last, mode, rfl, hwidened,
      directoryAt_prepare hprepare, hfenced, hfree, rfl⟩

theorem Widened.wrote (h : w.Widened w') (path : Path) (text : String) (e : FileError) :
    w.Wrote path text (.error e) w' where
  workingDirectory := h.workingDirectory
  thinner := h.tree.keeps.thinner
  overlays := h.tree.overlays
  firm := fun hok => absurd hok (by simp)
  files := fun _ _ _ hfile => Or.inl (h.file hfile)

theorem wrote_write (w : Workspace) (path : Path) (text : String) :
    w.Wrote path text (w.write path text).1 (w.write path text).2 := by
  rcases write_cases w path text with ⟨e, hanswer, hwidened⟩ |
    ⟨hanswer, parent, name, dir, made, within, last, mode, hsplit, hwidened, hdir, hfenced, hfree,
      hafter⟩
  · rw [hanswer]
    exact hwidened.wrote path text e
  rcases fenced_plain (plain_of_splitPath hsplit) hfenced with ⟨hnul, hshort, hwalk⟩
  have hthin := Tree.thinner_put hfree (.file text.toUTF8 mode)
  rw [hanswer, hafter]
  constructor
  case workingDirectory => exact hwidened.workingDirectory
  case thinner => exact hwidened.tree.keeps.thinner.trans hthin
  case overlays => exact hwidened.tree.overlays.trans (Tree.overlays_of_get?_eq (get?_put_at _ _ _ _))
  case firm =>
      intro _
      have hdirAfter := directoryAt_of_thinner hthin hdir
      refine ⟨parent, name, ⟨hsplit, hnul, hshort⟩, ?_, ?_⟩
      · exact fun hnone => absurd (hnone.symm.trans hdirAfter) (by simp)
      · intro dir' hdir'
        obtain rfl := Except.ok.inj (hdirAfter.symm.trans hdir')
        -- Any walk that comes to the name goes where the fenced one went.
        intro links slash rest
        exact reach_past_file hthin (Tree.get?_put_self _ _ _ (by simp)) hwalk links slash rest
  case files =>
      intro loc content mode' hfile
      rw [withTree, get?_put_at] at hfile
      by_cases hloc : loc = within ++ [last]
      · rw [if_pos hloc, Option.some.injEq, Entry.file.injEq] at hfile
        exact Or.inr hfile.1.symm
      · rw [if_neg hloc] at hfile
        exact Or.inl (hwidened.file hfile)

/-- A write that fails when it has opened the file leaves what the writing of an empty text
    leaves. -/
theorem wrote_opened (w : Workspace) (path : Path) (text : String) (e : FileError) :
    w.Wrote path text (.error e) (w.write path "").2 := by
  have hempty := wrote_write w path ""
  have hblank : inscribed "" (w.write path "").1 = inscribed text (.error e) := by
    rcases (w.write path "").1 with _ | _ <;> rfl
  exact
    { workingDirectory := hempty.workingDirectory
      thinner := hempty.thinner
      overlays := hempty.overlays
      firm := fun hok => absurd hok (by simp)
      files := fun loc content mode hfile => hblank ▸ hempty.files loc content mode hfile }

/-- Writing a private file makes directories and may put the file in the place of another
    entry, so nothing that is firm is lost. -/
theorem overlays_writePrivate (w : Workspace) (path : Path) (text : String) :
    (w.writePrivate path text).2.workingDirectory = w.workingDirectory ∧
      w.tree.Overlays (w.writePrivate path text).2.tree := by
  rcases writePrivate_cases w path text with ⟨_, _, hgrows, hwidens⟩ |
    ⟨parent, name, dir, made, _, hgrows, hwidens, _, _, _, hwd, _, hget⟩
  · exact ⟨hgrows.workingDirectory, hwidens.overlays⟩
  · exact ⟨hwd.trans hgrows.workingDirectory,
      hwidens.overlays.trans (Tree.overlays_of_get?_eq hget)⟩

/-- Where a private file was put its path leads, or it leads nowhere any more, since the file
    has taken the place of a link. -/
theorem placed_or_strands {path parent : Path} {text name : String} {dir : Location}
    {made : Workspace} (hends : Ends path parent name) (hwidens : w.tree.Widens made.tree)
    (hdir : made.tree.directoryAt made.workingDirectory parent = .ok dir)
    (hfree : made.tree.get? (dir ++ [name]) ≠ some .directory)
    (hwd : (w.writePrivate path text).2.workingDirectory = made.workingDirectory)
    (hget : ∀ loc, (w.writePrivate path text).2.tree.get? loc =
      if loc = dir ++ [name] then some (.file text.toUTF8 privateMode) else made.tree.get? loc) :
    (w.writePrivate path text).2.tree.directoryAt made.workingDirectory parent = .ok dir ∨
      (w.writePrivate path text).2.tree.directoryAt made.workingDirectory parent
          = .error .notDirectory ∧
        w.Strands path text (dir ++ [name]) := by
  by_cases hlink : ∃ link, made.tree.get? (dir ++ [name]) = some (.link link)
  · rcases (Tree.overlays_of_get?_eq hget).directoryAt made.workingDirectory parent with
      hsame | hnone | hfile
    · exact Or.inl (hsame.trans hdir)
    · exact absurd (hdir.symm.trans hnone) (by simp)
    · rcases hlink with ⟨link, hlink⟩
      refine Or.inr ⟨hfile, ⟨link, hwidens.linksAmong _ _ hlink⟩, ?_, ?_⟩
      · rw [hget, if_pos rfl]
      · simp only [found?, hends.split, hwd, hfile]
  · refine Or.inl (directoryAt_of_thinner ?_ hdir)
    exact Tree.thinner_of_get?_eq hget hfree fun link hget => hlink ⟨link, hget⟩

/-- A private file that was written is at the place its path leads to, or is stranded. -/
theorem wrotePrivately_writePrivate {path : Path} {text : String}
    (h : (w.writePrivate path text).1 = .ok ()) :
    w.WrotePrivately path text (w.writePrivate path text).2 := by
  rcases overlays_writePrivate w path text with ⟨hwdAfter, hoverAfter⟩
  rcases writePrivate_cases w path text with ⟨e, hfailed, -, -⟩ |
    ⟨parent, name, dir, made, hends, hgrows, hwidens, hdir, hfree, -, hwd, -, hget⟩
  · exact absurd (h.symm.trans hfailed) (by simp)
  have hplaced := placed_or_strands hends hwidens hdir hfree hwd hget
  constructor
  case workingDirectory => exact hwdAfter
  case overlays => exact hoverAfter
  case firm =>
      refine ⟨parent, name, hends, ?_, ?_⟩
      · rw [hwd]
        rcases hplaced with hfound | ⟨hfile, -⟩
        · simp [hfound]
        · simp [hfile]
      · intro dir' hdir' links slash rest
        rw [hwd] at hdir'
        rcases hplaced with hfound | ⟨hfile, -⟩
        · obtain rfl := Except.ok.inj (hfound.symm.trans hdir')
          refine ⟨.notDirectory, by decide, reach_of_file ?_ ((hget _).trans (if_pos rfl))⟩
          exact looksUp_plain (plain_of_splitPath hends.split) hends.short _ _ _ _
        · exact absurd (hfile.symm.trans hdir') (by simp)
  case files =>
      intro loc content mode hfile
      rw [hget] at hfile
      by_cases hloc : loc = dir ++ [name]
      · rw [if_pos hloc, Option.some.injEq, Entry.file.injEq] at hfile
        refine Or.inr ⟨hfile.1.symm, ?_⟩
        rw [hloc]
        rcases hplaced with hfound | ⟨-, hstrands⟩
        · exact Or.inl (by simp only [place?, hends.split, hwd, hfound])
        · exact Or.inr hstrands
      · rw [if_neg hloc] at hfile
        have hwidened : w.Widened made := ⟨hgrows.workingDirectory, hwidens⟩
        exact Or.inl (hwidened.file hfile)

/-- It may not have been put anywhere, with some directories made for it. -/
theorem Widened.failedPrivately (h : w.Widened w') : w.FailedPrivately w' where
  harmless := fun _ hfirm => (hfirm.of_overlays h.workingDirectory h.tree.overlays).harmless
  files := fun _ _ _ hfile => Or.inl (h.file hfile)

theorem widened_writePrivate {path : Path} {text : String} {e : FileError}
    (h : (w.writePrivate path text).1 = .error e) : w.Widened (w.writePrivate path text).2 := by
  rcases writePrivate_cases w path text with ⟨-, -, hgrows, hwidens⟩ |
    ⟨_, _, _, _, -, -, -, -, -, hok, -, -, -⟩
  · exact ⟨hgrows.workingDirectory, hwidens⟩
  · exact absurd (h.symm.trans hok) (by simp)

/-- The entry that was there before may be gone already. -/
theorem Widened.failedPrivately_removed (h : w.Widened w') (path : Path) :
    w.FailedPrivately (w'.removeIfPresent path).2 := by
  have hshrinks := shrinks_removeIfPresent w' path
  refine ⟨fun other hfirm => ?_, fun loc content mode hfile => ?_⟩
  · exact (h.failedPrivately.harmless other hfirm).of_shrinks hshrinks
  · exact Or.inl (h.file (hshrinks.tree _ _ hfile))

/-- Or the file is there and empty. -/
theorem failedPrivately_opened (w : Workspace) (path : Path) :
    w.FailedPrivately (w.writePrivate path "").2 := by
  rcases overlays_writePrivate w path "" with ⟨hwd, hover⟩
  refine ⟨fun other hfirm => (hfirm.of_overlays hwd hover).harmless, ?_⟩
  rcases hanswer : (w.writePrivate path "").1 with e | _
  · exact (widened_writePrivate hanswer).failedPrivately.files
  · intro loc content mode hfile
    exact ((wrotePrivately_writePrivate hanswer).files loc content mode hfile).imp_right And.left

/-! ## What removals leave -/

/-- A harmless removal leaves the ways to all directories. -/
theorem Harmless.directoryAt_removeIfPresent {path other : Path} (h : w.Harmless path)
    {dir : Location} (hdir : w.tree.directoryAt w.workingDirectory other = .ok dir) :
    (w.removeIfPresent path).2.tree.directoryAt (w.removeIfPresent path).2.workingDirectory other
      = .ok dir := by
  have hget := get?_removeIfPresent h.clearable
  rw [(shrinks_removeIfPresent w path).workingDirectory]
  rcases hplace : w.place? path with _ | place
  · refine directoryAt_of_thinner (fun loc e _ hthere => ?_) hdir
    rw [hget, hplace, if_neg (by simp), hthere]
  · rcases h with ⟨parent, name, hends, hdead⟩
    rcases hparent : w.tree.directoryAt w.workingDirectory parent with fault | within
    · simp [place?, hends.split, hparent] at hplace
    · simp only [place?, hends.split, hparent, Option.some.injEq] at hplace
      refine directoryAt_of_erase (hdead within hparent) (fun loc hloc => ?_) hdir
      rw [hget, if_neg]
      simp only [place?, hends.split, hparent, Option.some.injEq]
      exact Ne.symm hloc

/-- After it, other paths lead where they led. -/
theorem Harmless.place?_removeIfPresent {path other : Path} {loc : Location} (h : w.Harmless path)
    (hplace : w.place? other = some loc) :
    (w.removeIfPresent path).2.place? other = some loc := by
  unfold place? at hplace ⊢
  rcases hsplit : splitPath other with e | ⟨parent, name⟩
  · simp [hsplit] at hplace
  · simp only [hsplit] at hplace ⊢
    rcases hdir : w.tree.directoryAt w.workingDirectory parent with fault | dir
    · simp [hdir] at hplace
    · rw [hdir] at hplace
      rw [h.directoryAt_removeIfPresent hdir]
      exact hplace

end Workspace

end Storage

end Qualifier
