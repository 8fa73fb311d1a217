import Qualifier.Outside.Bench
import Qualifier.Proofs.Outside.Ensures
import Qualifier.Proofs.Storage.Resemblance
import Qualifier.Proofs.Storage.Severance

/-!
# Replaced by a Private File

A private file is written by several calls to the system, and any of them may fail. What the
others have done stays (`Workspace.callwise`): directories on the way, an entry that is gone, a
file that holds less than it should. Whatever happens, nothing else is touched than the entry at
the path (`Workspace.Confined`). This is due to the order of the calls: the entry is taken away
before the file is made, so neither the mode of an old file nor the target of a link is reused.

If all calls succeed, the file is where the path led. Does the path still lead there? It does
unless it went through the entry that was taken away, and the only entry a path can go through and
a file can replace is a link to a directory (`reach_of_append`). So a file that took the place of
anything else is read back, and one that took the place of such a link may be out of reach as soon
as it is written (`writePrivate_out_of_reach`).

## Main definitions

* `Workspace.callwise`: What a workspace does if any call to the system may fail.
* `Workspace.behaviour`: The same if what is there can be removed.
* `Workspace.Confined`: Nothing changed but the entry at a path and the way to it.
* `Tree.LeadsOn`: A name that leads to a directory.

## Theorems

* `admits_callwise`, `admits_files`: The workspace of a test bench behaves so.
* `reach_of_append`: Whatever a walk goes through is a directory.
* `read_of_place`: A file is read under any path that leads to its place.
* `writePrivate_found`: Where the path of a private file leads.
* `writePrivate_fresh`: A private file is a fresh one, and nothing else is touched.
-/

namespace Qualifier

namespace Storage

variable {t t' : Tree}

/-! ## What a walk goes through -/

/-- A name leads to a directory, on its own or through links. -/
def Tree.LeadsOn (t : Tree) (dir : Location) (name : String) : Prop :=
  ∃ links slash place, t.reach links slash dir [name] = .ok place

/-- Up to the next link, a walk with more steps to go fails, or meets the link that it meets
    without them, or gets to a directory and goes on from there. -/
theorem leg_append (t : Tree) (slash slash' : Bool) (loc : Location) (steps : List String)
    (next : String) (rest : List String) :
    (∃ fault, leg t .free slash loc (steps ++ next :: rest) = .arrived (.error fault)) ∨
    (∃ place link more, leg t .free slash' loc steps = .through place link more ∧
      leg t .free slash loc (steps ++ next :: rest) = .through place link (more ++ next :: rest)) ∨
    ∃ result dir, leg t .free slash' loc steps = .arrived result ∧ t.arrival result = .ok dir := by
  induction steps generalizing loc with
  | nil => exact Or.inr (Or.inr ⟨.ok (.directory loc), loc, rfl, rfl⟩)
  | cons step steps ih =>
      rw [List.cons_append, leg_cons, leg_cons]
      by_cases hdot : step = "."
      · rw [if_pos hdot, if_pos hdot]
        exact ih loc
      rw [if_neg hdot, if_neg hdot]
      by_cases hdots : step = ".."
      · rw [if_pos hdots, if_pos hdots]
        exact ih loc.dropLast
      rw [if_neg hdots, if_neg hdots]
      by_cases hlong : nameLimit < step.utf8ByteSize
      · rw [if_pos hlong]
        exact Or.inl ⟨.nameTooLong, rfl⟩
      rw [if_neg hlong, if_neg hlong]
      have hmore : steps ++ next :: rest ≠ [] := by simp
      rcases hget : t.get? (loc ++ [step]) with _ | e
      · exact Or.inl ⟨.notFound, by rw [legInto, if_neg hmore]⟩
      cases e with
      | file content mode => exact Or.inl ⟨.notDirectory, by rw [legInto, if_neg hmore]⟩
      | link link =>
          refine Or.inr (Or.inl ⟨loc, link, steps, ?_, ?_⟩) <;> simp [legInto, Rules.free]
      | directory =>
          rw [legInto, if_neg hmore]
          cases steps with
          | nil =>
              exact Or.inr (Or.inr ⟨.ok (.entry loc step slash'), loc ++ [step], rfl,
                by simp only [Tree.arrival, hget]⟩)
          | cons again steps => exact ih (loc ++ [step])

/-- Whatever a walk goes through is a directory. The induction is on the links on the way. -/
theorem reach_of_append {links : Nat} {slash : Bool} {loc dir : Location}
    {steps rest : List String} (h : t.reach links slash loc (steps ++ rest) = .ok dir) :
    ∃ slash' place, t.reach links slash' loc steps = .ok place := by
  cases rest with
  | nil => exact ⟨slash, dir, by rwa [List.append_nil] at h⟩
  | cons next rest =>
      suffices hall : ∀ slash', ∃ place, t.reach links slash' loc steps = .ok place from
        ⟨slash, hall slash⟩
      intro slash'
      induction links using Nat.strongRecOn generalizing slash slash' loc steps with
      | ind links ih =>
          rcases leg_append t slash slash' loc steps next rest with
            ⟨fault, hfault⟩ | ⟨place, link, more, hshort, hlong⟩ | ⟨result, place, hshort, hplace⟩
          · rw [Tree.reach, walk_of_arrived hfault] at h
            exact absurd h (by simp [Tree.arrival])
          · cases links with
            | zero =>
                rw [Tree.reach, walk_zero_of_through hlong] at h
                exact absurd h (by simp [Tree.arrival])
            | succ links =>
                rw [Tree.reach, walk, hlong] at h
                rw [Tree.reach, walk, hshort]
                -- Both go on from what is after the link, wherever it leads.
                by_cases hroot : (Route.ofText link).fromRoot
                · simp only [hroot, if_true, Option.isSome_none, Bool.false_eq_true, if_false,
                    Rules.free, ← List.append_assoc] at h ⊢
                  exact ih links (Nat.lt_succ_self links) h _
                · simp only [hroot, Bool.false_eq_true, if_false, ← List.append_assoc] at h ⊢
                  exact ih links (Nat.lt_succ_self links) h _
          · exact ⟨place, by rw [Tree.reach, walk_of_arrived hshort, hplace]⟩

/-- A name that is no dead end leads to a directory. -/
theorem leadsOn_of_not_deadEnd {dir : Location} {name : String} (h : ¬ t.DeadEnd dir name) :
    t.LeadsOn dir name := by
  refine Classical.byContradiction fun hnot => h fun links slash rest place hreach => hnot ?_
  have hreach : t.reach links slash dir ([name] ++ rest) = .ok place := hreach
  rcases reach_of_append hreach with ⟨slash', place', hname⟩
  exact ⟨links, slash', place', hname⟩

namespace Workspace

variable {w w' made : Workspace} {path : Path} {text : String} {loc : Location}

/-! ## Reading at a place -/

theorem fenced_of_plain {dir : Location} {name : String} (hplain : Plain name)
    (hnul : '\x00' ∉ name.toList) (hshort : name.utf8ByteSize ≤ nameLimit)
    (hget : ∀ link, t.get? (dir ++ [name]) ≠ some (.link link)) :
    t.fenced dir name = .ok (.entry dir name false) := by
  have hlong : ¬ pathLimit ≤ name.utf8ByteSize :=
    Nat.not_le.mpr (Nat.lt_of_le_of_lt hshort (by decide))
  unfold Tree.fenced Tree.target
  rw [if_neg hnul, if_neg hnul, if_neg hlong, if_neg hplain.ne_empty, hplain.ofText]
  exact walk_of_arrived (leg_plain hplain hshort hget)

theorem readAt_of_place {parent : Path} {dir : Location} {name : String}
    (hends : Ends path parent name)
    (hdir : w.tree.directoryAt w.workingDirectory parent = .ok dir)
    (hget : ∀ link, w.tree.get? (dir ++ [name]) ≠ some (.link link)) :
    w.ReadAt path (dir ++ [name]) :=
  ⟨parent, name, dir, dir, name, hends.split, hdir,
    fenced_of_plain (plain_of_splitPath hends.split) hends.no_nul hends.short hget, rfl⟩

/-- A file is read under a path that leads to its place. -/
theorem read_of_place {parent : Path} {dir : Location} {name : String} {mode : Nat}
    (hends : Ends path parent name)
    (hdir : w.tree.directoryAt w.workingDirectory parent = .ok dir)
    (hfile : w.tree.get? (dir ++ [name]) = some (.file text.toUTF8 mode)) :
    w.read path = .ok text :=
  (readAt_of_place hends hdir (by simp [hfile])).read hfile

/-! ## Call by call -/

/-- What a workspace does if any call to the system may fail, and then does nothing. A write that
    fails may have made directories on the way, and it may have opened the file and written only a
    part of what was to be in it; a private one may also have taken away what was there. -/
def callwise : Behaviour Workspace
  | .write path text, w, answer, w' =>
    (answer, w') = w.write path text ∨
      (∃ e, answer = .error e) ∧ (w.Paved path w' ∨
        (w.write path "").2.Resembles ((w.write path "").2.ReadAt path) w')
  | .writePrivate path text, w, answer, w' =>
    (answer, w') = w.writePrivate path text ∨
      (∃ e, answer = .error e) ∧ (w.Paved path w' ∨ w' = ((w.opened path).removeIfPresent path).2 ∨
        (w.writePrivate path "").2.Resembles (w.Aims path) w')
  | .remove path, w, answer, w' =>
    (answer, w') = w.removeIfPresent path ∨ (∃ e, answer = .error e) ∧ w' = w
  | .service _, w, _, w' => w' = w
  | .read _, w, _, w' => w' = w
  | .fetch _, w, _, w' => w' = w
  | .launch _, w, _, w' => w' = w
  | .pause _, w, _, w' => w' = w
  | .freshName, w, _, w' => w' = w

/-- The same if what is there can be removed: the calls of a write may fail, and a removal is the
    workspace's own. -/
def behaviour : Behaviour Workspace
  | .remove path, w, answer, w' => (answer, w') = w.removeIfPresent path
  | q, w, answer, w' => callwise q w answer w'

theorem admits_callwise {σ : Type} (service : Service σ) :
    World.Admits (Bench.world service) Bench.files callwise := by
  intro q b
  cases q with
  | freshName => cases hnames : b.names <;> simp [Bench.world, hnames, callwise]
  | write path text => exact Or.inl rfl
  | writePrivate path text => exact Or.inl rfl
  | remove path => exact Or.inl rfl
  | _ => rfl

theorem admits_files {σ : Type} (service : Service σ) :
    World.Admits (Bench.world service) Bench.files behaviour := by
  intro q b
  have hcallwise := admits_callwise service q b
  cases q with
  | remove path => rfl
  | _ => exact hcallwise

/-- A write that is answered with success did what the workspace does. -/
theorem done_of_ok {done : Except FileError Unit × Workspace} {undone : Prop}
    (h : (.ok (), w') = done ∨ (∃ e, (.ok () : Except FileError Unit) = .error e) ∧ undone) :
    done = (.ok (), w') := by
  rcases h with hdone | ⟨⟨e, hfailed⟩, -⟩
  · exact hdone.symm
  · exact absurd hfailed (by simp)

/-- Whether a path can be removed has nothing to do with what is in the files. -/
theorem Resembles.clearable {differ : Location → Prop} (h : w.Resembles differ w')
    (hpath : w.Clearable path) : w'.Clearable path := by
  rcases hpath with ⟨parent, name, hends, hclear⟩
  refine ⟨parent, name, hends, fun dir hdir hget => ?_⟩
  rw [h.workingDirectory, h.tree.directoryAt] at hdir
  rcases h.tree.cases (dir ++ [name]) with hsame | ⟨-, content, content', mode, -, hget'⟩
  · exact hclear dir hdir (hsame.symm.trans hget)
  · exact absurd (hget'.symm.trans hget) (by simp)

/-- However the writing of a private file ends, a path that was settled can be removed. -/
theorem Settled.clearable_of_callwise {other : Path} {answer : Except FileError Unit}
    (hpath : w.Settled path) (h : callwise (.writePrivate other text) w answer w') :
    w'.Clearable path := by
  rcases h with hdone | ⟨-, hpaved | rfl | hsame⟩
  · rw [← show (w.writePrivate other text).2 = w' by rw [← hdone]]
    exact hpath.writePrivate other text
  · have hgrows : w.Grows w' := ⟨hpaved.workingDirectory, hpaved.widens.keeps⟩
    exact (hgrows.settled hpath).clearable
  · exact (shrinks_removeIfPresent _ _).clearable ((grows_opened w other).settled hpath).clearable
  · exact hsame.clearable (hpath.writePrivate other "")

/-- Between `w` and `w'` nothing changed but the entry at a path, besides directories made on the
    way to it: some of these were made and that was all, or the directory part of the path was
    opened and the rest happened at the place the path leads to from then on. -/
inductive Confined (w : Workspace) (path : Path) (w' : Workspace) : Prop
  | paved (h : w.Paved path w')
  | placed (hwd : w'.workingDirectory = (w.opened path).workingDirectory)
      (hsame : ∀ loc, (w.opened path).place? path ≠ some loc →
        w'.tree.get? loc = (w.opened path).tree.get? loc)

/-- Every entry is kept but the one at the place of the path. -/
theorem Confined.kept (h : w.Confined path w') {e : Entry} (hget : w.tree.get? loc = some e)
    (hplace : (w.opened path).place? path ≠ some loc) : w'.tree.get? loc = some e := by
  cases h with
  | paved h => exact h.widens.keeps _ _ hget
  | placed _ hsame =>
      rw [hsame loc hplace]
      exact (paved_opened w path).widens.keeps _ _ hget

/-- Removing a path touches nothing but its place. -/
theorem removeIfPresent_elsewhere (w : Workspace) (path : Path)
    (hloc : w.place? path ≠ some loc) :
    (w.removeIfPresent path).2.tree.get? loc = w.tree.get? loc := by
  unfold removeIfPresent
  rcases hsplit : splitPath path with e | ⟨parent, name⟩
  · rfl
  simp only
  rcases hdir : w.tree.directoryAt w.workingDirectory parent with fault | dir
  · cases fault <;> rfl
  have hne : loc ≠ dir ++ [name] := by
    rintro rfl
    exact hloc (place?_of_directoryAt hsplit hdir)
  by_cases hremovable : Removable w.tree dir name
  · rcases hget : w.tree.get? (dir ++ [name]) with _ | e
    · simp only [hremovable.removeWithin_none hget]
    · simp only [hremovable.removeWithin_some hget]
      exact Tree.get?_erase_of_ne _ hne
  · rcases removeWithin_of_not_removable hremovable with ⟨fault, -, hfault⟩
    simp only [hfault]
    cases fault <;> rfl

/-- Where a private file aims is where its path leads once it is open. -/
theorem Aims.place? (h : w.Aims path loc) : (w.opened path).place? path = some loc := by
  rcases h with ⟨parent, name, dir, hsplit, hdir, rfl⟩
  rcases hprepare : w.prepare parent with ⟨answer, made⟩
  obtain rfl : answer = .ok dir := by rw [← hdir, hprepare]
  rw [opened_of_split hsplit, hprepare]
  exact place?_of_directoryAt hsplit (directoryAt_prepare hprepare)

theorem confined_writePrivate (w : Workspace) (path : Path) (text : String) :
    w.Confined path (w.writePrivate path text).2 := by
  rcases writePrivate_of_opened w path text with ⟨e, hfailed⟩ |
    ⟨parent, name, dir, hends, -, hdir, -, -, hwd, hget⟩
  · rw [hfailed]
    exact .paved (paved_opened w path)
  · refine .placed hwd fun loc hloc => ?_
    rw [hget, if_neg]
    rintro rfl
    exact hloc (place?_of_directoryAt hends.split hdir)

/-- However a private write ends, nothing is touched but the entry at its path. -/
theorem confined_of_callwise {answer : Except FileError Unit}
    (h : callwise (.writePrivate path text) w answer w') : w.Confined path w' := by
  rcases h with hdone | ⟨-, hpaved | rfl | hsame⟩
  · rw [← show (w.writePrivate path text).2 = w' by rw [← hdone]]
    exact confined_writePrivate w path text
  · exact .paved hpaved
  · exact .placed (shrinks_removeIfPresent _ _).workingDirectory fun loc hloc =>
      removeIfPresent_elsewhere _ _ hloc
  · -- What holds of the empty file holds of one with any other bytes in it.
    rcases writePrivate_of_opened w path "" with ⟨e, hfailed⟩ |
      ⟨parent, name, dir, hends, -, hdir, -, -, hwd, hget⟩
    · rw [hfailed] at hsame
      refine .placed hsame.workingDirectory fun loc hloc => ?_
      exact hsame.tree.same loc fun haims => hloc haims.place?
    · refine .placed (hsame.workingDirectory.trans hwd) fun loc hloc => ?_
      rw [hsame.tree.same loc fun haims => hloc haims.place?, hget, if_neg]
      rintro rfl
      exact hloc (place?_of_directoryAt hends.split hdir)

/-! ## A fresh file -/

/-- Where the path of a private file leads when it is written: to the file, or nowhere any more.
    The latter only if the file has taken the place of a link that led on to a directory. -/
theorem writePrivate_found (h : (w.writePrivate path text).1 = .ok ()) :
    ∃ dir name, (w.opened path).place? path = some (dir ++ [name]) ∧
      (w.writePrivate path text).2.tree.get? (dir ++ [name])
        = some (.file text.toUTF8 privateMode) ∧
      ((w.writePrivate path text).2.found? path = some (.file text.toUTF8 privateMode) ∧
          (w.writePrivate path text).2.read path = .ok text ∨
        (w.writePrivate path text).2.found? path = none ∧
          (∃ target, (w.opened path).tree.get? (dir ++ [name]) = some (.link target)) ∧
          (w.opened path).tree.LeadsOn dir name) := by
  rcases writePrivate_of_opened w path text with ⟨e, hfailed⟩ |
    ⟨parent, name, dir, hends, -, hdir, hfree, -, hwd, hget⟩
  · exact absurd ((congrArg Prod.fst hfailed).symm.trans h) (by simp)
  have hhere := (hget (dir ++ [name])).trans (if_pos rfl)
  refine ⟨dir, name, place?_of_directoryAt hends.split hdir, hhere, ?_⟩
  rcases (Tree.overlays_of_get?_eq hget).directoryAt (w.opened path).workingDirectory parent with
    hsame | hnone | hlost
  · have hfound := hsame.trans hdir
    rw [← hwd] at hfound
    refine Or.inl ⟨?_, read_of_place hends hfound hhere⟩
    rw [found?_eq, place?_of_directoryAt hends.split hfound]
    exact hhere
  · exact absurd (hdir.symm.trans hnone) (by simp)
  · refine Or.inr ⟨by simp only [found?, hends.split, hwd, hlost], ?_⟩
    have hlive : ¬ (w.opened path).tree.DeadEnd dir name := by
      intro hdead
      have hkept := directoryAt_of_erase hdead (fun loc hloc => (hget loc).trans (if_neg hloc)) hdir
      exact absurd (hlost.symm.trans hkept) (by simp)
    refine ⟨?_, leadsOn_of_not_deadEnd hlive⟩
    have hlooks := looksUp_plain (plain_of_splitPath hends.split) hends.short
    -- Where there is nothing, or a file, every walk ends.
    rcases hthere : (w.opened path).tree.get? (dir ++ [name]) with _ | e
    · refine absurd (fun links slash rest place hreach => ?_) hlive
      exact absurd ((reach_of_none (hlooks _ _ _ _) hthere).symm.trans hreach) (by simp)
    cases e with
    | directory => exact absurd hthere hfree
    | link target => exact ⟨target, rfl⟩
    | file content mode =>
        refine absurd (fun links slash rest place hreach => ?_) hlive
        exact absurd ((reach_of_file (hlooks _ _ _ _) hthere).symm.trans hreach) (by simp)

/-- Where a private file was put its path leads, or the file is stranded there. -/
theorem Aims.placed_or_strands (haims : w.Aims path loc)
    (h : (w.writePrivate path text).1 = .ok ()) :
    (w.writePrivate path text).2.place? path = some loc ∨ w.Strands path text loc := by
  rcases writePrivate_of_opened w path text with ⟨e, hfailed⟩ |
    ⟨parent, name, dir, hends, -, hdir, hfree, -, hwd, hget⟩
  · exact absurd ((congrArg Prod.fst hfailed).symm.trans h) (by simp)
  obtain rfl : dir ++ [name] = loc :=
    Option.some.inj ((place?_of_directoryAt hends.split hdir).symm.trans haims.place?)
  rcases Workspace.placed_or_strands hends (paved_opened w path).widens hdir hfree hwd hget with
    hfound | ⟨-, hstrands⟩
  · rw [← hwd] at hfound
    exact Or.inl (place?_of_directoryAt hends.split hfound)
  · exact Or.inr hstrands

/-- The path leads where it leads when the entry at its end is gone and nothing is in its
    place. -/
theorem place?_writePrivate (h : (w.writePrivate path text).1 = .ok ()) :
    (w.writePrivate path text).2.place? path =
      ((w.opened path).removeIfPresent path).2.place? path := by
  rcases writePrivate_of_opened w path text with ⟨e, hfailed⟩ |
    ⟨parent, name, dir, hends, -, hdir, hfree, -, hwd, hget⟩
  · exact absurd ((congrArg Prod.fst hfailed).symm.trans h) (by simp)
  have hreplaces : (w.opened path).Replaces (dir ++ [name]) text (w.writePrivate path text).2 :=
    ⟨hwd, hfree, hget⟩
  have hclear : (w.opened path).Clearable path := by
    refine ⟨parent, name, hends, fun dir' hdir' => ?_⟩
    obtain rfl := Except.ok.inj (hdir.symm.trans hdir')
    exact hfree
  have hgone : ∀ place, ((w.opened path).removeIfPresent path).2.tree.get? place =
      ((w.opened path).without (dir ++ [name])).tree.get? place := by
    intro place
    rw [get?_removeIfPresent hclear, place?_of_directoryAt hends.split hdir,
      get?_without hreplaces.ne_root]
    by_cases hplace : place = dir ++ [name]
    · rw [if_pos hplace, if_pos (congrArg some hplace.symm)]
    · rw [if_neg hplace, if_neg fun heq => hplace (Option.some.inj heq).symm]
  have hsame := (shrinks_removeIfPresent (w.opened path) path).workingDirectory
  rw [hreplaces.place?]
  refine (place?_congr (hsame.trans (workingDirectory_without _ _).symm) ?_ ?_ path).symm
  · exact fun place _ _ hthere => (hgone place).trans hthere
  · exact fun place _ _ hthere => (hgone place).symm.trans hthere

/-- A private file that was written is a fresh one at the place its path led to: it holds the text
    and is its owner's only, whatever was there. It is found and read under the path, unless it has
    taken the place of a link to a directory and the path went through that link. However the write
    ends, nothing is touched but the entry at the path and missing directories on the way. -/
theorem writePrivate_fresh {answer : Except FileError Unit}
    (h : callwise (.writePrivate path text) w answer w') :
    w.Confined path w' ∧
    (answer = .ok () → ∃ dir name, (w.opened path).place? path = some (dir ++ [name]) ∧
      w'.tree.get? (dir ++ [name]) = some (.file text.toUTF8 privateMode) ∧
      (∀ loc e, loc ≠ dir ++ [name] → w.tree.get? loc = some e → w'.tree.get? loc = some e) ∧
      w'.place? path = ((w.opened path).removeIfPresent path).2.place? path ∧
      (w'.found? path = some (.file text.toUTF8 privateMode) ∧ w'.read path = .ok text ∨
        w'.found? path = none ∧
          (∃ target, w.tree.get? (dir ++ [name]) = some (.link target)) ∧
          (w.opened path).tree.LeadsOn dir name)) ∧
    (∀ cause, answer = .error cause → ∀ loc e, w.tree.get? loc = some e →
      (w.opened path).place? path ≠ some loc → w'.tree.get? loc = some e) := by
  have hconfined := confined_of_callwise h
  refine ⟨hconfined, ?_, ?_⟩
  · rintro rfl
    rcases h with hdone | ⟨⟨e, hanswer⟩, -⟩
    · have hok : (w.writePrivate path text).1 = .ok () := by rw [← hdone]
      obtain rfl : (w.writePrivate path text).2 = w' := by rw [← hdone]
      rcases writePrivate_found hok with ⟨dir, name, hplace, hhere, hfound⟩
      refine ⟨dir, name, hplace, hhere, fun loc e hloc hget => ?_, place?_writePrivate hok, ?_⟩
      · refine hconfined.kept hget fun heq => hloc ?_
        exact Option.some.inj (heq.symm.trans hplace)
      · refine hfound.imp_right (And.imp_right (And.imp_left ?_))
        rintro ⟨target, htarget⟩
        exact ⟨target, (paved_opened w path).widens.linksAmong _ _ htarget⟩
    · exact absurd hanswer (by simp)
  · exact fun _ _ _ _ hget hplace => hconfined.kept hget hplace

theorem eq_ok_of_isOk {answer : Except FileError Unit} (h : answer.isOk = true) :
    answer = .ok () := by
  cases answer with
  | error e => exact absurd h (by simp [Except.isOk, Except.toBool])
  | ok _ => rfl

/-- A workspace in which one name is a link to the file under another. -/
def doubled : Workspace :=
  ⟨(Tree.empty.put ["cert"] (.file "PEM".toUTF8 ordinaryMode)).put ["key"] (.link "cert"), []⟩

/-- There the link gives way to a file of its own, and the file it led to is kept. -/
theorem writePrivate_fresh_doubled :
    let done := doubled.writePrivate ⟨"key"⟩ "KEY"
    done.1 = .ok () ∧ done.2.found? ⟨"key"⟩ = some (.file "KEY".toUTF8 privateMode) ∧
      done.2.read ⟨"key"⟩ = .ok "KEY" ∧
      done.2.tree.get? ["cert"] = some (.file "PEM".toUTF8 ordinaryMode) := by
  have hok : (doubled.writePrivate ⟨"key"⟩ "KEY").1 = .ok () := eq_ok_of_isOk (by decide +kernel)
  have hfound : ((doubled.writePrivate ⟨"key"⟩ "KEY").2.found? ⟨"key"⟩).isSome = true := by
    decide +kernel
  have hplace : (doubled.opened ⟨"key"⟩).place? ⟨"key"⟩ = some ["key"] := by decide +kernel
  have hwrote : callwise (.writePrivate ⟨"key"⟩ "KEY") doubled
      (doubled.writePrivate ⟨"key"⟩ "KEY").1 (doubled.writePrivate ⟨"key"⟩ "KEY").2 := Or.inl rfl
  rcases (writePrivate_fresh hwrote).2.1 hok with
    ⟨dir, name, hthere, -, hkept, -, ⟨hfile, hread⟩ | ⟨hlost, -⟩⟩
  · refine ⟨hok, hfile, hread, hkept ["cert"] _ ?_ rfl⟩
    rw [Option.some.inj (hthere.symm.trans hplace)]
    decide
  · rw [hlost] at hfound
    exact absurd hfound (by simp)

/-- A workspace in which a link leads to the directory beside it. -/
def besideItself : Workspace :=
  ⟨(Tree.empty.put ["real"] .directory).put ["x"] (.link "real"), []⟩

/-- A file that takes the place of a link to a directory is not found under a path that went
    through this link, although it was written. -/
theorem writePrivate_out_of_reach :
    let done := besideItself.writePrivate ⟨"x/../x"⟩ "KEY"
    done.1 = .ok () ∧ done.2.found? ⟨"x/../x"⟩ = none ∧ done.2.read ⟨"x/../x"⟩ ≠ .ok "KEY" := by
  have hread :
      ((besideItself.writePrivate ⟨"x/../x"⟩ "KEY").2.read ⟨"x/../x"⟩).toOption = none := by
    decide +kernel
  refine ⟨eq_ok_of_isOk (by decide +kernel), Option.isNone_iff_eq_none.mp (by decide +kernel), ?_⟩
  intro hkey
  rw [hkey] at hread
  exact absurd hread (by simp [Except.toOption])

end Workspace

end Storage

end Qualifier
