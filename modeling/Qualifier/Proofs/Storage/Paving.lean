import Qualifier.Proofs.Storage.Contents

/-!
# Directories Made on the Way

A file is written into a directory that may have to be made first, and then so may the
directories that lead there. `widens_makeChain` says that nothing but directories is made;
this module says which ones. Each is where the directory part of the path leads, or a path that
leads to it (`Workspace.OnWay`), so nothing is made beside the way (`Workspace.Paved`).

A directory is made at the end of a walk that does not follow the last link, and found again by
one that does. The two walks differ only if there is a link at the end, and there is none where a
directory could be made (`walk_following`).

Both ways of writing open the directory first and then act inside it, so what they leave is told
best from the workspace in between (`Workspace.opened`).

## Main definitions

* `Tree.Paves`: Directories made where some paths lead.
* `Workspace.OnWay`, `Workspace.Paved`: Directories on the way to a path, and no others made.
* `Workspace.opened`: The workspace with the directory part of a path made.

## Theorems

* `walk_following`: A walk that ends at no link ends there when links are followed.
* `directoryAt_of_makeDirectory`: A directory that was made is found under its path.
* `paves_makeChain`, `paved_opened`: Directories are made on the way to a path only.
* `write_of_opened`, `writePrivate_of_opened`: What is done once the directory is open.
-/

namespace Qualifier

namespace Storage

variable {t t' t'' : Tree}

/-! ## Links at the end of a walk -/

/-- Up to the next link, a walk that follows its last link is the same as one that does not,
    unless it ends at a link. -/
theorem leg_following (t : Tree) (slash : Bool) (loc : Location) (steps : List String) :
    leg t .free slash loc steps = leg t ⟨none, false⟩ slash loc steps ∨
    ∃ within name closed link,
      leg t ⟨none, false⟩ slash loc steps = .arrived (.ok (.entry within name closed)) ∧
        t.get? (within ++ [name]) = some (.link link) := by
  induction steps generalizing loc with
  | nil => exact Or.inl rfl
  | cons step rest ih =>
      rw [leg_cons, leg_cons]
      by_cases hdot : step = "."
      · rw [if_pos hdot, if_pos hdot]
        exact ih loc
      rw [if_neg hdot, if_neg hdot]
      by_cases hdots : step = ".."
      · rw [if_pos hdots, if_pos hdots]
        exact ih loc.dropLast
      rw [if_neg hdots, if_neg hdots]
      by_cases hlong : nameLimit < step.utf8ByteSize
      · rw [if_pos hlong, if_pos hlong]
        exact Or.inl rfl
      rw [if_neg hlong, if_neg hlong]
      rcases hget : t.get? (loc ++ [step]) with _ | e
      · exact Or.inl rfl
      cases e with
      | file content mode => exact Or.inl rfl
      | directory =>
          cases rest with
          | nil => exact Or.inl rfl
          | cons next rest => exact ih (loc ++ [step])
      | link link =>
          -- Only a link that ends the path is judged by the rules.
          by_cases hlast : (rest = [] && !slash) = true
          · refine Or.inr ⟨loc, step, slash, link, ?_, hget⟩
            simpa [legInto] using hlast
          · refine Or.inl ?_
            simp only [legInto, Rules.free, Bool.true_or, Bool.not_true, Bool.and_false,
              Bool.false_or, hlast, if_false, Bool.false_eq_true]

/-- A stretch that ends at a name ends there when links are followed, if there is no link under
    the name. -/
theorem leg_following_arrived {slash closed : Bool} {loc within : Location} {steps : List String}
    {name : String}
    (hleg : leg t ⟨none, false⟩ slash loc steps = .arrived (.ok (.entry within name closed)))
    (hname : ∀ link, t.get? (within ++ [name]) ≠ some (.link link)) :
    leg t .free slash loc steps = .arrived (.ok (.entry within name closed)) := by
  rcases leg_following t slash loc steps with hsame | ⟨_, _, _, link, harrived, hlink⟩
  · exact hsame.trans hleg
  · rw [hleg, Leg.arrived.injEq, Except.ok.injEq, Target.entry.injEq] at harrived
    rcases harrived with ⟨rfl, rfl, -⟩
    exact absurd hlink (hname link)

/-- A walk that ends at a name ends there when links are followed, if there is no link under the
    name. The induction is on the links on the way, which both walks follow. -/
theorem walk_following (links : Nat) (slash : Bool) (loc : Location) (steps : List String)
    {within : Location} {name : String} {closed : Bool}
    (hwalk : walk t ⟨none, false⟩ links slash loc steps = .ok (.entry within name closed))
    (hname : ∀ link, t.get? (within ++ [name]) ≠ some (.link link)) :
    walk t .free links slash loc steps = .ok (.entry within name closed) := by
  induction links generalizing slash loc steps with
  | zero =>
      rcases hleg : leg t ⟨none, false⟩ slash loc steps with result | ⟨place, text, rest⟩
      · rw [walk_of_arrived hleg] at hwalk
        subst hwalk
        exact walk_of_arrived (leg_following_arrived hleg hname)
      · rw [walk_zero_of_through hleg] at hwalk
        exact absurd hwalk (by simp)
  | succ links ih =>
      rcases hleg : leg t ⟨none, false⟩ slash loc steps with result | ⟨place, text, rest⟩
      · rw [walk_of_arrived hleg] at hwalk
        subst hwalk
        exact walk_of_arrived (leg_following_arrived hleg hname)
      rcases leg_following t slash loc steps with hsame | ⟨_, _, _, link, harrived, -⟩
      · rw [walk, hleg] at hwalk
        rw [walk, hsame, hleg]
        -- What comes after a link does not depend on whether the last one is followed.
        by_cases hroot : (Route.ofText text).fromRoot
        · simp only [hroot, if_true, Option.isSome_none, Bool.false_eq_true, if_false,
            Rules.free] at hwalk ⊢
          exact ih _ _ _ hwalk
        · simp only [hroot, Bool.false_eq_true, if_false] at hwalk ⊢
          exact ih _ _ _ hwalk
      · exact absurd (hleg.symm.trans harrived) (by simp)

/-- A path that leads to a name leads there when links are followed, in every tree that is no
    thinner, if there is no link under the name. -/
theorem target_following (h : t.Thinner t') {workingDirectory within : Location} {path : Path}
    {name : String} {slash : Bool}
    (htarget : t.target ⟨none, false⟩ workingDirectory path = .ok (.entry within name slash))
    (hfree : ∀ link, t.get? (within ++ [name]) ≠ some (.link link))
    (hname : ∀ link, t'.get? (within ++ [name]) ≠ some (.link link)) :
    t'.target .free workingDirectory path = .ok (.entry within name slash) := by
  unfold Tree.target at htarget ⊢
  by_cases hnul : '\x00' ∈ path.text.toList
  · rw [if_pos hnul] at htarget
    exact absurd htarget (by simp)
  by_cases hlong : pathLimit ≤ path.text.utf8ByteSize
  · rw [if_neg hnul, if_pos hlong] at htarget
    exact absurd htarget (by simp)
  by_cases hempty : path.text = ""
  · rw [if_neg hnul, if_neg hlong, if_pos hempty] at htarget
    exact absurd htarget (by simp)
  rw [if_neg hnul, if_neg hlong, if_neg hempty] at htarget ⊢
  exact walk_to_name h _ _ _ _ (walk_following _ _ _ _ htarget hfree) hname

namespace Tree

/-! ## Making directories -/

/-- A directory that was made is found under its path, and nothing else was changed. -/
theorem directoryAt_of_makeDirectory {workingDirectory : Location} {path : Path}
    (h : t.makeDirectory workingDirectory path = .ok t') :
    ∃ loc, t.get? loc = none ∧ t'.directoryAt workingDirectory path = .ok loc ∧
      ∀ other, t'.get? other = if other = loc then some .directory else t.get? other := by
  unfold Tree.makeDirectory at h
  rcases htarget : t.target ⟨none, false⟩ workingDirectory path with
    fault | ⟨loc | ⟨within, name, slash⟩⟩
  · rw [htarget] at h
    exact absurd h (by simp)
  · rw [htarget] at h
    exact absurd h (by simp)
  rw [htarget] at h
  rcases hget : t.get? (within ++ [name]) with _ | e
  · simp only [hget, Except.ok.injEq] at h
    subst h
    have hhere := get?_put_self t (within ++ [name]) .directory (by simp)
    have hthere := target_following (widens_put hget).keeps.thinner htarget (by simp [hget])
      (by simp [hhere])
    refine ⟨within ++ [name], hget, ?_, Workspace.get?_put_at t within name .directory⟩
    have hfree : ∀ u : Tree, u.directoryAt workingDirectory path =
        u.arrival (u.target .free workingDirectory path) := by
      intro u
      unfold directoryAt arrival Rules.free
      rcases u.target ⟨none, true⟩ workingDirectory path with fault | ⟨loc | ⟨dir, last, slash⟩⟩ <;>
        rfl
    rw [hfree, hthere]
    simp only [arrival, hhere]
  · simp only [hget] at h
    exact absurd h (by simp)

/-- From `t` to `t'` nothing but directories was made, each where one of the paths leads. -/
def Paves (t : Tree) (workingDirectory : Location) (paths : List Path) (t' : Tree) : Prop :=
  ∀ loc, t'.get? loc = t.get? loc ∨ t.get? loc = none ∧ t'.get? loc = some .directory ∧
    ∃ path ∈ paths, t'.directoryAt workingDirectory path = .ok loc

theorem Paves.refl (t : Tree) (workingDirectory : Location) (paths : List Path) :
    t.Paves workingDirectory paths t :=
  fun _ => Or.inl rfl

theorem Paves.widens {workingDirectory : Location} {paths : List Path}
    (h : t.Paves workingDirectory paths t') : t.Widens t' := fun loc =>
  (h loc).imp_right fun ⟨hfree, hmade, _⟩ => ⟨hfree, hmade⟩

theorem Paves.trans {workingDirectory : Location} {paths : List Path}
    (h : t.Paves workingDirectory paths t') (h' : t'.Paves workingDirectory paths t'') :
    t.Paves workingDirectory paths t'' := by
  intro loc
  rcases h' loc with hsame | ⟨hfree, hmade, hway⟩
  · rcases h loc with hfirst | ⟨hfree, hmade, path, hpath, hleads⟩
    · exact Or.inl (hsame.trans hfirst)
    · exact Or.inr ⟨hfree, hsame.trans hmade, path, hpath,
        directoryAt_of_thinner h'.widens.keeps.thinner hleads⟩
  · rcases h loc with hfirst | ⟨-, hfirst, -⟩
    · exact Or.inr ⟨hfirst.symm.trans hfree, hmade, hway⟩
    · exact absurd (hfirst.symm.trans hfree) (by simp)

theorem Paves.mono {workingDirectory : Location} {paths more : List Path}
    (h : t.Paves workingDirectory paths t') (hsub : paths ⊆ more) :
    t.Paves workingDirectory more t' := fun loc =>
  (h loc).imp_right fun ⟨hfree, hmade, path, hpath, hleads⟩ =>
    ⟨hfree, hmade, path, hsub hpath, hleads⟩

theorem paves_of_makeDirectory {workingDirectory : Location} {path : Path} {paths : List Path}
    (hpath : path ∈ paths) (h : t.makeDirectory workingDirectory path = .ok t') :
    t.Paves workingDirectory paths t' := by
  rcases directoryAt_of_makeDirectory h with ⟨loc, hfree, hleads, hget⟩
  intro other
  rw [hget]
  by_cases hother : other = loc
  · rw [if_pos hother, hother]
    exact Or.inr ⟨hfree, rfl, path, hpath, hleads⟩
  · rw [if_neg hother]
    exact Or.inl rfl

/-- Directories are made where the paths of the chain lead and nowhere else, whether or not all
    of them can be made. -/
theorem paves_makeChain (workingDirectory : Location) (paths : List Path) (t : Tree) :
    t.Paves workingDirectory paths (Tree.makeChain workingDirectory paths t).2 := by
  induction paths generalizing t with
  | nil => exact Paves.refl t _ _
  | cons path leading ih =>
      have hhead : path ∈ path :: leading := List.mem_cons_self
      unfold Tree.makeChain
      by_cases hempty : path.text = ""
      · rw [if_pos hempty]
        exact Paves.refl t _ _
      rw [if_neg hempty]
      rcases hmake : t.makeDirectory workingDirectory path with fault | made
      · by_cases hmissing : fault = .notFound
        · subst hmissing
          have hpaves := (ih t).mono (List.subset_cons_self path leading)
          rcases hchain : Tree.makeChain workingDirectory leading t with ⟨fault | _, led⟩
          · rw [hchain] at hpaves
            simp only
            exact hpaves
          · rw [hchain] at hpaves
            simp only
            -- With the way there made, the directory is tried once more.
            rcases hagain : led.makeDirectory workingDirectory path with fault | made
            · simp only
              split <;> exact hpaves
            · exact hpaves.trans (paves_of_makeDirectory hhead hagain)
        · simp only
          split <;> exact Paves.refl t _ _
      · exact paves_of_makeDirectory hhead hmake

end Tree

namespace Workspace

variable {w w' : Workspace} {path parent : Path} {text name : String} {loc : Location}

/-! ## The way to a path -/

/-- A location is on the way to a path: the directory part of the path leads there, or a path
    that leads to it. -/
def OnWay (w : Workspace) (path : Path) (loc : Location) : Prop :=
  ∃ parent name, splitPath path = .ok (parent, name) ∧
    ∃ q ∈ parent.ancestors (parent.text.length + 1),
      w.tree.directoryAt w.workingDirectory q = .ok loc

/-- From `w` to `w'` nothing but directories on the way to a path was made. -/
structure Paved (w : Workspace) (path : Path) (w' : Workspace) : Prop where
  workingDirectory : w'.workingDirectory = w.workingDirectory
  tree : ∀ loc, w'.tree.get? loc = w.tree.get? loc ∨
    w.tree.get? loc = none ∧ w'.tree.get? loc = some .directory ∧ w'.OnWay path loc

/-- The workspace once the directory part of a path is made, as far as it can be. -/
def opened (w : Workspace) (path : Path) : Workspace :=
  match splitPath path with
  | .error _ => w
  | .ok (parent, _) => (w.prepare parent).2

theorem Paved.widens (h : w.Paved path w') : w.tree.Widens w'.tree := fun loc =>
  (h.tree loc).imp_right fun ⟨hfree, hmade, _⟩ => ⟨hfree, hmade⟩

theorem OnWay.of_thinner (h : w.OnWay path loc) (hwd : w'.workingDirectory = w.workingDirectory)
    (hthin : w.tree.Thinner w'.tree) : w'.OnWay path loc := by
  rcases h with ⟨parent, name, hsplit, q, hq, hleads⟩
  refine ⟨parent, name, hsplit, q, hq, ?_⟩
  rw [hwd]
  exact directoryAt_of_thinner hthin hleads

theorem opened_of_split (hsplit : splitPath path = .ok (parent, name)) :
    w.opened path = (w.prepare parent).2 := by
  unfold opened
  rw [hsplit]

theorem place?_of_directoryAt {dir : Location} (hsplit : splitPath path = .ok (parent, name))
    (hdir : w.tree.directoryAt w.workingDirectory parent = .ok dir) :
    w.place? path = some (dir ++ [name]) := by
  unfold place?
  simp only [hsplit, hdir]

/-- A path that leads to a place ends in a name in a directory. -/
theorem directoryAt_of_place? (hplace : w.place? path = some loc) :
    ∃ parent name dir, splitPath path = .ok (parent, name) ∧
      w.tree.directoryAt w.workingDirectory parent = .ok dir ∧ loc = dir ++ [name] := by
  unfold place? at hplace
  rcases hsplit : splitPath path with e | ⟨parent, name⟩
  · simp [hsplit] at hplace
  rcases hdir : w.tree.directoryAt w.workingDirectory parent with fault | dir
  · simp [hsplit, hdir] at hplace
  · simp only [hsplit, hdir, Option.some.injEq] at hplace
    exact ⟨parent, name, dir, rfl, hdir, hplace.symm⟩

/-- Preparing a directory makes a chain of directories, and the rest only looks at it. -/
theorem prepare_snd (w : Workspace) (parent : Path) :
    (w.prepare parent).2 = w.withTree
      (Tree.makeChain w.workingDirectory (parent.ancestors (parent.text.length + 1)) w.tree).2 := by
  unfold prepare Tree.makeDirectories
  rcases Tree.makeChain w.workingDirectory (parent.ancestors (parent.text.length + 1)) w.tree with
    ⟨fault | _, t⟩
  · rfl
  · simp only
    split <;> rfl

theorem paved_opened (w : Workspace) (path : Path) : w.Paved path (w.opened path) := by
  rcases hsplit : splitPath path with e | ⟨parent, name⟩
  · have hsame : w.opened path = w := by
      unfold opened
      rw [hsplit]
    rw [hsame]
    exact ⟨rfl, fun _ => Or.inl rfl⟩
  rw [opened_of_split hsplit, prepare_snd]
  refine ⟨rfl, fun loc => ?_⟩
  rcases Tree.paves_makeChain w.workingDirectory (parent.ancestors (parent.text.length + 1)) w.tree
    loc with hsame | ⟨hfree, hmade, q, hq, hleads⟩
  · exact Or.inl hsame
  · exact Or.inr ⟨hfree, hmade, parent, name, hsplit, q, hq, hleads⟩

/-! ## Inside the directory -/

/-- A write opens the directory and fails, or puts the file where the fenced walk to the name has
    ended. -/
theorem write_of_opened (w : Workspace) (path : Path) (text : String) :
    (∃ e, w.write path text = (.error e, w.opened path)) ∨
    ∃ parent name dir within last mode, Ends path parent name ∧
      (w.opened path).tree.directoryAt (w.opened path).workingDirectory parent = .ok dir ∧
      (w.opened path).tree.fenced dir name = .ok (.entry within last false) ∧
      (∀ e, (w.opened path).tree.get? (within ++ [last]) = some e → e.conducts = false) ∧
      w.write path text = (.ok (), (w.opened path).withTree
        ((w.opened path).tree.put (within ++ [last]) (.file text.toUTF8 mode))) := by
  unfold write
  rcases hsplit : splitPath path with e | ⟨parent, name⟩
  · refine Or.inl ⟨e, ?_⟩
    unfold opened
    rw [hsplit]
  rw [opened_of_split hsplit]
  rcases hprepare : w.prepare parent with ⟨e | dir, made⟩
  · simp only [hprepare]
    exact Or.inl ⟨e, rfl⟩
  simp only [hprepare]
  rcases hwrite : made.tree.writeWithin dir name text with fault | t
  · exact Or.inl ⟨_, rfl⟩
  · rcases writeWithin_put (plain_of_splitPath hsplit) hwrite with
      ⟨within, last, mode, hfenced, rfl, hfree⟩
    rcases fenced_plain (plain_of_splitPath hsplit) hfenced with ⟨hnul, hshort, -⟩
    exact Or.inr ⟨parent, name, dir, within, last, mode, ⟨hsplit, hnul, hshort⟩,
      directoryAt_prepare hprepare, hfenced, hfree, rfl⟩

/-- A private write opens the directory and fails, or puts the file in the place of whatever is
    no directory there. -/
theorem writePrivate_of_opened (w : Workspace) (path : Path) (text : String) :
    (∃ e, w.writePrivate path text = (.error e, w.opened path)) ∨
    ∃ parent name dir, Ends path parent name ∧ (w.prepare parent).1 = .ok dir ∧
      (w.opened path).tree.directoryAt (w.opened path).workingDirectory parent = .ok dir ∧
      (w.opened path).tree.get? (dir ++ [name]) ≠ some .directory ∧
      (w.writePrivate path text).1 = .ok () ∧
      (w.writePrivate path text).2.workingDirectory = (w.opened path).workingDirectory ∧
      ∀ loc, (w.writePrivate path text).2.tree.get? loc =
        if loc = dir ++ [name] then some (.file text.toUTF8 privateMode)
        else (w.opened path).tree.get? loc := by
  unfold writePrivate
  rcases hsplit : splitPath path with e | ⟨parent, name⟩
  · refine Or.inl ⟨e, ?_⟩
    unfold opened
    rw [hsplit]
  rw [opened_of_split hsplit]
  rcases hprepare : w.prepare parent with ⟨e | dir, made⟩
  · simp only [hprepare]
    exact Or.inl ⟨e, rfl⟩
  simp only [hprepare]
  by_cases hremovable : Removable made.tree dir name
  · refine Or.inr ⟨parent, name, dir, ⟨hsplit, hremovable.no_nul, hremovable.short⟩,
      by rw [hprepare], directoryAt_prepare hprepare, hremovable.not_directory, ?_⟩
    rcases hget : made.tree.get? (dir ++ [name]) with _ | e
    · rw [hremovable.removeWithin_none hget]
      exact ⟨rfl, rfl, get?_put_at _ _ _ _⟩
    · rw [hremovable.removeWithin_some hget]
      refine ⟨rfl, rfl, fun loc => (get?_put_at _ _ _ _ loc).trans ?_⟩
      by_cases hloc : loc = dir ++ [name]
      · rw [if_pos hloc, if_pos hloc]
      · rw [if_neg hloc, if_neg hloc, Tree.get?_erase_of_ne _ hloc]
  · rcases removeWithin_of_not_removable hremovable with ⟨fault, hfound, hfault⟩
    rw [hfault]
    refine Or.inl ⟨.access path fault, ?_⟩
    cases fault with
    | notFound => exact absurd rfl hfound
    | _ => rfl

end Workspace

end Storage

end Qualifier
