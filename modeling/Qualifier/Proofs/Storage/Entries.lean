import Qualifier.Proofs.Storage.Replacing

/-!
# Files as a Map of Entries

Without links, files behave as a map from places to entries. A path is one of many spellings of
the place it leads to, and a call that writes or removes a path is about the entry at that place
(`Deed.Addresses`). What it does to this entry can be told from its answer; any other entry it
leaves alone, unless there was none and it has made a directory there on the way to its path
(`leaves_of_callwise`). Directories are never taken away, so a path that leads to a place
keeps leading there, and what holds of one call holds of any number of them
(`Undergoes.leaves`).

A call addresses an entry at the moment it is made. A removal under a directory that is missing
addresses none, since its path leads nowhere: it may be a spelling that gets its meaning later, as
`a/../b` does when `a` is made.

## Main definitions

* `Tree.Linkless`, `Tree.Holds`: A tree without links, and the texts in it.
* `Workspace.Touched`, `Workspace.Local`: Changes at the place of a path, and on the way to it.
* `Deed`, `Deed.Addresses`: A call with what it leaves, and the entry it is about.
* `Workspace.Undergoes`: A workspace before and after several calls.

## Theorems

* `removeIfPresent_cases`: What a removal does.
* `local_write`, `local_writePrivate`, `touched_remove`: Without links each call is local.
* `leaves_of_callwise`, `Undergoes.leaves`: What one call leaves, and what several leave.
* `entries_of_undergoes`: An entry is what the last call that was about it has made of it.
-/

namespace Qualifier

open Program

namespace Storage

namespace Tree

variable {t t' : Tree}

/-- There are no links in a tree. -/
def Linkless (t : Tree) : Prop :=
  ∀ loc link, t.get? loc ≠ some (.link link)

/-- There is a file with a text at a location, under a name that a directory can hold. -/
def Holds (t : Tree) (loc : Location) (text : String) : Prop :=
  ∃ dir name mode, loc = dir ++ [name] ∧ '\x00' ∉ name.toList ∧ name.utf8ByteSize ≤ nameLimit ∧
    t.get? loc = some (.file text.toUTF8 mode)

theorem Linkless.of_linksAmong (h : t.Linkless) (hlinks : t'.LinksAmong t) : t'.Linkless :=
  fun loc link hget => h loc link (hlinks loc link hget)

end Tree

namespace Workspace

variable {w w' w'' made : Workspace} {path : Path} {text : String} {loc place : Location}

/-! ## Removing -/

/-- What a removal does: it fails, or there is nothing to remove, or it takes away the entry. -/
theorem removeIfPresent_cases (w : Workspace) (path : Path) :
    (∃ e, w.removeIfPresent path = (.error e, w)) ∨
    (w.removeIfPresent path = (.ok false, w) ∧ w.found? path = none) ∨
    ∃ parent name dir e, Ends path parent name ∧
      w.tree.directoryAt w.workingDirectory parent = .ok dir ∧
      w.tree.get? (dir ++ [name]) = some e ∧ e ≠ .directory ∧
      w.removeIfPresent path = (.ok true, w.withTree (w.tree.erase (dir ++ [name]))) := by
  unfold removeIfPresent found?
  rcases hsplit : splitPath path with e | ⟨parent, name⟩
  · exact Or.inl ⟨e, rfl⟩
  simp only
  rcases hdir : w.tree.directoryAt w.workingDirectory parent with fault | dir
  · cases fault with
    | notFound => exact Or.inr (Or.inl ⟨rfl, rfl⟩)
    | _ => exact Or.inl ⟨_, rfl⟩
  simp only
  by_cases hremovable : Removable w.tree dir name
  · rcases hget : w.tree.get? (dir ++ [name]) with _ | e
    · rw [hremovable.removeWithin_none hget]
      exact Or.inr (Or.inl ⟨rfl, rfl⟩)
    · rw [hremovable.removeWithin_some hget]
      refine Or.inr (Or.inr ⟨parent, name, dir, e, ⟨hsplit, hremovable.no_nul, hremovable.short⟩,
        hdir, hget, ?_, rfl⟩)
      rintro rfl
      exact hremovable.not_directory hget
  · rcases removeWithin_of_not_removable hremovable with ⟨fault, hfound, hfault⟩
    rw [hfault]
    cases fault with
    | notFound => exact absurd rfl hfound
    | _ => exact Or.inl ⟨_, rfl⟩

/-! ## Reading -/

/-- A text is read under every path that leads to it. -/
theorem read_of_holds (hplace : w.place? path = some loc) (h : w.tree.Holds loc text) :
    w.read path = .ok text := by
  rcases h with ⟨dir, name, mode, rfl, hnul, hshort, hfile⟩
  rcases directoryAt_of_place? hplace with ⟨parent, name', dir', hsplit, hdir, heq⟩
  rcases List.append_inj' heq rfl with ⟨rfl, hname⟩
  obtain rfl := List.singleton_inj.mp hname
  exact read_of_place ⟨hsplit, hnul, hshort⟩ hdir hfile

/-- Where there is no file, nothing is read. -/
theorem read_of_no_file (hlinks : w.tree.Linkless) (hplace : w.place? path = some loc)
    (hfile : ∀ content mode, w.tree.get? loc ≠ some (.file content mode)) :
    ∃ e, w.read path = .error e := by
  rcases directoryAt_of_place? hplace with ⟨parent, name, dir, hsplit, hdir, rfl⟩
  have hplain := plain_of_splitPath hsplit
  have hbytes : ∃ fault, w.tree.readWithin dir name = .error fault := by
    unfold Tree.readWithin
    rcases hfenced : w.tree.fenced dir name with fault | ⟨found | ⟨within, last, slash⟩⟩
    · exact ⟨fault, rfl⟩
    · exact ⟨.isDirectory, rfl⟩
    rcases fenced_plain hplain hfenced with ⟨hnul, hshort, -⟩
    rw [fenced_of_plain hplain hnul hshort (hlinks _), Except.ok.injEq,
      Target.entry.injEq] at hfenced
    rcases hfenced with ⟨rfl, rfl, -⟩
    rcases hget : w.tree.get? (dir ++ [name]) with _ | e
    · exact ⟨.notFound, by simp only [hget]⟩
    cases e with
    | file content mode => exact absurd hget (hfile content mode)
    | directory => exact ⟨.isDirectory, by simp only [hget]⟩
    | link link => exact ⟨.isDirectory, by simp only [hget]⟩
  rcases hbytes with ⟨fault, hbytes⟩
  exact ⟨.access path fault, by simp only [read, hsplit, hdir, hbytes]⟩

/-! ## Local changes -/

/-- Between two workspaces nothing was touched but the entry at a path, and no way was lost. -/
structure Touched (w : Workspace) (path : Path) (w' : Workspace) : Prop where
  workingDirectory : w'.workingDirectory = w.workingDirectory
  thinner : w.tree.Thinner w'.tree
  linkless : w'.tree.Linkless
  elsewhere : ∀ loc, w.place? path ≠ some loc → w'.tree.get? loc = w.tree.get? loc

/-- Between two workspaces directories were made on the way to a path, and the entry there was
    touched. -/
def Local (w : Workspace) (path : Path) (w' : Workspace) : Prop :=
  ∃ made, w.Paved path made ∧ made.Touched path w'

theorem Paved.linkless (h : w.Paved path w') (hlinks : w.tree.Linkless) : w'.tree.Linkless :=
  hlinks.of_linksAmong h.widens.linksAmong

theorem Touched.refl (hlinks : w.tree.Linkless) (path : Path) : w.Touched path w :=
  ⟨rfl, Tree.Thinner.refl _, hlinks, fun _ _ => rfl⟩

theorem Paved.isLocal (h : w.Paved path w') (hlinks : w.tree.Linkless) : w.Local path w' :=
  ⟨w', h, .refl (h.linkless hlinks) path⟩

/-- Without links, what is no directory can be replaced at the place of a path. -/
theorem touched_of_place (hlinks : w.tree.Linkless) (hplace : w.place? path = some place)
    (hfree : w.tree.get? place ≠ some .directory)
    (hwd : w'.workingDirectory = w.workingDirectory)
    (hsame : ∀ loc, loc ≠ place → w'.tree.get? loc = w.tree.get? loc)
    (hnew : ∀ link, w'.tree.get? place ≠ some (.link link)) : w.Touched path w' where
  workingDirectory := hwd
  thinner loc e he hget := by
    by_cases hloc : loc = place
    · subst hloc
      cases e with
      | directory => exact absurd hget hfree
      | link link => exact absurd hget (hlinks _ _)
      | file content mode => exact absurd he Bool.false_ne_true
    · rwa [hsame loc hloc]
  linkless loc link hget := by
    by_cases hloc : loc = place
    · exact hnew link (hloc ▸ hget)
    · exact hlinks loc link ((hsame loc hloc).symm.trans hget)
  elsewhere loc hloc := hsame loc fun heq => hloc (heq ▸ hplace)

theorem Touched.place? (h : w.Touched path w') {other : Path} (hplace : w.place? other = some loc) :
    w'.place? other = some loc :=
  place?_of_thinner h.workingDirectory h.thinner hplace

/-- A file at the place of the path may have other bytes. -/
theorem Touched.resembles {differ : Location → Prop} (h : w.Touched path w')
    (hsame : w'.Resembles differ w'') (hdiffer : ∀ loc, differ loc → w.place? path = some loc) :
    w.Touched path w'' where
  workingDirectory := hsame.workingDirectory.trans h.workingDirectory
  thinner loc e he hget := by
    have hthere := h.thinner loc e he hget
    rcases hsame.tree.cases loc with heq | ⟨-, content, content', mode, hfile, -⟩
    · rw [heq, hthere]
    · obtain rfl := Option.some.inj (hthere.symm.trans hfile)
      exact absurd he Bool.false_ne_true
  linkless loc link hget := by
    rcases hsame.tree.cases loc with heq | ⟨-, content, content', mode, -, hfile⟩
    · exact h.linkless loc link (heq.symm.trans hget)
    · exact absurd (hget.symm.trans hfile) (by simp)
  elsewhere loc hloc := by
    rw [hsame.tree.same loc fun hthere => hloc (hdiffer loc hthere)]
    exact h.elsewhere loc hloc

/-- What was made on the way is a directory, and what is neither there nor at the place of the
    path is as it was. -/
theorem Local.elsewhere (h : w.Local path w') (hloc : w'.place? path ≠ some loc) :
    w'.tree.get? loc = w.tree.get? loc ∨
      w.tree.get? loc = none ∧ w'.tree.get? loc = some .directory ∧ w'.OnWay path loc := by
  rcases h with ⟨made, hpaved, htouched⟩
  rw [htouched.elsewhere loc fun hplace => hloc (htouched.place? hplace)]
  rcases hpaved.tree loc with hsame | ⟨hfree, hmade, hway⟩
  · exact Or.inl hsame
  · exact Or.inr ⟨hfree, hmade, hway.of_thinner htouched.workingDirectory htouched.thinner⟩

theorem Local.workingDirectory (h : w.Local path w') :
    w'.workingDirectory = w.workingDirectory := by
  rcases h with ⟨made, hpaved, htouched⟩
  exact htouched.workingDirectory.trans hpaved.workingDirectory

theorem Local.thinner (h : w.Local path w') : w.tree.Thinner w'.tree := by
  rcases h with ⟨made, hpaved, htouched⟩
  exact hpaved.widens.keeps.thinner.trans htouched.thinner

theorem Local.linkless (h : w.Local path w') : w'.tree.Linkless := by
  rcases h with ⟨made, -, htouched⟩
  exact htouched.linkless

/-! ## Each call is local -/

/-- Without links a write fails, or puts its file at the place of its path. -/
theorem write_of_linkless (hlinks : w.tree.Linkless) (path : Path) (text : String) :
    (∃ e, w.write path text = (.error e, w.opened path)) ∨
    ∃ parent name dir mode, Ends path parent name ∧
      (w.opened path).place? path = some (dir ++ [name]) ∧
      (w.opened path).tree.get? (dir ++ [name]) ≠ some .directory ∧
      w.write path text = (.ok (), (w.opened path).withTree
        ((w.opened path).tree.put (dir ++ [name]) (.file text.toUTF8 mode))) := by
  rcases write_of_opened w path text with hfailed |
    ⟨parent, name, dir, within, last, mode, hends, hdir, hfenced, hfree, hwrote⟩
  · exact Or.inl hfailed
  have hopened := (paved_opened w path).linkless hlinks
  rw [fenced_of_plain (plain_of_splitPath hends.split) hends.no_nul hends.short (hopened _),
    Except.ok.injEq, Target.entry.injEq] at hfenced
  rcases hfenced with ⟨rfl, rfl, -⟩
  refine Or.inr ⟨parent, name, dir, mode, hends, place?_of_directoryAt hends.split hdir, ?_, hwrote⟩
  exact fun hget => absurd (hfree _ hget) (by simp [Entry.conducts])

theorem touched_write (hlinks : w.tree.Linkless) (path : Path) (text : String) :
    (w.opened path).Touched path (w.write path text).2 := by
  have hopened := (paved_opened w path).linkless hlinks
  rcases write_of_linkless hlinks path text with ⟨e, hfailed⟩ |
    ⟨parent, name, dir, mode, hends, hplace, hfree, hwrote⟩
  · rw [hfailed]
    exact .refl hopened path
  · rw [hwrote]
    refine touched_of_place hopened hplace hfree rfl (fun loc hloc => ?_) fun link => ?_
    · exact Tree.get?_put_of_ne _ _ hloc
    · rw [withTree, Tree.get?_put_self _ _ _ (by simp)]
      simp

theorem touched_writePrivate (hlinks : w.tree.Linkless) (path : Path) (text : String) :
    (w.opened path).Touched path (w.writePrivate path text).2 := by
  have hopened := (paved_opened w path).linkless hlinks
  rcases writePrivate_of_opened w path text with ⟨e, hfailed⟩ |
    ⟨parent, name, dir, hends, -, hdir, hfree, -, hwd, hget⟩
  · rw [hfailed]
    exact .refl hopened path
  · refine touched_of_place hopened (place?_of_directoryAt hends.split hdir) hfree hwd
      (fun loc hloc => (hget loc).trans (if_neg hloc)) fun link => ?_
    rw [hget, if_pos rfl]
    simp

theorem touched_removeIfPresent (hlinks : w.tree.Linkless) (path : Path) :
    w.Touched path (w.removeIfPresent path).2 := by
  rcases removeIfPresent_cases w path with ⟨e, hfailed⟩ | ⟨hnothing, -⟩ |
    ⟨parent, name, dir, e, hends, hdir, hget, hne, hremoved⟩
  · rw [hfailed]
    exact .refl hlinks path
  · rw [hnothing]
    exact .refl hlinks path
  · rw [hremoved]
    refine touched_of_place hlinks (place?_of_directoryAt hends.split hdir) ?_ rfl
      (fun loc hloc => Tree.get?_erase_of_ne _ hloc) fun link => ?_
    · rw [hget]
      simpa using hne
    · rw [withTree, Tree.get?_erase_self _ _ (by simp)]
      simp

/-- Without links a file is read where its path leads. -/
theorem ReadAt.place? (h : w.ReadAt path loc) (hlinks : w.tree.Linkless) :
    w.place? path = some loc := by
  rcases h with ⟨parent, name, dir, within, last, hsplit, hdir, hfenced, rfl⟩
  have hplain := plain_of_splitPath hsplit
  rcases fenced_plain hplain hfenced with ⟨hnul, hshort, -⟩
  rw [fenced_of_plain hplain hnul hshort (hlinks _), Except.ok.injEq, Target.entry.injEq] at hfenced
  rcases hfenced with ⟨rfl, rfl, -⟩
  exact place?_of_directoryAt hsplit hdir

theorem local_write (hlinks : w.tree.Linkless) {answer : Except FileError Unit}
    (h : callwise (.write path text) w answer w') : w.Local path w' := by
  have hopened := paved_opened w path
  rcases h with hdone | ⟨-, hpaved | hsame⟩
  · rw [← show (w.write path text).2 = w' by rw [← hdone]]
    exact ⟨_, hopened, touched_write hlinks path text⟩
  · exact hpaved.isLocal hlinks
  · refine ⟨_, hopened, (touched_write hlinks path "").resembles hsame fun loc hread => ?_⟩
    have htouched := touched_write hlinks path ""
    have hplace := hread.place? htouched.linkless
    -- If the path leads anywhere it did so when it was open.
    rcases write_of_linkless hlinks path "" with ⟨e, hfailed⟩ | ⟨_, name, dir, _, -, hthere, -⟩
    · rwa [hfailed] at hplace
    · rw [← hplace, htouched.place? hthere, hthere]

theorem local_writePrivate (hlinks : w.tree.Linkless) {answer : Except FileError Unit}
    (h : callwise (.writePrivate path text) w answer w') : w.Local path w' := by
  have hopened := paved_opened w path
  rcases h with hdone | ⟨-, hpaved | rfl | hsame⟩
  · rw [← show (w.writePrivate path text).2 = w' by rw [← hdone]]
    exact ⟨_, hopened, touched_writePrivate hlinks path text⟩
  · exact hpaved.isLocal hlinks
  · exact ⟨_, hopened, touched_removeIfPresent (hopened.linkless hlinks) path⟩
  · exact ⟨_, hopened, (touched_writePrivate hlinks path "").resembles hsame fun loc haims =>
      haims.place?⟩

theorem touched_remove (hlinks : w.tree.Linkless) {answer : Except FileError Bool}
    (h : callwise (.remove path) w answer w') : w.Touched path w' := by
  rcases h with hdone | ⟨-, rfl⟩
  · rw [← show (w.removeIfPresent path).2 = w' by rw [← hdone]]
    exact touched_removeIfPresent hlinks path
  · exact .refl hlinks path

/-! ## What a write and a removal leave under their path -/

/-- A text that was written is where its path leads. -/
theorem holds_write (hlinks : w.tree.Linkless) (h : (w.write path text).1 = .ok ())
    (hplace : (w.write path text).2.place? path = some loc) :
    (w.write path text).2.tree.Holds loc text := by
  have htouched := touched_write hlinks path text
  rcases write_of_linkless hlinks path text with ⟨e, hfailed⟩ |
    ⟨parent, name, dir, mode, hends, hthere, -, hwrote⟩
  · exact absurd ((congrArg Prod.fst hfailed).symm.trans h) (by simp)
  obtain rfl := Option.some.inj ((htouched.place? hthere).symm.trans hplace)
  refine ⟨dir, name, mode, rfl, hends.no_nul, hends.short, ?_⟩
  rw [hwrote]
  exact Tree.get?_put_self _ _ _ (by simp)

theorem holds_writePrivate (hlinks : w.tree.Linkless) (h : (w.writePrivate path text).1 = .ok ())
    (hplace : (w.writePrivate path text).2.place? path = some loc) :
    (w.writePrivate path text).2.tree.Holds loc text := by
  have htouched := touched_writePrivate hlinks path text
  rcases writePrivate_of_opened w path text with ⟨e, hfailed⟩ |
    ⟨parent, name, dir, hends, -, hdir, -, -, -, hget⟩
  · exact absurd ((congrArg Prod.fst hfailed).symm.trans h) (by simp)
  have hthere := htouched.place? (place?_of_directoryAt hends.split hdir)
  obtain rfl := Option.some.inj (hthere.symm.trans hplace)
  exact ⟨dir, name, _, rfl, hends.no_nul, hends.short, (hget _).trans (if_pos rfl)⟩

/-- After a removal there is no entry where its path leads. -/
theorem gone_removeIfPresent {there : Bool} (h : (w.removeIfPresent path).1 = .ok there)
    (hplace : (w.removeIfPresent path).2.place? path = some loc) :
    (w.removeIfPresent path).2.tree.get? loc = none := by
  have hbefore := (shrinks_removeIfPresent w path).place? hplace
  rcases removeIfPresent_cases w path with ⟨e, hfailed⟩ | ⟨hnothing, hfound⟩ |
    ⟨parent, name, dir, e, hends, hdir, -, -, hremoved⟩
  · exact absurd ((congrArg Prod.fst hfailed).symm.trans h) (by simp)
  · rw [hnothing]
    rw [found?_eq, hbefore] at hfound
    exact hfound
  · rw [hremoved]
    obtain rfl := Option.some.inj ((place?_of_directoryAt hends.split hdir).symm.trans hbefore)
    exact Tree.get?_erase_self _ _ (by simp)

end Workspace

/-! ## Calls -/

/-- A call with its answer, and the workspace it leaves. -/
structure Deed where
  exchange : Exchange
  after : Workspace

namespace Deed

/-- A call is about a path: it writes it or removes it. -/
def About (d : Deed) (path : Path) : Prop :=
  (∃ text, d.exchange.1 = .write path text) ∨ (∃ text, d.exchange.1 = .writePrivate path text) ∨
    d.exchange.1 = .remove path

/-- A call is about the entry at the place where its path leads as it is made. For a write this is
    where it leads once the directories on the way are made. -/
def Addresses (d : Deed) (loc : Location) : Prop :=
  ∃ path, d.About path ∧ d.after.place? path = some loc

/-- A call has written a text, by either function. -/
def Writes (d : Deed) (text : String) : Prop :=
  (∃ path, d.exchange = ⟨.write path text, .ok ()⟩) ∨
    ∃ path, d.exchange = ⟨.writePrivate path text, .ok ()⟩

/-- A call has removed a path, or found that there was nothing to remove. -/
def Removes (d : Deed) : Prop :=
  ∃ path there, d.exchange = ⟨.remove path, .ok there⟩

/-- A call is a write, and the location is on the way to its path. -/
def Passes (d : Deed) (loc : Location) : Prop :=
  ∃ path text, (d.exchange.1 = .write path text ∨ d.exchange.1 = .writePrivate path text) ∧
    d.after.OnWay path loc

theorem About.unique {d : Deed} {path other : Path} (h : d.About path) (h' : d.About other) :
    path = other := by
  rcases h with ⟨_, h⟩ | ⟨_, h⟩ | h <;> rcases h' with ⟨_, h'⟩ | ⟨_, h'⟩ | h' <;>
    cases h.symm.trans h' <;> rfl

end Deed

namespace Workspace

variable {w w' w'' : Workspace} {path : Path} {text : String} {loc : Location} {d : Deed}
  {deeds deeds' : List Deed}

/-- A workspace before and after calls one after the other. -/
def Undergoes : Workspace → List Deed → Workspace → Prop
  | w, [], w' => w' = w
  | w, d :: rest, w' => callwise d.exchange.1 w d.exchange.2 d.after ∧ d.after.Undergoes rest w'

/-- What calls leave where there are no links: all directories, and all entries that none of them
    is about, with new directories only on the way to what they write. -/
structure Leaves (w : Workspace) (deeds : List Deed) (w' : Workspace) : Prop where
  workingDirectory : w'.workingDirectory = w.workingDirectory
  thinner : w.tree.Thinner w'.tree
  linkless : w'.tree.Linkless
  elsewhere : ∀ loc, (∀ d ∈ deeds, ¬ d.Addresses loc) → w'.tree.get? loc = w.tree.get? loc ∨
    w.tree.get? loc = none ∧ w'.tree.get? loc = some .directory ∧ ∃ d ∈ deeds, d.Passes loc

theorem Leaves.refl (hlinks : w.tree.Linkless) (deeds : List Deed) : w.Leaves deeds w :=
  ⟨rfl, Tree.Thinner.refl _, hlinks, fun _ _ => Or.inl rfl⟩

theorem Leaves.append (h : w.Leaves deeds w') (h' : w'.Leaves deeds' w'') :
    w.Leaves (deeds ++ deeds') w'' where
  workingDirectory := h'.workingDirectory.trans h.workingDirectory
  thinner := h.thinner.trans h'.thinner
  linkless := h'.linkless
  elsewhere loc hnone := by
    have hfirst := h.elsewhere loc fun d hd => hnone d (List.mem_append_left _ hd)
    have hnext := h'.elsewhere loc fun d hd => hnone d (List.mem_append_right _ hd)
    rcases hnext with hsame | ⟨hfree, hmade, d, hd, hpasses⟩
    · rw [hsame]
      exact hfirst.imp_right fun ⟨hfree, hmade, d, hd, hpasses⟩ =>
        ⟨hfree, hmade, d, List.mem_append_left _ hd, hpasses⟩
    · rcases hfirst with hsame | ⟨-, hmade', -⟩
      · exact Or.inr ⟨hsame.symm.trans hfree, hmade, d, List.mem_append_right _ hd, hpasses⟩
      · exact absurd (hfree.symm.trans hmade') (by simp)

/-- A write leaves what it is not about. -/
theorem Local.leaves (h : w.Local path d.after)
    (hask : ∃ text, d.exchange.1 = .write path text ∨ d.exchange.1 = .writePrivate path text) :
    w.Leaves [d] d.after where
  workingDirectory := h.workingDirectory
  thinner := h.thinner
  linkless := h.linkless
  elsewhere loc hnone := by
    rcases hask with ⟨text, hask⟩
    have habout : d.About path := hask.imp (⟨text, ·⟩) fun hask => Or.inl ⟨text, hask⟩
    have hloc : d.after.place? path ≠ some loc := fun hplace =>
      hnone d List.mem_cons_self ⟨path, habout, hplace⟩
    exact (h.elsewhere hloc).imp_right fun ⟨hfree, hmade, hway⟩ =>
      ⟨hfree, hmade, d, List.mem_cons_self, path, text, hask, hway⟩

/-- A call leaves what it is not about. -/
theorem leaves_of_callwise (hlinks : w.tree.Linkless)
    (h : callwise d.exchange.1 w d.exchange.2 d.after) : w.Leaves [d] d.after := by
  rcases d with ⟨⟨q, answer⟩, after⟩
  cases q with
  | write path text => exact (local_write hlinks h).leaves ⟨text, Or.inl rfl⟩
  | writePrivate path text => exact (local_writePrivate hlinks h).leaves ⟨text, Or.inr rfl⟩
  | remove path =>
      have htouched := touched_remove hlinks h
      refine ⟨htouched.workingDirectory, htouched.thinner, htouched.linkless, fun loc hnone => ?_⟩
      refine Or.inl (htouched.elsewhere loc fun hplace => ?_)
      exact hnone _ List.mem_cons_self ⟨path, Or.inr (Or.inr rfl), htouched.place? hplace⟩
  | _ =>
      obtain rfl : after = w := h
      exact .refl hlinks _

/-- So do several calls. -/
theorem Undergoes.leaves (hlinks : w.tree.Linkless) (h : w.Undergoes deeds w') :
    w.Leaves deeds w' := by
  induction deeds generalizing w with
  | nil =>
      obtain rfl : w' = w := h
      exact .refl hlinks []
  | cons d rest ih =>
      have hfirst := leaves_of_callwise hlinks h.1
      exact hfirst.append (ih hfirst.linkless h.2)

theorem undergoes_append (w : Workspace) (deeds deeds' : List Deed) (w'' : Workspace) :
    w.Undergoes (deeds ++ deeds') w'' ↔ ∃ w', w.Undergoes deeds w' ∧ w'.Undergoes deeds' w'' := by
  induction deeds generalizing w with
  | nil => simp [Undergoes]
  | cons d rest ih => simp [Undergoes, ih, and_assoc]

/-- A text that a call has written is at the place the call is about. -/
theorem holds_of_writes (hlinks : w.tree.Linkless)
    (h : callwise d.exchange.1 w d.exchange.2 d.after) (hwrites : d.Writes text)
    (haddresses : d.Addresses loc) : d.after.tree.Holds loc text := by
  rcases d with ⟨x, after⟩
  rcases haddresses with ⟨path, habout, hplace⟩
  rcases hwrites with ⟨path', hx⟩ | ⟨path', hx⟩ <;> obtain rfl : x = _ := hx
  · obtain rfl : path = path' := habout.unique (Or.inl ⟨text, rfl⟩)
    rcases h with hdone | ⟨⟨e, hanswer⟩, -⟩
    · have hok : (w.write path text).1 = .ok () := by rw [← hdone]
      obtain rfl : (w.write path text).2 = after := by rw [← hdone]
      exact holds_write hlinks hok hplace
    · exact absurd hanswer (by simp)
  · obtain rfl : path = path' := habout.unique (Or.inr (Or.inl ⟨text, rfl⟩))
    rcases h with hdone | ⟨⟨e, hanswer⟩, -⟩
    · have hok : (w.writePrivate path text).1 = .ok () := by rw [← hdone]
      obtain rfl : (w.writePrivate path text).2 = after := by rw [← hdone]
      exact holds_writePrivate hlinks hok hplace
    · exact absurd hanswer (by simp)

/-- An entry that a call has removed is gone. -/
theorem gone_of_removes (h : callwise d.exchange.1 w d.exchange.2 d.after) (hremoves : d.Removes)
    (haddresses : d.Addresses loc) : d.after.tree.get? loc = none := by
  rcases d with ⟨x, after⟩
  rcases haddresses with ⟨path, habout, hplace⟩
  rcases hremoves with ⟨path', there, hx⟩
  obtain rfl : x = _ := hx
  obtain rfl : path = path' := habout.unique (Or.inr (Or.inr rfl))
  rcases h with hdone | ⟨⟨e, hanswer⟩, -⟩
  · have hok : (w.removeIfPresent path).1 = .ok there := by rw [← hdone]
    obtain rfl : (w.removeIfPresent path).2 = after := by rw [← hdone]
    exact gone_removeIfPresent hok hplace
  · exact absurd hanswer (by simp)

/-! ## What a removal tells -/

/-- What the answer to a removal tells. -/
structure Answered (w : Workspace) (path : Path) (answer : Except FileError Bool)
    (w' : Workspace) : Prop where
  removed : answer = .ok true ↔
    (∃ content mode, w.found? path = some (.file content mode)) ∧ w'.found? path = none
  nothing : answer = .ok false → w.found? path = none ∧ w' = w
  failed : ∀ e, answer = .error e → w' = w
  again : ∀ there, answer = .ok there → w'.removeIfPresent path = (.ok false, w')

/-- Where there is nothing, a removal that does not fail says so. -/
theorem removeIfPresent_again (hlinks : w.tree.Linkless) {there : Bool}
    (h : (w.removeIfPresent path).1 = .ok there) :
    (w.removeIfPresent path).2.removeIfPresent path = (.ok false, (w.removeIfPresent path).2) := by
  have htouched := touched_removeIfPresent hlinks path
  rcases removeIfPresent_cases w path with ⟨e, hfailed⟩ | ⟨hnothing, -⟩ |
    ⟨parent, name, dir, e, hends, hdir, -, -, hremoved⟩
  · exact absurd ((congrArg Prod.fst hfailed).symm.trans h) (by simp)
  · rw [hnothing]
    exact hnothing
  · have hwd := htouched.workingDirectory
    have hdirAfter := directoryAt_of_thinner htouched.thinner hdir
    rw [← hwd] at hdirAfter
    have hgone : (w.removeIfPresent path).2.tree.get? (dir ++ [name]) = none := by
      rw [hremoved]
      exact Tree.get?_erase_self _ _ (by simp)
    have hremovable : Removable (w.removeIfPresent path).2.tree dir name :=
      ⟨hends.no_nul, hends.short, by simp [hgone]⟩
    generalize (w.removeIfPresent path).2 = after at hdirAfter hgone hremovable ⊢
    unfold removeIfPresent
    simp only [hends.split, hdirAfter, hremovable.removeWithin_none hgone]

theorem answered_removeIfPresent (hlinks : w.tree.Linkless) (path : Path) :
    w.Answered path (w.removeIfPresent path).1 (w.removeIfPresent path).2 := by
  have hagain : ∀ there, (w.removeIfPresent path).1 = .ok there →
      (w.removeIfPresent path).2.removeIfPresent path = (.ok false, (w.removeIfPresent path).2) :=
    fun there h => removeIfPresent_again hlinks h
  rcases removeIfPresent_cases w path with ⟨e, hfailed⟩ | ⟨hnothing, hfound⟩ |
    ⟨parent, name, dir, e, hends, hdir, hget, hne, hremoved⟩
  · rw [hfailed] at hagain ⊢
    refine ⟨⟨fun h => absurd h (by simp), ?_⟩, fun h => absurd h (by simp), fun _ _ => rfl, hagain⟩
    rintro ⟨⟨content, mode, hfile⟩, hgone⟩
    exact absurd (hfile.symm.trans hgone) (by simp)
  · rw [hnothing] at hagain ⊢
    refine ⟨⟨fun h => absurd h (by simp), ?_⟩, fun _ => ⟨hfound, rfl⟩, fun _ _ => rfl, hagain⟩
    rintro ⟨⟨content, mode, hfile⟩, -⟩
    exact absurd (hfile.symm.trans hfound) (by simp)
  · have hplace := place?_of_directoryAt hends.split hdir
    have hplaceAfter := (touched_removeIfPresent hlinks path).place? hplace
    have hgone := gone_removeIfPresent (congrArg Prod.fst hremoved) hplaceAfter
    rw [hremoved] at hagain hplaceAfter hgone ⊢
    refine ⟨iff_of_true rfl ⟨?_, ?_⟩, fun h => absurd h (by simp), fun _ h => absurd h (by simp),
      hagain⟩
    · cases e with
      | directory => exact absurd rfl hne
      | link link => exact absurd hget (hlinks _ _)
      | file content mode => exact ⟨content, mode, by rw [found?_eq, hplace]; exact hget⟩
    · rw [found?_eq, hplaceAfter]
      exact hgone

theorem answered_of_callwise (hlinks : w.tree.Linkless) {answer : Except FileError Bool}
    (h : callwise (.remove path) w answer w') : w.Answered path answer w' := by
  rcases h with hdone | ⟨⟨e, rfl⟩, rfl⟩
  · rw [← show (w.removeIfPresent path).1 = answer by rw [← hdone],
      ← show (w.removeIfPresent path).2 = w' by rw [← hdone]]
    exact answered_removeIfPresent hlinks path
  · refine ⟨⟨fun h => absurd h (by simp), ?_⟩, fun h => absurd h (by simp), fun _ _ => rfl,
      fun _ h => absurd h (by simp)⟩
    rintro ⟨⟨content, mode, hfile⟩, hgone⟩
    exact absurd (hfile.symm.trans hgone) (by simp)

/-! ## The map -/

/-- After any calls, from a workspace without links: under every path that leads to a place the
    text is read that the last call about this place has written, by either function and under any
    spelling, and nothing if that call was a removal. An entry that no call was about is as it was,
    or is a directory made on the way to a path that was written. And the answer to a removal tells
    what was there. -/
theorem entries_of_undergoes (hlinks : w.tree.Linkless) (h : w.Undergoes deeds w') :
    (∀ before d later, deeds = before ++ d :: later → ∀ loc, d.Addresses loc →
      (∀ d' ∈ later, ¬ d'.Addresses loc) → ∀ path, w'.place? path = some loc →
        (∀ text, d.Writes text → w'.read path = .ok text) ∧
        (d.Removes → ∃ e, w'.read path = .error e)) ∧
    (∀ loc, (∀ d ∈ deeds, ¬ d.Addresses loc) → w'.tree.get? loc = w.tree.get? loc ∨
      w.tree.get? loc = none ∧ w'.tree.get? loc = some .directory ∧ ∃ d ∈ deeds, d.Passes loc) ∧
    ∀ path answer w'', callwise (.remove path) w' answer w'' → w'.Answered path answer w'' := by
  have hleaves := h.leaves hlinks
  refine ⟨?_, hleaves.elsewhere, fun path answer w'' h => answered_of_callwise hleaves.linkless h⟩
  rintro before d later rfl loc haddresses hlast path hplace
  rcases (undergoes_append w before (d :: later) w').mp h with ⟨u, hbefore, hstep, hlater⟩
  have hu := (hbefore.leaves hlinks).linkless
  have hrest := hlater.leaves (leaves_of_callwise hu hstep).linkless
  -- What the last call about the place has left there is still there.
  have hkept := hrest.elsewhere loc hlast
  constructor
  · intro text hwrites
    rcases holds_of_writes hu hstep hwrites haddresses with
      ⟨dir, name, mode, hloc, hnul, hshort, hfile⟩
    refine read_of_holds hplace ⟨dir, name, mode, hloc, hnul, hshort, ?_⟩
    rcases hkept with hsame | ⟨hfree, -⟩
    · rw [hsame, hfile]
    · exact absurd (hfile.symm.trans hfree) (by simp)
  · intro hremoves
    have hgone := gone_of_removes hstep hremoves haddresses
    refine read_of_no_file hleaves.linkless hplace fun content mode hfile => ?_
    rcases hkept with hsame | ⟨-, hmade, -⟩
    · exact absurd (hfile.symm.trans (hsame.trans hgone)) (by simp)
    · exact absurd (hfile.symm.trans hmade) (by simp)

/-- A workspace without any files. -/
def bare : Workspace :=
  ⟨.empty, []⟩

theorem linkless_bare : bare.tree.Linkless := by
  intro loc link hget
  unfold Tree.get? at hget
  split at hget
  · exact absurd hget (by simp)
  · exact absurd (show (none : Option Entry) = some (.link link) from hget) (by simp)

/-- A file that is written again under another spelling of its path, by the other function, is
    read under a third one, and nothing is read after its removal under a fourth one. -/
theorem entries_of_undergoes_respelled :
    let first := bare.write ⟨"a/k"⟩ "one"
    let second := first.2.writePrivate ⟨"./a//k"⟩ "two"
    let third := second.2.removeIfPresent ⟨"a/k/."⟩
    second.2.read ⟨"a/../a/k"⟩ = .ok "two" ∧ third.1 = .ok true ∧
      ∃ e, third.2.read ⟨"./a/k"⟩ = .error e := by
  intro first second third
  have hsecond : second.1 = .ok () := eq_ok_of_isOk (by decide +kernel)
  have hthird : third.1.toOption = some true := by decide +kernel
  have hwritten : second.2.place? ⟨"./a//k"⟩ = some ["a", "k"] := by decide +kernel
  have hread : second.2.place? ⟨"a/../a/k"⟩ = some ["a", "k"] := by decide +kernel
  have hremoved : third.2.place? ⟨"a/k/."⟩ = some ["a", "k"] := by decide +kernel
  have hgone : third.2.place? ⟨"./a/k"⟩ = some ["a", "k"] := by decide +kernel
  have hfirst : first = bare.write ⟨"a/k"⟩ "one" := rfl
  have hsecond' : second = first.2.writePrivate ⟨"./a//k"⟩ "two" := rfl
  have hthird' : third = second.2.removeIfPresent ⟨"a/k/."⟩ := rfl
  clear_value third second first
  rcases third with ⟨_ | there, left⟩
  · exact absurd hthird (by simp [Except.toOption])
  obtain rfl : there = true := Option.some.inj hthird
  -- The first two calls have written the text, and the third one has removed it.
  have htwo : bare.Undergoes [⟨⟨.write ⟨"a/k"⟩ "one", first.1⟩, first.2⟩,
      ⟨⟨.writePrivate ⟨"./a//k"⟩ "two", second.1⟩, second.2⟩] second.2 :=
    ⟨Or.inl hfirst, Or.inl hsecond', rfl⟩
  have hthree : bare.Undergoes [⟨⟨.write ⟨"a/k"⟩ "one", first.1⟩, first.2⟩,
      ⟨⟨.writePrivate ⟨"./a//k"⟩ "two", second.1⟩, second.2⟩,
      ⟨⟨.remove ⟨"a/k/."⟩, .ok true⟩, left⟩] left :=
    ⟨Or.inl hfirst, Or.inl hsecond', Or.inl hthird', rfl⟩
  refine ⟨?_, rfl, ?_⟩
  · refine ((entries_of_undergoes linkless_bare htwo).1 [_] _ [] rfl ["a", "k"]
      ⟨⟨"./a//k"⟩, Or.inr (Or.inl ⟨"two", rfl⟩), hwritten⟩ (by simp) _ hread).1 "two" ?_
    exact Or.inr ⟨⟨"./a//k"⟩, by rw [hsecond]⟩
  · exact ((entries_of_undergoes linkless_bare hthree).1 [_, _] _ [] rfl ["a", "k"]
      ⟨⟨"a/k/."⟩, Or.inr (Or.inr rfl), hremoved⟩ (by simp) _ hgone).2 ⟨_, true, rfl⟩

end Workspace

end Storage

end Qualifier
