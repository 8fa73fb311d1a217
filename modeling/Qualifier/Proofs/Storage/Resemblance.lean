import Qualifier.Proofs.Storage.Removal

/-!
# Trees That Differ in Bytes

Where a path leads and whether an access succeeds has nothing to do with what is in the
files: a walk only looks at the kind of an entry, and at the target of a link. So two
workspaces in which the same is done answer the same, although some files in one have
other bytes than in the other, and where they were the same they are the same afterwards.

`Resembles` compares two trees in this way. It names the locations at which bytes may
differ, so that one relation does for trees that are the same, for trees that differ in
one file, and for what is done to either.

## Main definitions

* `Entry.outline`: An entry without the bytes of a file.
* `Tree.Resembles`, `Workspace.Resembles`: The same but for bytes at some locations.
* `Tree.Follows`: Two attempts that fail alike or succeed alike.
* `Workspace.Aims`: Where a private file is about to be put.

## Theorems

* `Resembles.walk`, `Resembles.directoryAt`: Paths lead to the same places.
* `Resembles.write`, `Resembles.removeIfPresent`: The same is done to both.
* `Resembles.writePrivate`: Two texts are written, and the same is done elsewhere.
* `Resembles.removed`: With a file its difference is gone.
-/

namespace Qualifier

namespace Storage

/-- An entry without the bytes of a file. -/
def Entry.outline : Entry → Entry
  | .file _ mode => .file .empty mode
  | e => e

/-- Two trees are the same, except for the bytes of files at some locations. -/
structure Tree.Resembles (differ : Location → Prop) (t t' : Tree) : Prop where
  outline : ∀ loc, (t'.get? loc).map Entry.outline = (t.get? loc).map Entry.outline
  same : ∀ loc, ¬ differ loc → t'.get? loc = t.get? loc

/-- Two trees are left the same but for bytes, and with the same answer. -/
def Tree.Likewise {α : Type} (differ : Location → Prop) (done done' : α × Tree) : Prop :=
  done'.1 = done.1 ∧ done.2.Resembles differ done'.2

/-- Two attempts on trees fail alike, or what they make of the trees is the same but for
    bytes. -/
def Tree.Follows (differ : Location → Prop) : Except Fault Tree → Except Fault Tree → Prop
  | .error fault, .error fault' => fault' = fault
  | .ok t, .ok t' => t.Resembles differ t'
  | _, _ => False

variable {differ differ' : Location → Prop} {t t' : Tree}

namespace Tree

theorem Resembles.refl (t : Tree) : t.Resembles (fun _ => False) t :=
  ⟨fun _ => rfl, fun _ _ => rfl⟩

theorem Resembles.mono (h : t.Resembles differ t') (hsub : ∀ loc, differ loc → differ' loc) :
    t.Resembles differ' t' :=
  ⟨h.outline, fun loc hloc => h.same loc fun hdiffer => hloc (hsub loc hdiffer)⟩

theorem Resembles.put (h : t.Resembles differ t') (dir : Location) (name : String)
    (entry : Entry) : (t.put (dir ++ [name]) entry).Resembles differ (t'.put (dir ++ [name]) entry) where
  outline loc := by
    rw [Workspace.get?_put_at, Workspace.get?_put_at]
    split
    · rfl
    · exact h.outline loc
  same loc hloc := by
    rw [Workspace.get?_put_at, Workspace.get?_put_at]
    split
    · rfl
    · exact h.same loc hloc

/-- Files of one mode may be put there with different bytes. -/
theorem Resembles.put_file (h : t.Resembles differ t') (dir : Location) (name : String)
    (content content' : ByteArray) (mode : Nat) :
    (t.put (dir ++ [name]) (.file content mode)).Resembles
      (fun loc => differ loc ∨ loc = dir ++ [name])
      (t'.put (dir ++ [name]) (.file content' mode)) where
  outline loc := by
    rw [Workspace.get?_put_at, Workspace.get?_put_at]
    split
    · rfl
    · exact h.outline loc
  same loc hloc := by
    rw [Workspace.get?_put_at, Workspace.get?_put_at, if_neg fun heq => hloc (Or.inr heq),
      if_neg fun heq => hloc (Or.inr heq)]
    exact h.same loc fun hdiffer => hloc (Or.inl hdiffer)

theorem Resembles.erase (h : t.Resembles differ t') (dir : Location) (name : String) :
    (t.erase (dir ++ [name])).Resembles differ (t'.erase (dir ++ [name])) := by
  have hget : ∀ (t : Tree) loc, (t.erase (dir ++ [name])).get? loc =
      if loc = dir ++ [name] then none else t.get? loc := by
    intro t loc
    by_cases hloc : loc = dir ++ [name]
    · rw [if_pos hloc, hloc, get?_erase_self _ _ (by simp)]
    · rw [if_neg hloc, get?_erase_of_ne _ hloc]
  constructor
  · intro loc
    rw [hget, hget]
    split
    · rfl
    · exact h.outline loc
  · intro loc hloc
    rw [hget, hget]
    split
    · rfl
    · exact h.same loc hloc

/-- Bytes can differ only where there are files. -/
theorem Resembles.of_gone (h : t.Resembles differ t')
    (hgone : ∀ loc, differ loc → differ' loc ∨ t.get? loc = none) : t.Resembles differ' t' where
  outline := h.outline
  same loc hloc := by
    by_cases hdiffer : differ loc
    · have hnone := (hgone loc hdiffer).resolve_left hloc
      have houtline := h.outline loc
      rw [hnone, Option.map_none, Option.map_eq_none_iff] at houtline
      rw [hnone, houtline]
    · exact h.same loc hdiffer

/-- What may differ at a location are the bytes of a file. -/
theorem Resembles.cases (h : t.Resembles differ t') (loc : Location) :
    t'.get? loc = t.get? loc ∨ differ loc ∧ ∃ content content' mode,
      t.get? loc = some (.file content mode) ∧ t'.get? loc = some (.file content' mode) := by
  by_cases hdiffer : differ loc
  · have houtline := h.outline loc
    rcases hget : t.get? loc with _ | e <;> rcases hget' : t'.get? loc with _ | e'
    · exact Or.inl rfl
    · rw [hget, hget'] at houtline
      exact absurd houtline (by simp)
    · rw [hget, hget'] at houtline
      exact absurd houtline (by simp)
    · rw [hget, hget', Option.map_some, Option.map_some, Option.some.injEq] at houtline
      cases e <;> cases e' <;> simp [Entry.outline] at houtline
      · exact Or.inl rfl
      · subst houtline
        exact Or.inr ⟨hdiffer, _, _, _, rfl, rfl⟩
      · exact Or.inl (by rw [houtline])
  · exact Or.inl (h.same loc hdiffer)

end Tree

/-! ## Walks -/

/-- What a step comes to depends on the kind of the entry. -/
theorem legInto_outline (t : Tree) (rules : Rules) (slash : Bool) (loc : Location)
    (step : String) (rest : List String) (e : Option Entry) :
    legInto t rules slash loc step rest (e.map Entry.outline) =
      legInto t rules slash loc step rest e := by
  rcases e with _ | e
  · rfl
  · cases e <;> rfl

namespace Tree

theorem Resembles.leg (h : t.Resembles differ t') (rules : Rules) (slash : Bool)
    (loc : Location) (steps : List String) :
    Storage.leg t' rules slash loc steps = Storage.leg t rules slash loc steps := by
  induction steps generalizing loc with
  | nil => rfl
  | cons step rest ih =>
      rcases leg_cons_cases rules slash loc step rest with ⟨loc', hgo⟩ | ⟨fault, hgo⟩ | hgo
      · rw [hgo t, hgo t', ih]
      · rw [hgo t, hgo t']
      · rw [hgo t, hgo t', ← legInto_outline, h.outline, legInto_outline]
        -- The trees matter only where the step leads into a directory.
        rcases t.get? (loc ++ [step]) with _ | e
        · rfl
        · cases e with
          | directory => simp only [legInto, ih]
          | file content mode => rfl
          | link link => rfl

theorem Resembles.walk (h : t.Resembles differ t') (rules : Rules) (links : Nat) (slash : Bool)
    (loc : Location) (steps : List String) :
    Storage.walk t' rules links slash loc steps = Storage.walk t rules links slash loc steps := by
  have hleg := h.leg rules slash loc steps
  induction links generalizing slash loc steps with
  | zero =>
      rcases hresult : Storage.leg t rules slash loc steps with result | ⟨place, link, rest⟩
      · rw [walk_of_arrived hresult, walk_of_arrived (hleg.trans hresult)]
      · rw [walk_zero_of_through hresult, walk_zero_of_through (hleg.trans hresult)]
  | succ links ih =>
      rcases hresult : Storage.leg t rules slash loc steps with result | ⟨place, link, rest⟩
      · rw [walk_of_arrived hresult, walk_of_arrived (hleg.trans hresult)]
      -- Both walks meet the same link, and go on from it in the same way.
      · rcases walk_after_link rules slash place link rest with hout | ⟨_, _, _, hgo⟩
        · rw [hout t links loc steps hresult, hout t' links loc steps (hleg.trans hresult)]
        · rw [hgo t links loc steps hresult, hgo t' links loc steps (hleg.trans hresult)]
          exact ih _ _ _ (h.leg _ _ _ _)

theorem Resembles.target (h : t.Resembles differ t') (rules : Rules) (wd : Location)
    (path : Path) : t'.target rules wd path = t.target rules wd path := by
  unfold Tree.target
  simp only [h.walk]

theorem Resembles.isNone (h : t.Resembles differ t') (loc : Location) :
    t'.get? loc = none ↔ t.get? loc = none := by
  rcases h.cases loc with hsame | ⟨-, content, content', mode, hget, hget'⟩
  · rw [hsame]
  · rw [hget, hget']
    simp

theorem Resembles.arrival (h : t.Resembles differ t') (result : Except Fault Target) :
    t'.arrival result = t.arrival result := by
  rcases result with fault | ⟨loc | ⟨within, name, slash⟩⟩
  · rfl
  · rfl
  · simp only [Tree.arrival]
    rcases h.cases (within ++ [name]) with hsame | ⟨-, content, content', mode, hget, hget'⟩
    · rw [hsame]
    · rw [hget, hget']

theorem Resembles.directoryAt (h : t.Resembles differ t') (wd : Location) (path : Path) :
    t'.directoryAt wd path = t.directoryAt wd path := by
  rcases directoryAt_cases wd path with ⟨fault, hgo⟩ | ⟨slash, loc, steps, hgo⟩
  · rw [hgo t, hgo t']
  · rw [hgo t, hgo t', Tree.reach, Tree.reach, h.walk, h.arrival]

/-! ## Making directories -/

theorem Resembles.makeDirectory (h : t.Resembles differ t') (wd : Location) (path : Path) :
    Follows differ (t.makeDirectory wd path) (t'.makeDirectory wd path) := by
  unfold Tree.makeDirectory
  rw [h.target]
  rcases t.target ⟨none, false⟩ wd path with fault | ⟨loc | ⟨within, name, slash⟩⟩
  · rfl
  · rfl
  · simp only
    rcases hget : t.get? (within ++ [name]) with _ | e
    · rw [(h.isNone _).mpr hget]
      exact h.put within name .directory
    · rcases hget' : t'.get? (within ++ [name]) with _ | e'
      · rw [(h.isNone _).mp hget'] at hget
        exact absurd hget (by simp)
      · rfl

/-- A directory that cannot be made may be there already, in both trees or in none. -/
theorem Resembles.orThere (h : t.Resembles differ t') (wd : Location) (path : Path)
    (fault : Fault) :
    Likewise differ (match t.directoryAt wd path with
      | .ok _ => ((.ok (), t) : Except Fault Unit × Tree)
      | .error _ => (.error fault, t)) (match t'.directoryAt wd path with
      | .ok _ => (.ok (), t')
      | .error _ => (.error fault, t')) := by
  rw [h.directoryAt]
  cases t.directoryAt wd path <;> exact ⟨rfl, h⟩

theorem Resembles.makeChain (h : t.Resembles differ t') (wd : Location) (paths : List Path) :
    Likewise differ (Tree.makeChain wd paths t) (Tree.makeChain wd paths t') := by
  induction paths generalizing t t' with
  | nil => exact ⟨rfl, h⟩
  | cons path leading ih =>
      unfold Tree.makeChain
      by_cases hempty : path.text = ""
      · rw [if_pos hempty, if_pos hempty]
        exact ⟨rfl, h⟩
      rw [if_neg hempty, if_neg hempty]
      have hmake := h.makeDirectory wd path
      rcases hfirst : t.makeDirectory wd path with fault | made <;>
        rcases hfirst' : t'.makeDirectory wd path with fault' | made' <;>
        rw [hfirst, hfirst'] at hmake
      · obtain rfl : fault' = fault := hmake
        cases fault' with
        | notFound =>
            have hlead := ih h
            rcases hchain : Tree.makeChain wd leading t with ⟨answer, u⟩
            rcases hchain' : Tree.makeChain wd leading t' with ⟨answer', u'⟩
            rw [hchain, hchain'] at hlead
            rcases hlead with ⟨hanswer, hu⟩
            obtain rfl : answer' = answer := hanswer
            rcases answer' with fault | _
            · exact ⟨rfl, hu⟩
            simp only
            have hagain := hu.makeDirectory wd path
            rcases hsecond : u.makeDirectory wd path with fault | made <;>
              rcases hsecond' : u'.makeDirectory wd path with fault' | made' <;>
              rw [hsecond, hsecond'] at hagain
            · obtain rfl : fault' = fault := hagain
              exact hu.orThere wd path _
            · exact hagain.elim
            · exact hagain.elim
            · exact ⟨rfl, hagain⟩
        | _ => exact h.orThere wd path _
      · exact hmake.elim
      · exact hmake.elim
      · exact ⟨rfl, hmake⟩

/-! ## Entries in a directory -/

theorem Resembles.writeWithin (h : t.Resembles differ t') (within : Location) (name text : String) :
    Follows differ (t.writeWithin within name text) (t'.writeWithin within name text) := by
  have hfenced : t'.fenced within name = t.fenced within name := by
    unfold Tree.fenced
    rw [h.target]
  unfold Tree.writeWithin
  rw [hfenced]
  rcases t.fenced within name with fault | ⟨loc | ⟨dir, last, slash⟩⟩
  · rfl
  · rfl
  cases slash with
  | true => rfl
  | false =>
      simp only [Bool.false_eq_true, if_false]
      rcases h.cases (dir ++ [last]) with hsame | ⟨-, content, content', mode, hget, hget'⟩
      · rw [hsame]
        rcases t.get? (dir ++ [last]) with _ | e
        · exact h.put dir last _
        · cases e with
          | directory => rfl
          | file content mode => exact h.put dir last _
          | link link => exact h.put dir last _
      -- What is written takes the place of the bytes that differed.
      · rw [hget, hget']
        exact h.put dir last _

theorem Resembles.removeWithin (h : t.Resembles differ t') (within : Location) (name : String) :
    Follows differ (t.removeWithin within name) (t'.removeWithin within name) := by
  unfold Tree.removeWithin
  by_cases hnul : '\x00' ∈ name.toList
  · rw [if_pos hnul, if_pos hnul]
    rfl
  by_cases hlong : nameLimit < name.utf8ByteSize
  · rw [if_neg hnul, if_neg hnul, if_pos hlong, if_pos hlong]
    rfl
  rw [if_neg hnul, if_neg hnul, if_neg hlong, if_neg hlong]
  rcases h.cases (within ++ [name]) with hsame | ⟨-, content, content', mode, hget, hget'⟩
  · rw [hsame]
    rcases t.get? (within ++ [name]) with _ | e
    · rfl
    · cases e with
      | directory => rfl
      | file content mode => exact h.erase within name
      | link link => exact h.erase within name
  · rw [hget, hget']
    exact h.erase within name

end Tree

/-! ## Workspaces -/

namespace Workspace

/-- Two workspaces are the same, except for the bytes of files at some locations. -/
structure Resembles (differ : Location → Prop) (w w' : Workspace) : Prop where
  workingDirectory : w'.workingDirectory = w.workingDirectory
  tree : w.tree.Resembles differ w'.tree

/-- Two workspaces are left the same but for bytes, and with the same answer. -/
def Likewise {α : Type} (differ : Location → Prop) (done done' : α × Workspace) : Prop :=
  done'.1 = done.1 ∧ done.2.Resembles differ done'.2

variable {w w' : Workspace} {path : Path}

theorem Resembles.refl (w : Workspace) : w.Resembles (fun _ => False) w :=
  ⟨rfl, Tree.Resembles.refl _⟩

theorem Resembles.mono (h : w.Resembles differ w') (hsub : ∀ loc, differ loc → differ' loc) :
    w.Resembles differ' w' :=
  ⟨h.workingDirectory, h.tree.mono hsub⟩

theorem Resembles.withTree (h : w.Resembles differ w') (ht : t.Resembles differ' t') :
    (w.withTree t).Resembles differ' (w'.withTree t') :=
  ⟨h.workingDirectory, ht⟩

theorem Resembles.prepare (h : w.Resembles differ w') (parent : Path) :
    Likewise differ (w.prepare parent) (w'.prepare parent) := by
  unfold Workspace.prepare Tree.makeDirectories
  rw [h.workingDirectory]
  have hchain := h.tree.makeChain w.workingDirectory (parent.ancestors (parent.text.length + 1))
  rcases hmade : Tree.makeChain w.workingDirectory (parent.ancestors (parent.text.length + 1))
    w.tree with ⟨answer, t⟩
  rcases hmade' : Tree.makeChain w.workingDirectory (parent.ancestors (parent.text.length + 1))
    w'.tree with ⟨answer', t'⟩
  rw [hmade, hmade'] at hchain
  rcases hchain with ⟨hanswer, ht⟩
  obtain rfl : answer' = answer := hanswer
  rcases answer' with fault | _
  · exact ⟨rfl, h.workingDirectory, ht⟩
  · simp only [Tree.Resembles.directoryAt ht]
    cases t.directoryAt w.workingDirectory parent <;> exact ⟨rfl, h.workingDirectory, ht⟩

theorem Resembles.write (h : w.Resembles differ w') (path : Path) (text : String) :
    Likewise differ (w.write path text) (w'.write path text) := by
  unfold Workspace.write
  rcases splitPath path with e | ⟨parent, name⟩
  · exact ⟨rfl, h⟩
  have hprepare := h.prepare parent
  rcases hmade : w.prepare parent with ⟨answer, made⟩
  rcases hmade' : w'.prepare parent with ⟨answer', made'⟩
  rw [hmade, hmade'] at hprepare
  rcases hprepare with ⟨hanswer, hsame⟩
  obtain rfl : answer' = answer := hanswer
  have hsame : made.Resembles differ made' := hsame
  simp only [hmade, hmade']
  rcases answer' with e | dir
  · exact ⟨rfl, hsame⟩
  have hwrite := hsame.tree.writeWithin dir name text
  simp only
  rcases hdone : made.tree.writeWithin dir name text with fault | t <;>
    rcases hdone' : made'.tree.writeWithin dir name text with fault' | t' <;>
    rw [hdone, hdone'] at hwrite
  · obtain rfl : fault' = fault := hwrite
    exact ⟨rfl, hsame⟩
  · exact hwrite.elim
  · exact hwrite.elim
  · exact ⟨rfl, hsame.withTree hwrite⟩

theorem Resembles.removeIfPresent (h : w.Resembles differ w') (path : Path) :
    Likewise differ (w.removeIfPresent path) (w'.removeIfPresent path) := by
  unfold Workspace.removeIfPresent
  rcases splitPath path with e | ⟨parent, name⟩
  · exact ⟨rfl, h⟩
  simp only [h.workingDirectory, h.tree.directoryAt]
  rcases w.tree.directoryAt w.workingDirectory parent with fault | dir
  · cases fault <;> exact ⟨rfl, h⟩
  simp only
  have hremove := h.tree.removeWithin dir name
  rcases hdone : w.tree.removeWithin dir name with fault | t <;>
    rcases hdone' : w'.tree.removeWithin dir name with fault' | t' <;>
    rw [hdone, hdone'] at hremove
  · obtain rfl : fault' = fault := hremove
    cases fault' <;> exact ⟨rfl, h⟩
  · exact hremove.elim
  · exact hremove.elim
  · exact ⟨rfl, h.withTree hremove⟩

/-- The location at which a private file is put that is written to a path. -/
def Aims (w : Workspace) (path : Path) (loc : Location) : Prop :=
  ∃ parent name dir, splitPath path = .ok (parent, name) ∧
    (w.prepare parent).1 = .ok dir ∧ loc = dir ++ [name]

/-- Two texts are written to a path, and elsewhere the same is done; everywhere, if they are the
    same or cannot be written. -/
theorem Resembles.writePrivate (h : w.Resembles differ w') (path : Path) (text text' : String) :
    Likewise (fun loc => differ loc ∨
        text' ≠ text ∧ (w.writePrivate path text).1 = .ok () ∧ w.Aims path loc)
      (w.writePrivate path text) (w'.writePrivate path text') := by
  unfold Workspace.writePrivate
  rcases hsplit : splitPath path with e | ⟨parent, name⟩
  · exact ⟨rfl, h.mono fun _ => Or.inl⟩
  have hprepare := h.prepare parent
  rcases hmade : w.prepare parent with ⟨answer, made⟩
  rcases hmade' : w'.prepare parent with ⟨answer', made'⟩
  rw [hmade, hmade'] at hprepare
  rcases hprepare with ⟨hanswer, hsame⟩
  obtain rfl : answer' = answer := hanswer
  have hsame : made.Resembles differ made' := hsame
  simp only [hmade, hmade']
  rcases answer' with e | dir
  · exact ⟨rfl, hsame.mono fun _ => Or.inl⟩
  have haims : w.Aims path (dir ++ [name]) := ⟨parent, name, dir, hsplit, by rw [hmade], rfl⟩
  have hput : ∀ {t t' : Tree}, t.Resembles differ t' →
      (t.put (dir ++ [name]) (.file text.toUTF8 privateMode)).Resembles
        (fun loc => differ loc ∨ text' ≠ text ∧ w.Aims path loc)
        (t'.put (dir ++ [name]) (.file text'.toUTF8 privateMode)) := by
    intro t t' ht
    by_cases htext : text' = text
    · rw [htext]
      exact (ht.put dir name _).mono fun _ => Or.inl
    · refine (ht.put_file dir name _ _ _).mono fun loc hloc => ?_
      rcases hloc with hdiffer | rfl
      · exact Or.inl hdiffer
      · exact Or.inr ⟨htext, haims⟩
  have hremove := hsame.tree.removeWithin dir name
  simp only
  rcases hdone : made.tree.removeWithin dir name with fault | t <;>
    rcases hdone' : made'.tree.removeWithin dir name with fault' | t' <;>
    rw [hdone, hdone'] at hremove
  · obtain rfl : fault' = fault := hremove
    cases fault' with
    | notFound =>
        refine ⟨rfl, (hsame.withTree (hput hsame.tree)).mono fun loc => ?_⟩
        exact Or.imp_right (And.imp_right (And.intro rfl))
    | _ => exact ⟨rfl, hsame.mono fun _ => Or.inl⟩
  · exact hremove.elim
  · exact hremove.elim
  · refine ⟨rfl, (hsame.withTree (hput hremove)).mono fun loc => ?_⟩
    exact Or.imp_right (And.imp_right (And.intro rfl))

/-- After the removal of one path nothing differs any more at its place. -/
theorem Resembles.removed
    (h : w.Resembles (fun loc => w.place? path = some loc ∨ differ loc) w')
    (hclear : w.Clearable path) :
    Likewise differ (w.removeIfPresent path) (w'.removeIfPresent path) := by
  rcases h.removeIfPresent path with ⟨hanswer, hsame⟩
  refine ⟨hanswer, hsame.workingDirectory, hsame.tree.of_gone fun loc hloc => ?_⟩
  refine hloc.elim (fun hplace => Or.inr ?_) Or.inl
  rw [get?_removeIfPresent hclear, if_pos hplace]

end Workspace

end Storage

end Qualifier
