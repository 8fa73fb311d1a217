import Qualifier.Proofs.Storage.Clearing

/-!
# What Was Written Is Read

A path is read through a name that is looked up inside a directory, and what is there may
be a link, so the file that is read can lie elsewhere (`ReadAt`). It lies where it did as
long as no way is taken away and no link is put in its place (`ReadAt.of_thinner`). A file
that is written is put where its path is read, so the text that was written is read.

## Main definitions

* `Workspace.ReadAt`: Where the file lies that is read under a path.

## Theorems

* `walk_to_name`: A walk ends at the same name in every tree that is no thinner.
* `ReadAt.read`, `ReadAt.of_thinner`: What is read, and that it is where it was.
* `read_of_write`: A text that was written is read.
-/

namespace Qualifier

/-- A text is got back from its bytes. -/
theorem Text.strict?_toUTF8 (text : String) : Text.strict? text.toUTF8 = some text := by
  unfold Text.strict? String.fromUTF8?
  rw [String.toUTF8_eq_toByteArray, dif_pos text.isValidUTF8]
  rfl

namespace Storage

variable {t t' : Tree} {rules : Rules}

/-- Up to the next link, a walk that ends at a name ends there in every tree that is no
    thinner, if there is no link under the name. -/
theorem leg_to_name (h : t.Thinner t') (slash : Bool) (loc : Location) (steps : List String)
    {within : Location} {name : String} {closed : Bool}
    (hleg : leg t rules slash loc steps = .arrived (.ok (.entry within name closed)))
    (hname : ∀ link, t'.get? (within ++ [name]) ≠ some (.link link)) :
    leg t' rules slash loc steps = .arrived (.ok (.entry within name closed)) := by
  induction steps generalizing loc with
  | nil => exact absurd hleg (by simp [leg])
  | cons step rest ih =>
      rcases leg_cons_cases rules slash loc step rest with ⟨loc', hgo⟩ | ⟨fault, hgo⟩ | hgo
      · rw [hgo t] at hleg
        rw [hgo t']
        exact ih loc' hleg
      · rw [hgo t] at hleg
        exact absurd hleg (by simp)
      rw [hgo t] at hleg
      rw [hgo t']
      by_cases hlink : ∃ link, t.get? (loc ++ [step]) = some (.link link)
      · rcases hlink with ⟨link, hlink⟩
        rw [hlink] at hleg
        rw [h _ _ rfl hlink]
        exact hleg
      have hnot : ∀ link, t.get? (loc ++ [step]) ≠ some (.link link) :=
        fun link hget => hlink ⟨link, hget⟩
      cases rest with
      | nil =>
          rw [legInto_nil hnot, Leg.arrived.injEq, Except.ok.injEq, Target.entry.injEq] at hleg
          rcases hleg with ⟨rfl, rfl, rfl⟩
          exact legInto_nil hname t' rules slash loc step
      | cons next rest =>
          -- A name on the way can only be one of a directory, which the other tree has too.
          rcases hget : t.get? (loc ++ [step]) with _ | e
          · rw [hget] at hleg
            exact absurd hleg (by simp [legInto])
          cases e with
          | link link => exact absurd hget (hnot link)
          | file content mode =>
              rw [hget] at hleg
              exact absurd hleg (by simp [legInto])
          | directory =>
              rw [hget] at hleg
              rw [h _ _ rfl hget]
              exact ih _ hleg

/-- A walk that ends at a name ends there in every tree that is no thinner. -/
theorem walk_to_name (h : t.Thinner t') (links : Nat) (slash : Bool) (loc : Location)
    (steps : List String) {within : Location} {name : String} {closed : Bool}
    (hwalk : walk t rules links slash loc steps = .ok (.entry within name closed))
    (hname : ∀ link, t'.get? (within ++ [name]) ≠ some (.link link)) :
    walk t' rules links slash loc steps = .ok (.entry within name closed) := by
  refine walk_of_legs h ?_ links slash loc steps hwalk
  intro slash loc steps hleg
  exact leg_to_name h slash loc steps hleg hname

/-- Looking up a name inside a directory is a walk, unless it is one that no tree can follow. -/
theorem Tree.fenced_cases (dir : Location) (name : String) :
    (∃ fault, ∀ t : Tree, t.fenced dir name = .error fault) ∨
    ∃ slash loc steps, ∀ t : Tree,
      t.fenced dir name = walk t ⟨some dir, true⟩ linkLimit slash loc steps := by
  unfold Tree.fenced Tree.target
  by_cases hnul : '\x00' ∈ name.toList
  · exact Or.inl ⟨.invalidArgument, fun t => if_pos hnul⟩
  by_cases hlong : pathLimit ≤ name.utf8ByteSize
  · exact Or.inl ⟨.nameTooLong, fun t => by rw [if_neg hnul, if_neg hnul, if_pos hlong]⟩
  by_cases hempty : name = ""
  · refine Or.inl ⟨.notFound, fun t => ?_⟩
    rw [if_neg hnul, if_neg hnul, if_neg hlong, if_pos hempty]
  · let route := Route.ofText name
    refine Or.inr ⟨route.slash, if route.fromRoot then [] else dir, route.steps, fun t => ?_⟩
    rw [if_neg hnul, if_neg hnul, if_neg hlong, if_neg hempty]

/-- A name inside a directory leads where it led. -/
theorem Tree.fenced_of_thinner (h : t.Thinner t') {dir within : Location} {name last : String}
    {slash : Bool} (hfenced : t.fenced dir name = .ok (.entry within last slash))
    (hlast : ∀ link, t'.get? (within ++ [last]) ≠ some (.link link)) :
    t'.fenced dir name = .ok (.entry within last slash) := by
  rcases Tree.fenced_cases dir name with ⟨fault, hgo⟩ | ⟨slash', loc, steps, hgo⟩
  · exact absurd ((hgo t).symm.trans hfenced) (by simp)
  · rw [hgo t] at hfenced
    rw [hgo t']
    exact walk_to_name h linkLimit slash' loc steps hfenced hlast

namespace Workspace

variable {w w' : Workspace} {path : Path} {text : String} {loc : Location}

/-- Where the file lies that is read under a path: at the end of the links that the name in
    its directory leads through. -/
def ReadAt (w : Workspace) (path : Path) (loc : Location) : Prop :=
  ∃ parent name dir within last, splitPath path = .ok (parent, name) ∧
    w.tree.directoryAt w.workingDirectory parent = .ok dir ∧
    w.tree.fenced dir name = .ok (.entry within last false) ∧ loc = within ++ [last]

theorem ReadAt.read {mode : Nat} (h : w.ReadAt path loc)
    (hget : w.tree.get? loc = some (.file text.toUTF8 mode)) : w.read path = .ok text := by
  rcases h with ⟨parent, name, dir, within, last, hsplit, hdir, hfenced, rfl⟩
  have hbytes : w.tree.readWithin dir name = .ok text.toUTF8 := by
    unfold Tree.readWithin
    simp only [hfenced, hget, Bool.false_eq_true, if_false]
  simp only [Workspace.read, hsplit, hdir, hbytes, Text.strict?_toUTF8]

theorem ReadAt.of_thinner (h : w.ReadAt path loc)
    (hwd : w'.workingDirectory = w.workingDirectory) (hthin : w.tree.Thinner w'.tree)
    (hloc : ∀ link, w'.tree.get? loc ≠ some (.link link)) : w'.ReadAt path loc := by
  rcases h with ⟨parent, name, dir, within, last, hsplit, hdir, hfenced, rfl⟩
  refine ⟨parent, name, dir, within, last, hsplit, ?_, ?_, rfl⟩
  · rw [hwd]
    exact directoryAt_of_thinner hthin hdir
  · exact Tree.fenced_of_thinner hthin hfenced hloc

/-- A file that was written is where its path is read. -/
theorem readAt_of_write (h : w.write path text = (.ok (), w')) :
    ∃ loc mode, w'.ReadAt path loc ∧ w'.tree.get? loc = some (.file text.toUTF8 mode) := by
  have hcases := write_cases w path text
  rw [h] at hcases
  rcases hcases with ⟨e, hfailed, -⟩ |
    ⟨-, parent, name, dir, made, within, last, mode, hsplit, -, hdir, hfenced, hfree, rfl⟩
  · exact absurd hfailed (by simp)
  have hread : made.ReadAt path (within ++ [last]) :=
    ⟨parent, name, dir, within, last, hsplit, hdir, hfenced, rfl⟩
  have hhere : (made.tree.put (within ++ [last]) (.file text.toUTF8 mode)).get? (within ++ [last])
      = some (.file text.toUTF8 mode) := Tree.get?_put_self _ _ _ (by simp)
  refine ⟨within ++ [last], mode, ?_, hhere⟩
  refine hread.of_thinner rfl (Tree.thinner_put hfree _) fun link hlink => ?_
  exact absurd (hhere.symm.trans hlink) (by simp)

/-- A text that was written is read. -/
theorem read_of_write (h : w.write path text = (.ok (), w')) : w'.read path = .ok text := by
  rcases readAt_of_write h with ⟨loc, mode, hread, hget⟩
  exact hread.read hget

end Workspace

end Storage

end Qualifier
