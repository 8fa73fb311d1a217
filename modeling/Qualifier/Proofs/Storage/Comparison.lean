import Qualifier.Storage.Files

/-!
# Trees Compared by Where Paths Lead

Whether a path leads to the same directory after a change depends on directories and
links alone, since nothing else is walked through. `Thinner` compares two trees by
these, and `directoryAt_of_thinner` is what it is for: where a path leads to a
directory, it leads to the same one in every tree that is no thinner.

Files that come and go leave a tree as thin as it was in both directions, unless one
takes the place of a link or a directory; then the tree gets thinner. A tree from
which nothing at all is taken away is one that `Keeps` its entries, and making
directories adds nothing but these, which is `Widens`.

## Main definitions

* `Entry.conducts`: Entries that a walk goes through.
* `Tree.Thinner`: All directories and links of one tree are in the other.
* `Tree.Keeps`: All entries are.
* `Tree.Widens`: And the others are directories.
* `Tree.LinksAmong`: All links of one tree are in the other.
* `Rules.free`: The rules of a walk that may lead anywhere.
* `Tree.arrival`, `Tree.reach`: The directory that some steps lead to.
* `legInto`: A step to a name, by the entry under it.

## Theorems

* `thinner_of_get?_eq`: Only links and directories are missed when they are replaced.
* `leg_cons`, `leg_cons_cases`: What one step of a walk does.
* `walk_after_link`: How a walk goes on after a link.
* `walk_of_legs`: A walk ends where its stretches do.
* `leg_of_thinner`, `walk_of_thinner`: Walks that succeed are the same.
* `directoryAt_cases`: Opening a directory is a walk, or fails in every tree alike.
* `reach_of_thinner`, `directoryAt_of_thinner`: Directories are found where they were.
* `walk_not_link`: A walk that follows links does not end at one.
* `widens_makeChain`: Making directories adds no more than these.
-/

namespace Qualifier

namespace Storage

/-- Whether a walk can go on from an entry. -/
def Entry.conducts : Entry → Bool
  | .file _ _ => false
  | _ => true

namespace Tree

variable {t t' t'' : Tree}

/-- All directories and links of `t` are in `t'`. -/
def Thinner (t t' : Tree) : Prop :=
  ∀ loc e, e.conducts = true → t.get? loc = some e → t'.get? loc = some e

/-- All entries of `t` are in `t'`. -/
def Keeps (t t' : Tree) : Prop :=
  ∀ loc e, t.get? loc = some e → t'.get? loc = some e

/-- Besides the entries of `t` there are only directories in `t'`. -/
def Widens (t t' : Tree) : Prop :=
  ∀ loc, t'.get? loc = t.get? loc ∨ (t.get? loc = none ∧ t'.get? loc = some .directory)

/-- All links of `t` are in `t'`. -/
def LinksAmong (t t' : Tree) : Prop :=
  ∀ loc link, t.get? loc = some (.link link) → t'.get? loc = some (.link link)

theorem Thinner.refl (t : Tree) : t.Thinner t :=
  fun _ _ _ h => h

theorem Thinner.trans (h : t.Thinner t') (h' : t'.Thinner t'') : t.Thinner t'' :=
  fun loc e he hget => h' loc e he (h loc e he hget)

theorem Keeps.refl (t : Tree) : t.Keeps t :=
  fun _ _ h => h

theorem Keeps.trans (h : t.Keeps t') (h' : t'.Keeps t'') : t.Keeps t'' :=
  fun loc e hget => h' loc e (h loc e hget)

theorem Keeps.thinner (h : t.Keeps t') : t.Thinner t' :=
  fun loc e _ hget => h loc e hget

theorem Widens.refl (t : Tree) : t.Widens t :=
  fun _ => Or.inl rfl

theorem Widens.trans (h : t.Widens t') (h' : t'.Widens t'') : t.Widens t'' := by
  intro loc
  rcases h' loc with hsame | ⟨hfree, hmade⟩
  · rw [hsame]
    exact h loc
  · rcases h loc with hfirst | ⟨_, hfirst⟩
    · exact Or.inr ⟨hfirst.symm.trans hfree, hmade⟩
    · exact absurd (hfirst.symm.trans hfree) (by simp)

theorem Widens.keeps (h : t.Widens t') : t.Keeps t' := by
  intro loc e hget
  rcases h loc with hsame | ⟨hfree, -⟩
  · rw [hsame, hget]
  · exact absurd (hfree.symm.trans hget) (by simp)

/-- A file is not walked through, whatever it takes the place of. -/
theorem thinner_put_file (t : Tree) (loc : Location) (content : ByteArray) (mode : Nat) :
    (t.put loc (.file content mode)).Thinner t := by
  intro other e he hget
  by_cases hother : other = loc
  · subst hother
    by_cases hroot : other = []
    · rw [get?, if_pos hroot] at hget ⊢
      exact hget
    · rw [get?_put_self _ _ _ hroot, Option.some.injEq] at hget
      rw [← hget] at he
      exact absurd he Bool.false_ne_true
  · rwa [get?_put_of_ne _ _ hother] at hget

/-- What is put where nothing is walked through takes away no way. -/
theorem thinner_put {loc : Location} (hloc : ∀ e, t.get? loc = some e → e.conducts = false)
    (entry : Entry) : t.Thinner (t.put loc entry) := by
  intro other e he hget
  by_cases hother : other = loc
  · subst hother
    exact absurd (hloc e hget) (by simp [he])
  · rwa [get?_put_of_ne _ _ hother]

/-- A directory may be put where there is nothing. -/
theorem widens_put {loc : Location} (hfree : t.get? loc = none) :
    t.Widens (t.put loc .directory) := by
  intro other
  by_cases hother : other = loc
  · subst hother
    have hroot : other ≠ [] := by
      rintro rfl
      exact absurd hfree (by simp [get?])
    exact Or.inr ⟨hfree, get?_put_self _ _ _ hroot⟩
  · exact Or.inl (get?_put_of_ne _ _ hother)

theorem keeps_of_erase (t : Tree) (loc : Location) : (t.erase loc).Keeps t := by
  intro other e hget
  by_cases hother : other = loc
  · subst hother
    by_cases hroot : other = []
    · rw [get?, if_pos hroot] at hget ⊢
      exact hget
    · rw [get?_erase_self _ _ hroot] at hget
      exact absurd hget (by simp)
  · rwa [get?_erase_of_ne _ hother] at hget

theorem Widens.linksAmong (h : t.Widens t') : t'.LinksAmong t := by
  intro loc link hget
  rcases h loc with hsame | ⟨-, hmade⟩
  · rw [← hsame, hget]
  · exact absurd (hget.symm.trans hmade) (by simp)

/-- Whatever comes in the place of something that is not walked through takes away no way. -/
theorem thinner_of_get?_eq {loc : Location} {entry : Option Entry}
    (hget : ∀ other, t'.get? other = if other = loc then entry else t.get? other)
    (hnot : t.get? loc ≠ some .directory) (hlink : ∀ link, t.get? loc ≠ some (.link link)) :
    t.Thinner t' := by
  intro other e he hthere
  rw [hget]
  by_cases hloc : other = loc
  · subst hloc
    cases e with
    | directory => exact absurd hthere hnot
    | link link => exact absurd hthere (hlink link)
    | file content mode => exact absurd he Bool.false_ne_true
  · rw [if_neg hloc, hthere]

end Tree

/-- A place that is a directory, or was reached as one. -/
def Target.IsDirectory (t : Tree) : Target → Prop
  | .directory _ => True
  | .entry within name _ => t.get? (within ++ [name]) = some .directory

/-- A stretch of a walk that ends at a link to follow or at a directory. -/
def Leg.Leads (t : Tree) : Leg → Prop
  | .through _ _ _ => True
  | .arrived (.ok target) => target.IsDirectory t
  | .arrived (.error _) => False

/-- The rules of a walk that may lead anywhere and follows the link at its end. -/
def Rules.free : Rules :=
  ⟨none, true⟩

namespace Tree

/-- The directory at the end of a walk. -/
def arrival (t : Tree) : Except Fault Target → Except Fault Location
  | .error fault => .error fault
  | .ok (.directory loc) => .ok loc
  | .ok (.entry within name _) =>
    match t.get? (within ++ [name]) with
    | some .directory => .ok (within ++ [name])
    | some _ => .error .notDirectory
    | none => .error .notFound

/-- The directory that some steps lead to. -/
def reach (t : Tree) (links : Nat) (slash : Bool) (loc : Location) (steps : List String) :
    Except Fault Location :=
  t.arrival (walk t .free links slash loc steps)

end Tree

variable {t t' : Tree} {rules : Rules}

/-- What a step to a name comes to, by the entry under that name. -/
def legInto (t : Tree) (rules : Rules) (slash : Bool) (loc : Location) (step : String)
    (rest : List String) : Option Entry → Leg
  | some (.link target) =>
    if rest = [] && !(rules.follow || slash) then .arrived (.ok (.entry loc step slash))
    else .through loc target rest
  | some .directory =>
    if rest = [] then .arrived (.ok (.entry loc step slash))
    else leg t rules slash (loc ++ [step]) rest
  | some (.file _ _) =>
    .arrived (if rest = [] then .ok (.entry loc step slash) else .error .notDirectory)
  | none => .arrived (if rest = [] then .ok (.entry loc step slash) else .error .notFound)

theorem leg_cons (t : Tree) (rules : Rules) (slash : Bool) (loc : Location) (step : String)
    (rest : List String) :
    leg t rules slash loc (step :: rest) =
      if step = "." then leg t rules slash loc rest
      else if step = ".." then
        if rules.fence = some loc then .arrived (.error .outside)
        else leg t rules slash loc.dropLast rest
      else if nameLimit < step.utf8ByteSize then .arrived (.error .nameTooLong)
      else legInto t rules slash loc step rest (t.get? (loc ++ [step])) := by
  rw [leg.eq_def]
  -- The tests on the step are the same; only the look at the entry is told apart.
  refine ite_congr rfl (fun _ => rfl) fun _ => ite_congr rfl (fun _ => rfl) fun _ =>
    ite_congr rfl (fun _ => rfl) fun _ => ?_
  rcases t.get? (loc ++ [step]) with _ | e
  · cases rest <;> rfl
  · cases e with
    | directory => cases rest <;> rfl
    | file content mode => cases rest <;> rfl
    | link target =>
        cases rest with
        | nil => cases hfollow : rules.follow || slash <;> simp [legInto, hfollow]
        | cons next rest => rfl

/-- A step stays or goes up, fails for what it is, or depends on the entry under its
    name. Only the last has to do with the tree. -/
theorem leg_cons_cases (rules : Rules) (slash : Bool) (loc : Location) (step : String)
    (rest : List String) :
    (∃ loc', ∀ t, leg t rules slash loc (step :: rest) = leg t rules slash loc' rest) ∨
    (∃ fault, ∀ t, leg t rules slash loc (step :: rest) = .arrived (.error fault)) ∨
    ∀ t, leg t rules slash loc (step :: rest) =
      legInto t rules slash loc step rest (t.get? (loc ++ [step])) := by
  by_cases hdot : step = "."
  · exact Or.inl ⟨loc, fun t => by rw [leg_cons, if_pos hdot]⟩
  by_cases hdots : step = ".."
  · by_cases hfence : rules.fence = some loc
    · refine Or.inr (Or.inl ⟨.outside, fun t => ?_⟩)
      rw [leg_cons, if_neg hdot, if_pos hdots, if_pos hfence]
    · refine Or.inl ⟨loc.dropLast, fun t => ?_⟩
      rw [leg_cons, if_neg hdot, if_pos hdots, if_neg hfence]
  by_cases hlong : nameLimit < step.utf8ByteSize
  · refine Or.inr (Or.inl ⟨.nameTooLong, fun t => ?_⟩)
    rw [leg_cons, if_neg hdot, if_neg hdots, if_pos hlong]
  · refine Or.inr (Or.inr fun t => ?_)
    rw [leg_cons, if_neg hdot, if_neg hdots, if_neg hlong]

/-- At the last step a walk ends at the name, whatever is there, unless it is a link. -/
theorem legInto_nil {e : Option Entry} (he : ∀ link, e ≠ some (.link link)) (t : Tree)
    (rules : Rules) (slash : Bool) (loc : Location) (step : String) :
    legInto t rules slash loc step [] e = .arrived (.ok (.entry loc step slash)) := by
  rcases e with _ | e
  · rfl
  · cases e with
    | link link => exact absurd rfl (he link)
    | directory => rfl
    | file content mode => rfl

/-- Up to the next link, a walk that leads somewhere does so in every tree that is no
    thinner. -/
theorem leg_of_thinner (h : t.Thinner t') (slash : Bool) (loc : Location)
    (steps : List String) (hleads : (leg t rules slash loc steps).Leads t) :
    leg t' rules slash loc steps = leg t rules slash loc steps := by
  induction steps generalizing loc with
  | nil => rfl
  | cons step rest ih =>
      rcases leg_cons_cases rules slash loc step rest with ⟨loc', hgo⟩ | ⟨fault, hgo⟩ | hgo
      · rw [hgo t] at hleads ⊢
        rw [hgo t']
        exact ih loc' hleads
      · rw [hgo t, hgo t']
      · rw [hgo t] at hleads ⊢
        rw [hgo t']
        by_cases hlink : ∃ link, t.get? (loc ++ [step]) = some (.link link)
        · rcases hlink with ⟨link, hlink⟩
          rw [hlink, h _ _ rfl hlink]
          rfl
        · have hnot : ∀ link, t.get? (loc ++ [step]) ≠ some (.link link) :=
            fun link hget => hlink ⟨link, hget⟩
          -- Without a link only a directory leads on, and the other tree has it as well.
          have hdir : t.get? (loc ++ [step]) = some .directory := by
            cases rest with
            | nil =>
                rw [legInto_nil hnot] at hleads
                exact hleads
            | cons next rest =>
                rcases hget : t.get? (loc ++ [step]) with _ | e
                · rw [hget] at hleads
                  exact hleads.elim
                · cases e with
                  | directory => rfl
                  | link link => exact absurd hget (hnot link)
                  | file content mode =>
                      rw [hget] at hleads
                      exact hleads.elim
          rw [h _ _ rfl hdir, hdir]
          rw [hdir] at hleads
          cases rest with
          | nil => rfl
          | cons next rest => exact ih _ hleads

theorem walk_of_arrived {links : Nat} {slash : Bool} {loc : Location} {steps : List String}
    {result : Except Fault Target} (h : leg t rules slash loc steps = .arrived result) :
    walk t rules links slash loc steps = result := by
  unfold walk
  rw [h]

theorem walk_zero_of_through {slash : Bool} {loc place : Location} {steps rest : List String}
    {link : String} (h : leg t rules slash loc steps = .through place link rest) :
    walk t rules 0 slash loc steps = .error .tooManyLinks := by
  unfold walk
  rw [h]

/-- How a walk goes on after a link depends on the link and not on the tree: it is
    ended by the fence, or goes on from some place along some steps. -/
theorem walk_after_link (rules : Rules) (slash : Bool) (place : Location) (link : String)
    (rest : List String) :
    (∀ t links loc steps, leg t rules slash loc steps = .through place link rest →
      walk t rules (links + 1) slash loc steps = .error .outside) ∨
    ∃ slash' loc' steps', ∀ t links loc steps,
      leg t rules slash loc steps = .through place link rest →
      walk t rules (links + 1) slash loc steps = walk t rules links slash' loc' steps' := by
  let slash' := if rest = [] then slash || (Route.ofText link).slash else slash
  let steps' := (Route.ofText link).steps ++ rest
  by_cases hroot : (Route.ofText link).fromRoot
  · by_cases hfence : rules.fence.isSome
    · refine Or.inl fun t links loc steps h => ?_
      rw [walk, h]
      simp only [hroot, hfence, if_true]
    · refine Or.inr ⟨slash', [], steps', fun t links loc steps h => ?_⟩
      rw [walk, h]
      simp only [hroot, if_true, if_neg hfence, slash', steps']
  · refine Or.inr ⟨slash', place, steps', fun t links loc steps h => ?_⟩
    rw [walk, h]
    simp only [if_neg hroot, slash', steps']

/-- Where a walk ends in one tree it ends in every tree that is no thinner, if this is so of
    each of its stretches. The induction is on the links it may still follow. -/
theorem walk_of_legs (h : t.Thinner t') {target : Target}
    (hlegs : ∀ slash loc steps, leg t rules slash loc steps = .arrived (.ok target) →
      leg t' rules slash loc steps = .arrived (.ok target))
    (links : Nat) (slash : Bool) (loc : Location) (steps : List String)
    (hwalk : walk t rules links slash loc steps = .ok target) :
    walk t' rules links slash loc steps = .ok target := by
  induction links generalizing slash loc steps with
  | zero =>
      rcases hleg : leg t rules slash loc steps with result | ⟨place, link, rest⟩
      · rw [walk_of_arrived hleg] at hwalk
        subst hwalk
        exact walk_of_arrived (hlegs slash loc steps hleg)
      · rw [walk_zero_of_through hleg] at hwalk
        exact absurd hwalk (by simp)
  | succ links ih =>
      rcases hleg : leg t rules slash loc steps with result | ⟨place, link, rest⟩
      · rw [walk_of_arrived hleg] at hwalk
        subst hwalk
        exact walk_of_arrived (hlegs slash loc steps hleg)
      -- Both walks meet the same link, and go on from it in the same way.
      · have hleg' := (leg_of_thinner h slash loc steps (by rw [hleg]; trivial)).trans hleg
        rcases walk_after_link rules slash place link rest with hout | ⟨_, _, _, hgo⟩
        · rw [hout t links loc steps hleg] at hwalk
          exact absurd hwalk (by simp)
        · rw [hgo t links loc steps hleg] at hwalk
          rw [hgo t' links loc steps hleg']
          exact ih _ _ _ hwalk

/-- A walk that gets to a directory gets there in every tree that is no thinner. -/
theorem walk_of_thinner (h : t.Thinner t') (links : Nat) (slash : Bool) (loc : Location)
    (steps : List String) (target : Target)
    (hwalk : walk t rules links slash loc steps = .ok target)
    (htarget : target.IsDirectory t) : walk t' rules links slash loc steps = .ok target := by
  refine walk_of_legs h ?_ links slash loc steps hwalk
  intro slash loc steps hleg
  exact (leg_of_thinner h slash loc steps (hleg ▸ htarget)).trans hleg

/-- A walk that got to a directory gets there in every tree that is no thinner. -/
theorem reach_of_thinner (h : t.Thinner t') {links : Nat} {slash : Bool} {loc dir : Location}
    {steps : List String} (hdir : t.reach links slash loc steps = .ok dir) :
    t'.reach links slash loc steps = .ok dir := by
  unfold Tree.reach at hdir ⊢
  rcases hwalk : walk t .free links slash loc steps with fault | target
  · rw [hwalk] at hdir
    exact absurd hdir (by simp [Tree.arrival])
  rw [hwalk] at hdir
  cases target with
  | directory place =>
      rw [walk_of_thinner h _ _ _ _ _ hwalk trivial]
      exact hdir
  | entry within name closed =>
      rcases hget : t.get? (within ++ [name]) with _ | e
      · simp [Tree.arrival, hget] at hdir
      · cases e with
        | directory =>
            rw [walk_of_thinner h _ _ _ _ _ hwalk hget]
            simp only [Tree.arrival, hget, h _ _ rfl hget] at hdir ⊢
            exact hdir
        | _ => simp [Tree.arrival, hget] at hdir

/-- Opening a directory is a walk, unless the path is one that no tree can follow. -/
theorem directoryAt_cases (workingDirectory : Location) (path : Path) :
    (∃ fault, ∀ t : Tree, t.directoryAt workingDirectory path = .error fault) ∨
    ∃ slash loc steps, ∀ t : Tree,
      t.directoryAt workingDirectory path = t.reach linkLimit slash loc steps := by
  have harrival : ∀ t : Tree, t.directoryAt workingDirectory path =
      t.arrival (t.target .free workingDirectory path) := by
    intro t
    unfold Tree.directoryAt Tree.arrival Rules.free
    rcases t.target ⟨none, true⟩ workingDirectory path with fault | target
    · rfl
    · cases target <;> rfl
  simp only [harrival, Tree.target]
  by_cases hnul : '\x00' ∈ path.text.toList
  · exact Or.inl ⟨.nulInPath, fun t => by rw [if_pos hnul]; rfl⟩
  by_cases hlong : pathLimit ≤ path.text.utf8ByteSize
  · exact Or.inl ⟨.nameTooLong, fun t => by rw [if_neg hnul, if_pos hlong]; rfl⟩
  by_cases hempty : path.text = ""
  · exact Or.inl ⟨.notFound, fun t => by rw [if_neg hnul, if_neg hlong, if_pos hempty]; rfl⟩
  · exact Or.inr ⟨_, _, _, fun t => by rw [if_neg hnul, if_neg hlong, if_neg hempty]; rfl⟩

/-- A directory is found where it was in every tree that is no thinner. -/
theorem directoryAt_of_thinner (h : t.Thinner t') {workingDirectory dir : Location}
    {path : Path} (hdir : t.directoryAt workingDirectory path = .ok dir) :
    t'.directoryAt workingDirectory path = .ok dir := by
  rcases directoryAt_cases workingDirectory path with ⟨fault, hgo⟩ | ⟨slash, loc, steps, hgo⟩
  · exact absurd ((hgo t).symm.trans hdir) (by simp)
  · rw [hgo t] at hdir
    rw [hgo t']
    exact reach_of_thinner h hdir

/-- A stretch of a walk that follows links does not end at one. -/
theorem leg_not_link (hfollow : rules.follow = true) (slash : Bool) (loc : Location)
    (steps : List String) {within : Location} {name : String} {closed : Bool}
    (hleg : leg t rules slash loc steps = .arrived (.ok (.entry within name closed)))
    (link : String) : t.get? (within ++ [name]) ≠ some (.link link) := by
  induction steps generalizing loc with
  | nil => simp [leg] at hleg
  | cons step rest ih =>
      rcases leg_cons_cases rules slash loc step rest with ⟨loc', hgo⟩ | ⟨fault, hgo⟩ | hgo
      · rw [hgo t] at hleg
        exact ih loc' hleg
      · rw [hgo t] at hleg
        exact absurd hleg (by simp)
      · rw [hgo t] at hleg
        by_cases hlink : ∃ link, t.get? (loc ++ [step]) = some (.link link)
        · rcases hlink with ⟨link', hlink⟩
          simp [hlink, legInto, hfollow] at hleg
        · have hnot : ∀ link, t.get? (loc ++ [step]) ≠ some (.link link) :=
            fun link hget => hlink ⟨link, hget⟩
          cases rest with
          | nil =>
              rw [legInto_nil hnot, Leg.arrived.injEq, Except.ok.injEq,
                Target.entry.injEq] at hleg
              rcases hleg with ⟨rfl, rfl, -⟩
              exact hnot link
          | cons next rest =>
              rcases hget : t.get? (loc ++ [step]) with _ | e
              · simp [hget, legInto] at hleg
              · cases e with
                | link link' => exact absurd hget (hnot link')
                | file content mode => simp [hget, legInto] at hleg
                | directory =>
                    rw [hget] at hleg
                    exact ih _ hleg

theorem walk_not_link (hfollow : rules.follow = true) (links : Nat) (slash : Bool)
    (loc : Location) (steps : List String) {within : Location} {name : String} {closed : Bool}
    (hwalk : walk t rules links slash loc steps = .ok (.entry within name closed))
    (link : String) : t.get? (within ++ [name]) ≠ some (.link link) := by
  induction links generalizing slash loc steps with
  | zero =>
      rcases hleg : leg t rules slash loc steps with result | ⟨place, text, rest⟩
      · rw [walk_of_arrived hleg] at hwalk
        exact leg_not_link hfollow slash loc steps (hwalk ▸ hleg) link
      · rw [walk_zero_of_through hleg] at hwalk
        exact absurd hwalk (by simp)
  | succ links ih =>
      rcases hleg : leg t rules slash loc steps with result | ⟨place, text, rest⟩
      · rw [walk_of_arrived hleg] at hwalk
        exact leg_not_link hfollow slash loc steps (hwalk ▸ hleg) link
      · rcases walk_after_link rules slash place text rest with hout | ⟨_, _, _, hgo⟩
        · rw [hout t links loc steps hleg] at hwalk
          exact absurd hwalk (by simp)
        · rw [hgo t links loc steps hleg] at hwalk
          exact ih _ _ _ hwalk

namespace Tree

/-- Making a directory adds it, and nothing else. -/
theorem widens_of_makeDirectory {workingDirectory : Location} {path : Path}
    (h : t.makeDirectory workingDirectory path = .ok t') : t.Widens t' := by
  unfold Tree.makeDirectory at h
  rcases hok : t.target ⟨none, false⟩ workingDirectory path with fault | target
  · simp [hok] at h
  · rw [hok] at h
    cases target with
    | directory loc => simp at h
    | entry within name slash =>
        simp only at h
        rcases hget : t.get? (within ++ [name]) with _ | e
        · rw [hget] at h
          simp only [Except.ok.injEq] at h
          exact h ▸ widens_put hget
        · simp [hget] at h

/-- Making directories adds no more than these, whether or not all of them can be
    made. -/
theorem widens_makeChain (workingDirectory : Location) (paths : List Path) (t : Tree) :
    t.Widens (Tree.makeChain workingDirectory paths t).2 := by
  induction paths generalizing t with
  | nil => exact Widens.refl t
  | cons path leading ih =>
      unfold Tree.makeChain
      by_cases hempty : path.text = ""
      · rw [if_pos hempty]
        exact Widens.refl t
      rw [if_neg hempty]
      rcases hmake : t.makeDirectory workingDirectory path with fault | made
      · by_cases hmissing : fault = .notFound
        · subst hmissing
          have hwidens := ih t
          rcases hchain : Tree.makeChain workingDirectory leading t with ⟨fault | _, led⟩
          · rw [hchain] at hwidens
            simp only
            exact hwidens
          · rw [hchain] at hwidens
            simp only
            -- With the way there made, the directory is tried once more.
            rcases hagain : led.makeDirectory workingDirectory path with fault | made
            · simp only
              split <;> exact hwidens
            · exact hwidens.trans (widens_of_makeDirectory hagain)
        · simp only
          split <;> exact Widens.refl t
      · exact widens_of_makeDirectory hmake

end Tree

end Storage

end Qualifier
