import Qualifier.Proofs.Storage.Comparison

/-!
# Where Two Walks Part

A path is followed before something was written and again afterwards. `Comparison` says
when both get to the same directory; this module says what becomes of a path that does
not. The two walks go together until they look up a name under which the trees differ, and
from there on each goes by what it finds (`reach_parts`). If a tree was only overlaid, which
is all that writing does to it, then one of them ends right there: before, there was
nothing under the name, or afterwards there is a file.

Some failures are therefore final. A name is `Sealed` if a walk that comes to it fails, and
not for want of an entry; it stays so whatever else is written. A file is sealed, and so is a
link behind which a file has been written, since the fenced walk to that file is one that
any other walk through the link has to repeat.

## Main definitions

* `LooksUp`: A step that looks a name up.
* `Parts`: Two walks that part at a name.
* `Tree.Overlays`: Entries put where there were none, and files anywhere.
* `Tree.Sealed`, `Tree.DeadEnd`: Names that lead to no directory, for good or for now.

## Theorems

* `leg_parts`, `reach_parts`: Walks that do not end alike part at a name.
* `Tree.Overlays.reach`: What becomes of a walk in a tree that was overlaid.
* `reach_past_file`: No walk leads on from where a fenced one has found a file.
* `directoryAt_of_erase`: A dead end can be taken away without loss.
-/

namespace Qualifier

namespace Storage

namespace Tree

/-- Some entries of `t'` stand where there are none in `t`, and some are files. -/
def Overlays (t t' : Tree) : Prop :=
  ∀ loc, t'.get? loc = t.get? loc ∨ t.get? loc = none ∨
    ∃ content mode, t'.get? loc = some (.file content mode)

/-- A walk that comes to the name fails, and not for want of an entry. -/
def Sealed (t : Tree) (loc : Location) (name : String) : Prop :=
  ∀ links slash rest, ∃ fault, fault ≠ .notFound ∧
    t.reach links slash loc (name :: rest) = .error fault

/-- A walk that comes to the name fails. -/
def DeadEnd (t : Tree) (loc : Location) (name : String) : Prop :=
  ∀ links slash rest dir, t.reach links slash loc (name :: rest) ≠ .ok dir

end Tree

/-- The next step looks the name up and goes on by what is there. -/
def LooksUp (rules : Rules) (slash : Bool) (loc : Location) (step : String)
    (rest : List String) : Prop :=
  ∀ t, leg t rules slash loc (step :: rest) =
    legInto t rules slash loc step rest (t.get? (loc ++ [step]))

/-- Two walks come to a name under which the trees differ, and end as they do from there. -/
def Parts (t t' : Tree) (ending ending' : Except Fault Location) : Prop :=
  ∃ links slash loc step rest, LooksUp .free slash loc step rest ∧
    t'.get? (loc ++ [step]) ≠ t.get? (loc ++ [step]) ∧
    ending = t.reach links slash loc (step :: rest) ∧
    ending' = t'.reach links slash loc (step :: rest)

variable {t t' t'' : Tree}

/-! ## The place where walks part -/

theorem walk_congr_leg {rules : Rules} {slash : Bool} {loc loc' : Location}
    {steps steps' : List String} (h : leg t rules slash loc steps = leg t rules slash loc' steps')
    (links : Nat) : walk t rules links slash loc steps = walk t rules links slash loc' steps' := by
  rw [walk, walk, h]

/-- After a look at an entry a walk goes on from a directory, or is over up to the next link:
    at the entry itself, with a failure, or at a link. -/
theorem legInto_cases (rules : Rules) (slash : Bool) (loc : Location) (step : String)
    (rest : List String) (e : Option Entry) :
    (∀ t, legInto t rules slash loc step rest e = leg t rules slash (loc ++ [step]) rest) ∨
    ∃ ending, (∀ t, legInto t rules slash loc step rest e = ending) ∧
      ∀ result, ending = .arrived result →
        result = .ok (.entry loc step slash) ∨ ∃ fault, result = .error fault := by
  have hhere : ∀ result, Leg.arrived (.ok (.entry loc step slash)) = .arrived result →
      result = .ok (.entry loc step slash) ∨ ∃ fault, result = .error fault :=
    fun result h => Or.inl (Leg.arrived.inj h).symm
  have hfails : ∀ fault result, Leg.arrived (.error fault) = .arrived result →
      result = .ok (.entry loc step slash) ∨ ∃ fault, result = .error fault :=
    fun fault result h => Or.inr ⟨fault, (Leg.arrived.inj h).symm⟩
  by_cases hlink : ∃ link, e = some (.link link)
  · rcases hlink with ⟨link, rfl⟩
    by_cases hlast : (rest = [] && !(rules.follow || slash)) = true
    · exact Or.inr ⟨_, fun t => if_pos hlast, hhere⟩
    · exact Or.inr ⟨_, fun t => if_neg hlast, fun result h => absurd h (by simp)⟩
  · have hnot : ∀ link, e ≠ some (.link link) := fun link h => hlink ⟨link, h⟩
    cases rest with
    | nil => exact Or.inr ⟨_, fun t => legInto_nil hnot t rules slash loc step, hhere⟩
    | cons next rest =>
        rcases e with _ | e
        · exact Or.inr ⟨_, fun t => rfl, hfails _⟩
        · cases e with
          | link link => exact absurd rfl (hnot link)
          | file content mode => exact Or.inr ⟨_, fun t => rfl, hfails _⟩
          | directory => exact Or.inl fun t => rfl

/-- Up to the next link, walks are the same or come to a name under which the trees differ. -/
theorem leg_parts (t t' : Tree) (slash : Bool) (loc : Location) (steps : List String) :
    (leg t' .free slash loc steps = leg t .free slash loc steps ∧
      ∀ result, leg t .free slash loc steps = .arrived result →
        t'.arrival result = t.arrival result) ∨
    ∃ loc' step rest, LooksUp .free slash loc' step rest ∧
      t'.get? (loc' ++ [step]) ≠ t.get? (loc' ++ [step]) ∧
      leg t .free slash loc steps = leg t .free slash loc' (step :: rest) ∧
      leg t' .free slash loc steps = leg t' .free slash loc' (step :: rest) := by
  induction steps generalizing loc with
  | nil =>
      refine Or.inl ⟨rfl, fun result h => ?_⟩
      rw [← Leg.arrived.inj h]
      rfl
  | cons step rest ih =>
      rcases leg_cons_cases .free slash loc step rest with ⟨loc', hgo⟩ | ⟨fault, hgo⟩ | hgo
      · rw [hgo t, hgo t']
        exact ih loc'
      · rw [hgo t, hgo t']
        refine Or.inl ⟨rfl, fun result h => ?_⟩
        rw [← Leg.arrived.inj h]
        rfl
      by_cases hsame : t'.get? (loc ++ [step]) = t.get? (loc ++ [step])
      · rw [hgo t, hgo t', hsame]
        rcases legInto_cases .free slash loc step rest (t.get? (loc ++ [step])) with
          hinto | ⟨ending, hinto, hending⟩
        · rw [hinto t, hinto t']
          exact ih _
        · rw [hinto t, hinto t']
          refine Or.inl ⟨rfl, fun result h => ?_⟩
          rcases hending result h with rfl | ⟨fault, rfl⟩
          · simp only [Tree.arrival, hsame]
          · rfl
      · exact Or.inr ⟨loc, step, rest, hgo, hsame, rfl, rfl⟩

/-- Walks that do not end alike part at a name. The induction is on the links they may still
    follow, since they go through the same ones until then. -/
theorem reach_parts (t t' : Tree) (links : Nat) (slash : Bool) (loc : Location)
    (steps : List String) :
    t'.reach links slash loc steps = t.reach links slash loc steps ∨
      Parts t t' (t.reach links slash loc steps) (t'.reach links slash loc steps) := by
  induction links using Nat.strongRecOn generalizing slash loc steps with
  | ind links ih =>
      rcases leg_parts t t' slash loc steps with
        ⟨hleg, harrival⟩ | ⟨loc', step, rest, hlooks, hdiffer, hleg, hleg'⟩
      · -- Together they arrive, or they meet the same link and go on from it in the same way.
        rw [Tree.reach, Tree.reach]
        rcases hresult : leg t .free slash loc steps with result | ⟨place, link, rest⟩
        · rw [walk_of_arrived hresult, walk_of_arrived (hleg.trans hresult)]
          exact Or.inl (harrival result hresult)
        cases links with
        | zero =>
            rw [walk_zero_of_through hresult, walk_zero_of_through (hleg.trans hresult)]
            exact Or.inl rfl
        | succ links =>
            rcases walk_after_link .free slash place link rest with
              hout | ⟨slash', loc', steps', hgo⟩
            · rw [hout t links loc steps hresult, hout t' links loc steps (hleg.trans hresult)]
              exact Or.inl rfl
            · rw [hgo t links loc steps hresult, hgo t' links loc steps (hleg.trans hresult)]
              exact ih links (Nat.lt_succ_self links) slash' loc' steps'
      · refine Or.inr ⟨links, slash, loc', step, rest, hlooks, hdiffer, ?_, ?_⟩
        · exact congrArg t.arrival (walk_congr_leg hleg links)
        · exact congrArg t'.arrival (walk_congr_leg hleg' links)

/-! ## What is found under the name -/

theorem reach_of_none {links : Nat} {slash : Bool} {loc : Location} {step : String}
    {rest : List String} (hlooks : LooksUp .free slash loc step rest)
    (hget : t.get? (loc ++ [step]) = none) :
    t.reach links slash loc (step :: rest) = .error .notFound := by
  have hleg : leg t .free slash loc (step :: rest) =
      .arrived (if rest = [] then .ok (.entry loc step slash) else .error .notFound) := by
    rw [hlooks t, hget]
    rfl
  rw [Tree.reach, walk_of_arrived hleg]
  split
  · simp only [Tree.arrival, hget]
  · rfl

theorem reach_of_file {links : Nat} {slash : Bool} {loc : Location} {step : String}
    {rest : List String} {content : ByteArray} {mode : Nat}
    (hlooks : LooksUp .free slash loc step rest)
    (hget : t.get? (loc ++ [step]) = some (.file content mode)) :
    t.reach links slash loc (step :: rest) = .error .notDirectory := by
  have hleg : leg t .free slash loc (step :: rest) =
      .arrived (if rest = [] then .ok (.entry loc step slash) else .error .notDirectory) := by
    rw [hlooks t, hget]
    rfl
  rw [Tree.reach, walk_of_arrived hleg]
  split
  · simp only [Tree.arrival, hget]
  · rfl

namespace Tree

theorem Overlays.trans (h : t.Overlays t') (h' : t'.Overlays t'') : t.Overlays t'' := by
  intro loc
  rcases h' loc with hsame | hnone | hfile
  · rw [hsame]
    exact h loc
  · rcases h loc with hfirst | hfirst | ⟨content, mode, hfirst⟩
    · exact Or.inr (Or.inl (hfirst.symm.trans hnone))
    · exact Or.inr (Or.inl hfirst)
    · exact absurd (hfirst.symm.trans hnone) (by simp)
  · exact Or.inr (Or.inr hfile)

theorem Widens.overlays (h : t.Widens t') : t.Overlays t' := by
  intro loc
  rcases h loc with hsame | ⟨hnone, -⟩
  · exact Or.inl hsame
  · exact Or.inr (Or.inl hnone)

/-- In a tree that was overlaid a walk ends as it did, or it had failed for want of an entry,
    or it is ended by a file. -/
theorem Overlays.reach (h : t.Overlays t') (links : Nat) (slash : Bool) (loc : Location)
    (steps : List String) :
    t'.reach links slash loc steps = t.reach links slash loc steps ∨
      t.reach links slash loc steps = .error .notFound ∨
      t'.reach links slash loc steps = .error .notDirectory := by
  rcases reach_parts t t' links slash loc steps with
    hsame | ⟨links', slash', loc', step, rest, hlooks, hdiffer, hend, hend'⟩
  · exact Or.inl hsame
  · rcases h (loc' ++ [step]) with hget | hget | ⟨content, mode, hget⟩
    · exact absurd hget hdiffer
    · exact Or.inr (Or.inl (hend.trans (reach_of_none hlooks hget)))
    · exact Or.inr (Or.inr (hend'.trans (reach_of_file hlooks hget)))

theorem Overlays.directoryAt (h : t.Overlays t') (workingDirectory : Location) (path : Path) :
    t'.directoryAt workingDirectory path = t.directoryAt workingDirectory path ∨
      t.directoryAt workingDirectory path = .error .notFound ∨
      t'.directoryAt workingDirectory path = .error .notDirectory := by
  rcases directoryAt_cases workingDirectory path with ⟨fault, hgo⟩ | ⟨slash, loc, steps, hgo⟩
  · exact Or.inl (by rw [hgo t, hgo t'])
  · rw [hgo t, hgo t']
    exact h.reach _ _ _ _

/-- What is sealed stays so. -/
theorem Sealed.of_overlays {loc : Location} {name : String} (h : t.Sealed loc name)
    (hover : t.Overlays t') : t'.Sealed loc name := by
  intro links slash rest
  rcases h links slash rest with ⟨fault, hfault, hend⟩
  rcases hover.reach links slash loc (name :: rest) with hsame | hnone | hfile
  · exact ⟨fault, hfault, hsame.trans hend⟩
  · exact absurd (Except.error.inj (hend.symm.trans hnone)) hfault
  · exact ⟨.notDirectory, by decide, hfile⟩

theorem Sealed.deadEnd {loc : Location} {name : String} (h : t.Sealed loc name) :
    t.DeadEnd loc name := by
  intro links slash rest dir hdir
  rcases h links slash rest with ⟨fault, -, hend⟩
  exact absurd (hend.symm.trans hdir) (by simp)

/-- A dead end stays one in every thinner tree. -/
theorem DeadEnd.of_thinner {loc : Location} {name : String} (h : t.DeadEnd loc name)
    (hthin : t'.Thinner t) : t'.DeadEnd loc name :=
  fun links slash rest dir hdir => h links slash rest dir (reach_of_thinner hthin hdir)

end Tree

/-- A dead end can be taken away: what led to a directory still does. -/
theorem directoryAt_of_erase {within workingDirectory dir : Location} {name : String}
    {path : Path} (hdead : t.DeadEnd within name)
    (hsame : ∀ loc, loc ≠ within ++ [name] → t'.get? loc = t.get? loc)
    (hdir : t.directoryAt workingDirectory path = .ok dir) :
    t'.directoryAt workingDirectory path = .ok dir := by
  rcases directoryAt_cases workingDirectory path with ⟨fault, hgo⟩ | ⟨slash, loc, steps, hgo⟩
  · exact absurd ((hgo t).symm.trans hdir) (by simp)
  rw [hgo t] at hdir
  rw [hgo t']
  rcases reach_parts t t' linkLimit slash loc steps with
    hend | ⟨links', slash', loc', step, rest, -, hdiffer, hend, -⟩
  · rw [hend, hdir]
  · -- The only name under which they differ is the dead end.
    have hplace : loc' ++ [step] = within ++ [name] :=
      Decidable.byContradiction fun hne => hdiffer (hsame _ hne)
    rcases List.append_inj' hplace rfl with ⟨rfl, hname⟩
    obtain rfl := List.singleton_inj.mp hname
    exact absurd (hend.symm.trans hdir) (hdead links' slash' rest dir)

/-! ## Behind a link to a file -/

/-- What a fenced walk does at a step that does not end it, a free one does as well. -/
theorem leg_cons_fenced (fence loc : Location) (step : String) :
    (∃ loc', ∀ t slash rest,
      leg t ⟨some fence, true⟩ slash loc (step :: rest) = leg t ⟨some fence, true⟩ slash loc' rest ∧
      leg t .free slash loc (step :: rest) = leg t .free slash loc' rest) ∨
    (∃ fault, ∀ t slash rest,
      leg t ⟨some fence, true⟩ slash loc (step :: rest) = .arrived (.error fault)) ∨
    ∀ slash rest, LooksUp ⟨some fence, true⟩ slash loc step rest ∧
      LooksUp .free slash loc step rest := by
  by_cases hdot : step = "."
  · refine Or.inl ⟨loc, fun t slash rest => ⟨?_, ?_⟩⟩ <;> rw [leg_cons, if_pos hdot]
  by_cases hdots : step = ".."
  · by_cases hfence : some fence = some loc
    · refine Or.inr (Or.inl ⟨.outside, fun t slash rest => ?_⟩)
      rw [leg_cons, if_neg hdot, if_pos hdots, if_pos hfence]
    · refine Or.inl ⟨loc.dropLast, fun t slash rest => ⟨?_, ?_⟩⟩
      · rw [leg_cons, if_neg hdot, if_pos hdots, if_neg hfence]
      · rw [leg_cons, if_neg hdot, if_pos hdots, if_neg (by simp [Rules.free])]
  by_cases hlong : nameLimit < step.utf8ByteSize
  · refine Or.inr (Or.inl ⟨.nameTooLong, fun t slash rest => ?_⟩)
    rw [leg_cons, if_neg hdot, if_neg hdots, if_pos hlong]
  · refine Or.inr (Or.inr fun slash rest => ⟨fun t => ?_, fun t => ?_⟩) <;>
      rw [leg_cons, if_neg hdot, if_neg hdots, if_neg hlong]

/-- Up to the next link, a walk with more steps to go repeats a fenced one in every tree that
    is no thinner: it comes to the same link, or to the name at which that one ended. -/
theorem leg_past (h : t.Thinner t') (fence : Location) (slash slash' : Bool) (loc : Location)
    (steps rest : List String) :
    (∀ place link more, leg t ⟨some fence, true⟩ slash loc steps = .through place link more →
      leg t' .free slash' loc (steps ++ rest) = .through place link (more ++ rest)) ∧
    ∀ within name closed,
      leg t ⟨some fence, true⟩ slash loc steps = .arrived (.ok (.entry within name closed)) →
      LooksUp .free slash' within name rest ∧
        leg t' .free slash' loc (steps ++ rest) = leg t' .free slash' within (name :: rest) := by
  induction steps generalizing loc with
  | nil => simp [leg]
  | cons step steps ih =>
      rw [List.cons_append]
      rcases leg_cons_fenced fence loc step with ⟨loc', hgo⟩ | ⟨fault, hgo⟩ | hgo
      · rw [(hgo t slash steps).1, (hgo t' slash' (steps ++ rest)).2]
        exact ih loc'
      · rw [hgo t slash steps]
        simp
      rw [(hgo slash steps).1 t]
      by_cases hlink : ∃ link, t.get? (loc ++ [step]) = some (.link link)
      · rcases hlink with ⟨link, hget⟩
        have hthere := h _ _ rfl hget
        refine ⟨?_, fun within name closed hleg => absurd hleg (by simp [hget, legInto])⟩
        intro place link' more hleg
        simp only [hget, legInto, Bool.true_or, Bool.not_true, Bool.and_false,
          Bool.false_eq_true, if_false] at hleg
        rcases hleg with ⟨rfl, rfl, rfl⟩
        rw [(hgo slash' (steps ++ rest)).2 t', hthere, legInto]
        simp [Rules.free]
      have hnot : ∀ link, t.get? (loc ++ [step]) ≠ some (.link link) :=
        fun link hget => hlink ⟨link, hget⟩
      cases steps with
      | nil =>
          rw [legInto_nil hnot]
          refine ⟨fun place link more hleg => absurd hleg (by simp), ?_⟩
          rintro within name closed ⟨⟩
          exact ⟨(hgo slash' rest).2, rfl⟩
      | cons next steps =>
          -- With steps to go only a directory leads on.
          rcases hget : t.get? (loc ++ [step]) with _ | e
          · simp [legInto]
          · cases e with
            | file content mode => simp [legInto]
            | link link => exact absurd hget (hnot link)
            | directory =>
                have hinto : leg t' .free slash' loc (step :: (next :: steps ++ rest)) =
                    leg t' .free slash' (loc ++ [step]) (next :: steps ++ rest) := by
                  rw [(hgo slash' _).2 t', h _ _ rfl hget]
                  rfl
                rw [hinto]
                exact ih _

/-- Where a fenced walk has found a file, no walk leads on, whatever steps it has still to
    go. -/
theorem reach_past_file (h : t.Thinner t') {fence within : Location} {name : String}
    {content : ByteArray} {mode : Nat} {closed : Bool}
    (hfile : t'.get? (within ++ [name]) = some (.file content mode)) {links : Nat} {slash : Bool}
    {loc : Location} {steps : List String}
    (hwalk : walk t ⟨some fence, true⟩ links slash loc steps = .ok (.entry within name closed))
    (links' : Nat) (slash' : Bool) (rest : List String) :
    ∃ fault, fault ≠ .notFound ∧ t'.reach links' slash' loc (steps ++ rest) = .error fault := by
  induction links using Nat.strongRecOn generalizing slash loc steps links' slash' rest with
  | ind links ih =>
      have hpast := leg_past h fence slash slash' loc steps rest
      rcases hleg : leg t ⟨some fence, true⟩ slash loc steps with result | ⟨place, link, more⟩
      · rw [walk_of_arrived hleg] at hwalk
        rcases hpast.2 within name closed (hwalk ▸ hleg) with ⟨hlooks, hsame⟩
        refine ⟨.notDirectory, by decide, ?_⟩
        rw [Tree.reach, walk_congr_leg hsame]
        exact reach_of_file hlooks hfile
      -- Both go through the same link, and the free walk may run out of links to follow.
      have hthrough := hpast.1 place link more hleg
      cases links with
      | zero =>
          rw [walk_zero_of_through hleg] at hwalk
          exact absurd hwalk (by simp)
      | succ links =>
          cases links' with
          | zero =>
              refine ⟨.tooManyLinks, by decide, ?_⟩
              rw [Tree.reach, walk_zero_of_through hthrough]
              rfl
          | succ links' =>
              rw [walk, hleg] at hwalk
              rw [Tree.reach, walk, hthrough]
              simp only [Option.isSome_some, if_true] at hwalk
              by_cases hroot : (Route.ofText link).fromRoot
              · rw [if_pos hroot] at hwalk
                exact absurd hwalk (by simp)
              · rw [if_neg hroot] at hwalk
                simp only [if_neg hroot]
                rw [← List.append_assoc]
                exact ih links (Nat.lt_succ_self links) hwalk _ _ _

end Storage

end Qualifier
