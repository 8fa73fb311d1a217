import Qualifier.Proofs.Poll.Scan

/-!
# The Launch During a Watch

When a watch launches the companion, and what comes of it. An answer may show that
the run has started: the run and its first case are both running. The launch comes
right after the first such answer, and a watch that reads none makes no launch. What
the launch is answered with goes into the two flags of the report and nowhere else.

`trace_watchFrom_staged` follows the loop turn by turn, by induction on the looks that are
left, and writes down what it read and said as a `Staged` conversation. The rest is about
such conversations: after a launch there is no other one (`Staged.after_launch`), and before
it the first answer that shows a start decides (`Staged.from_idle`).

That the launch does not show in the result is a matter of the scan that every watch
amounts to. Two scans of one sequence read the same answers and end alike, and so
two watches do, whatever their worlds have to do with companions.

## Main definitions

* `Staged`: What a watch reads and says, with the state of the companion.
* `LaunchedAtStart`: A conversation with its launch in the right place, or without.
* `FlagsTell`: The flags of a report tell about the launch.
* `outcome`: The result of a watch without the flags.

## Theorems

* `trace_watchFrom_staged`, `trace_watch_staged`: Every conversation of the loop is a staged one.
* `Staged.after_launch`, `Staged.from_idle`: Where the launch of such a conversation is.
* `LaunchedAtStart.flagsTell`: What the flags say about it.
* `Scanned.unique`: Two scans of one sequence are the same.
* `watch_outcome`: Two watches with the same answers end alike.
* `watch_launches`: A watch launches once, at the start, and without effect.
-/

namespace Qualifier

open Program Simulated

/-- What a watch reads and says from some point on. It begins and ends with a state
    of the companion; only an answer that shows a start leads to a launch, and only
    if there was none before. -/
inductive Staged (policy : Policy) (job : Job) (invocation : Invocation) :
    List Look → CompanionState → List Exchange → CompanionState → Prop
  | ended (companion : CompanionState) : Staged policy job invocation [] companion [] companion
  | passed {look : Look} {looks : List Look} {companion companion' : CompanionState}
      {talk : List Exchange} (h : companion.wasLaunched = true ∨ look.showsStart = false)
      (rest : Staged policy job invocation looks companion talk companion') :
      Staged policy job invocation (look :: looks) companion
        (round policy job look ++ talk) companion'
  | launched {look : Look} {looks : List Look} {companion' : CompanionState}
      {talk : List Exchange} (h : look.showsStart = true)
      (answer : Except SpawnFailure Outcome)
      (rest : Staged policy job invocation looks (.launched (launchSucceeded answer)) talk
        companion') :
      Staged policy job invocation (look :: looks) .idle
        (round policy job look ++ ⟨.launch invocation, answer⟩ :: talk) companion'

theorem trace_watchFrom_staged {policy : Policy} {job : Job} {invocation : Invocation}
    {c : Cycle} {companion : CompanionState} {talk : List Exchange}
    {result : Except PollError PollReport}
    (h : Trace (watchFrom policy job invocation c.left c.count companion) talk result) :
    ∃ looks companion', Staged policy job invocation looks companion talk companion' ∧
      Flagged companion' result := by
  obtain ⟨left, hleft⟩ : ∃ left, c.left = left := ⟨_, rfl⟩
  induction left generalizing c companion talk with
  | zero =>
      rcases trace_watchFrom_turn h with ⟨-, rfl, rfl⟩ | ⟨_, _, _, _, hadvance, -⟩
      · exact ⟨[], companion, .ended companion, flagged_error _ _⟩
      · rw [c.advance?_eq_none_iff.mpr hleft] at hadvance
        exact absurd hadvance (by simp)
  | succ left ih =>
      rcases trace_watchFrom_turn h with
        ⟨hspent, -⟩ | ⟨number, next, look, rest, hadvance, rfl, hafter⟩
      · rw [c.advance?_eq_none_iff.mp hspent] at hleft
        exact absurd hleft (by simp)
      obtain ⟨-, -, hmore, -⟩ := Cycle.advance?_eq_some hadvance
      have hless : next.left = left := Nat.succ.inj (hmore.symm.trans hleft)
      cases hafter with
      | done hd _ hflags =>
          exact ⟨[look], companion,
            .passed (Or.inr (Look.showsStart_of_decides hd)) (.ended companion), hflags⟩
      | onward _ hquiet hrest =>
          rcases ih hrest hless with ⟨looks, companion', hstaged, hflags⟩
          exact ⟨look :: looks, companion', .passed hquiet hstaged, hflags⟩
      | launch _ hidle hstart answer hrest =>
          rcases ih hrest hless with ⟨looks, companion', hstaged, hflags⟩
          subst hidle
          exact ⟨look :: looks, companion', .launched hstart answer hstaged, hflags⟩

theorem trace_watch_staged {policy : Policy} {job : Job} {invocation : Invocation}
    {talk : List Exchange} {result : Except PollError PollReport}
    (h : Trace (watch policy job invocation) talk result) :
    ∃ looks companion, Staged policy job invocation looks .idle talk companion ∧
      Flagged companion result := by
  obtain ⟨-, -, hwatch⟩ := watch_eq_watchFrom policy job invocation
  rw [hwatch] at h
  exact trace_watchFrom_staged h

/-- Once the companion was launched, nothing but rounds follows. -/
theorem Staged.after_launch {policy : Policy} {job : Job} {invocation : Invocation}
    {looks : List Look} {succeeded : Bool} {talk : List Exchange} {companion' : CompanionState}
    (h : Staged policy job invocation looks (.launched succeeded) talk companion') :
    talk = rounds policy job looks ∧ companion' = .launched succeeded := by
  induction looks generalizing talk with
  | nil =>
      cases h with
      | ended => exact ⟨rfl, rfl⟩
  | cons look looks ih =>
      cases h with
      | passed _ rest =>
          rcases ih rest with ⟨rfl, rfl⟩
          exact ⟨rfl, rfl⟩

/-- A conversation of a watch over some answers. If one of them shows a start, there is
    one launch, right after the first of these and before the next round; otherwise
    there is none. -/
inductive LaunchedAtStart (policy : Policy) (job : Job) (invocation : Invocation) :
    List Look → List Exchange → CompanionState → Prop
  | never {looks : List Look} (h : ∀ a ∈ looks, a.showsStart = false) :
      LaunchedAtStart policy job invocation looks (rounds policy job looks) .idle
  | once {before after : List Look} {look : Look} (hbefore : ∀ a ∈ before, a.showsStart = false)
      (hstart : look.showsStart = true) (answer : Except SpawnFailure Outcome) :
      LaunchedAtStart policy job invocation (before ++ look :: after)
        (rounds policy job (before ++ [look]) ++
          ⟨.launch invocation, answer⟩ :: rounds policy job after)
        (.launched (launchSucceeded answer))

theorem Staged.from_idle {policy : Policy} {job : Job} {invocation : Invocation}
    {looks : List Look} {talk : List Exchange} {companion' : CompanionState}
    (h : Staged policy job invocation looks .idle talk companion') :
    LaunchedAtStart policy job invocation looks talk companion' := by
  induction looks generalizing talk with
  | nil =>
      cases h with
      | ended => exact .never (by simp)
  | cons look looks ih =>
      cases h with
      | launched hstart answer rest =>
          rcases rest.after_launch with ⟨rfl, rfl⟩
          have hone : rounds policy job ([] ++ [look]) = round policy job look :=
            List.append_nil _
          have hnone : ∀ a ∈ ([] : List Look), a.showsStart = false := by simp
          rw [← hone]
          exact .once hnone hstart answer
      | passed hquiet rest =>
          have hlook : look.showsStart = false := by
            rcases hquiet with hno | hlook
            · exact absurd hno (by simp [CompanionState.wasLaunched])
            · exact hlook
          have hcons : ∀ before : List Look, (∀ a ∈ before, a.showsStart = false) →
              ∀ a ∈ look :: before, a.showsStart = false := by
            intro before hbefore
            simpa only [List.mem_cons, forall_eq_or_imp] using ⟨hlook, hbefore⟩
          cases ih rest with
          | never hnone => exact .never (hcons _ hnone)
          | once hbefore hstart answer =>
              rw [← List.append_assoc]
              exact .once (hcons _ hbefore) hstart answer

/-- The flags of the report, if there is one, tell whether a launch was made, and
    whether it was answered with success. -/
def FlagsTell (invocation : Invocation) (talk : List Exchange)
    (result : Except PollError PollReport) : Prop :=
  ∀ report, result = .ok report →
    (report.companionLaunched = true ↔ ∃ e ∈ talk, e.1.isLaunch = true) ∧
      (report.companionSucceeded = true ↔ ⟨.launch invocation, .ok .succeeded⟩ ∈ talk)

theorem not_isLaunch_of_mem_rounds {policy : Policy} {job : Job} {looks : List Look}
    {e : Exchange} (h : e ∈ rounds policy job looks) : e.1.isLaunch = false := by
  rcases List.mem_flatMap.mp h with ⟨look, _, hmem⟩
  simp only [round, List.mem_cons, List.not_mem_nil, or_false] at hmem
  rcases hmem with rfl | rfl <;> rfl

theorem launchSucceeded_iff (answer : Except SpawnFailure Outcome) :
    launchSucceeded answer = true ↔ answer = .ok .succeeded := by
  cases answer with
  | error failure => simp [launchSucceeded]
  | ok outcome => cases outcome <;> simp [launchSucceeded, Outcome.isSuccess]

theorem LaunchedAtStart.flagsTell {policy : Policy} {job : Job} {invocation : Invocation}
    {looks : List Look} {talk : List Exchange} {companion : CompanionState}
    {result : Except PollError PollReport}
    (h : LaunchedAtStart policy job invocation looks talk companion)
    (hflags : Flagged companion result) : FlagsTell invocation talk result := by
  intro report hreport
  rcases hflags report hreport with ⟨hlaunched, hsucceeded⟩
  rw [hlaunched, hsucceeded]
  cases h with
  | never _ =>
      have hno : ∀ e ∈ rounds policy job looks, ¬ e.1.isLaunch = true := fun e he => by
        rw [not_isLaunch_of_mem_rounds he]
        exact Bool.false_ne_true
      constructor
      · refine iff_of_false Bool.false_ne_true ?_
        rintro ⟨e, he, hlaunch⟩
        exact hno e he hlaunch
      · exact iff_of_false Bool.false_ne_true fun he =>
          hno ⟨.launch invocation, .ok .succeeded⟩ he rfl
  | @once before after look _ _ answer =>
      have hother : ∀ looks : List Look,
          (⟨.launch invocation, .ok .succeeded⟩ : Exchange) ∉ rounds policy job looks :=
        fun looks he => Bool.false_ne_true (not_isLaunch_of_mem_rounds he).symm
      constructor
      · refine iff_of_true rfl ⟨⟨.launch invocation, answer⟩, ?_, rfl⟩
        exact List.mem_append_right _ List.mem_cons_self
      · rw [List.mem_append, List.mem_cons, CompanionState.succeeded, launchSucceeded_iff]
        simp [hother, eq_comm]

/-- The result of a watch without the flags that tell about the companion. -/
def outcome (result : Except PollError PollReport) :
    Except PollError (RunStatus × Option String × Nat) :=
  result.map fun report => (report.status, report.logUrl, report.cycles)

/-- A deciding answer leads to one result, but for the flags. -/
theorem Look.EndsAs.unique {job : Job} {n : Nat} {look : Look}
    {result result' : Except PollError PollReport} (h : look.EndsAs job n result)
    (h' : look.EndsAs job n result') : outcome result = outcome result' := by
  cases look with
  | error cause => rw [show result = _ from h, show result' = _ from h']
  | ok snapshot =>
      rcases h with ⟨report, rfl, hstatus, hlog, hcycles⟩
      rcases h' with ⟨report', rfl, hstatus', hlog', hcycles'⟩
      simp only [outcome, Except.map, hstatus, hlog, hcycles, hstatus', hlog', hcycles']

/-- Two scans of answers of which one list begins with the other have read the same
    answers and end alike. -/
theorem Scanned.unique {policy : Policy} {job : Job} {left count : Nat}
    {looks looks' : List Look} {result result' : Except PollError PollReport}
    (h : Scanned policy job left count looks result)
    (h' : Scanned policy job left count looks' result') (hinit : looks <+: looks') :
    looks = looks' ∧ outcome result = outcome result' := by
  induction h generalizing looks' with
  | spent count =>
      cases h' with
      | spent => exact ⟨rfl, rfl⟩
  | decided hd hr =>
      cases h' with
      | decided hd' hr' =>
          rw [List.cons_prefix_cons] at hinit
          rcases hinit with ⟨rfl, -⟩
          exact ⟨rfl, hr.unique hr'⟩
      | undecided hd' _ =>
          rw [List.cons_prefix_cons] at hinit
          exact absurd (hinit.1 ▸ hd) (by rw [hd']; exact Bool.false_ne_true)
  | undecided hd _ ih =>
      cases h' with
      | decided hd' hr' =>
          rw [List.cons_prefix_cons] at hinit
          exact absurd (hinit.1 ▸ hd') (by rw [hd]; exact Bool.false_ne_true)
      | undecided hd' hrest' =>
          rw [List.cons_prefix_cons] at hinit
          rcases ih hrest' hinit.2 with ⟨rfl, hsame⟩
          exact ⟨by rw [hinit.1], hsame⟩

theorem looksIn_append (talk talk' : List Exchange) :
    looksIn (talk ++ talk') = looksIn talk ++ looksIn talk' :=
  List.filterMap_append

theorem LaunchedAtStart.looksIn {policy : Policy} {job : Job} {invocation : Invocation}
    {looks : List Look} {talk : List Exchange} {companion : CompanionState}
    (h : LaunchedAtStart policy job invocation looks talk companion) :
    looksIn talk = looks := by
  cases h with
  | never _ => exact looksIn_rounds policy job looks
  | @once before after look _ _ answer =>
      have hrest : Qualifier.looksIn (⟨.launch invocation, answer⟩ :: rounds policy job after)
          = after := looksIn_rounds policy job after
      rw [looksIn_append, looksIn_rounds, hrest, List.append_assoc, List.singleton_append]

/-- A run whose looks are answered by a sequence reads the first answers of it, and has
    its launch where these ask for it. -/
theorem watch_launchedAtStart {σ : Type} (policy : Policy) (job : Job)
    (invocation : Invocation) (looks : Nat → Look) (w : World σ) (s : σ) :
    let done := (watch policy job invocation).run (recording (answering looks w)) ([], 0, s)
    ∃ n companion,
      LaunchedAtStart policy job invocation ((List.range n).map looks) done.2.1 companion ∧
      Flagged companion done.1 := by
  intro done
  have htrace : Trace (watch policy job invocation) done.2.1 done.1 := by
    rcases run_recording (answering looks w) (watch policy job invocation) (0, s) with
      ⟨talk, htalk, hrun⟩
    simpa only [done, hrun] using htalk
  rcases trace_watch_staged htrace with ⟨read, companion, hstaged, hflags⟩
  have hlaunch := hstaged.from_idle
  have hread : read = (List.range done.2.2.1).map looks :=
    hlaunch.looksIn.symm.trans (looksIn_answering looks w _ s)
  exact ⟨_, companion, hread ▸ hlaunch, hflags⟩

/-- Of two beginnings of a sequence one begins with the other. -/
theorem prefix_or_prefix (looks : Nat → Look) (n m : Nat) :
    (List.range n).map looks <+: (List.range m).map looks ∨
      (List.range m).map looks <+: (List.range n).map looks := by
  have hle : ∀ a b, a ≤ b → (List.range a).map looks <+: (List.range b).map looks := by
    intro a b hab
    rw [← Nat.add_sub_cancel' hab, List.range_add, List.map_append]
    exact List.prefix_append _ _
  rcases Nat.le_total n m with h | h
  · exact Or.inl (hle n m h)
  · exact Or.inr (hle m n h)

/-- Two watches that are given the same answers read the same of them and end alike,
    whatever the worlds they run in do besides. -/
theorem watch_outcome {σ τ : Type} (policy : Policy) (job : Job) (invocation : Invocation)
    (looks : Nat → Look) (w : World σ) (s : σ) (w' : World τ) (s' : τ) :
    let done := (watch policy job invocation).run (recording (answering looks w)) ([], 0, s)
    let done' := (watch policy job invocation).run (recording (answering looks w')) ([], 0, s')
    looksIn done.2.1 = looksIn done'.2.1 ∧ outcome done.1 = outcome done'.1 := by
  intro done done'
  rcases watch_scanned policy job invocation looks w s with ⟨n, hspends, hscan⟩
  rcases watch_scanned policy job invocation looks w' s' with ⟨m, hspends', hscan'⟩
  -- What a run has on record are the answers that were scanned.
  have hlooks : looksIn done.2.1 = (List.range n).map looks := by
    rw [← looksIn_withoutLaunches, hspends.order, looksIn_rounds]
  have hlooks' : looksIn done'.2.1 = (List.range m).map looks := by
    rw [← looksIn_withoutLaunches, hspends'.order, looksIn_rounds]
  rw [hlooks, hlooks']
  rcases prefix_or_prefix looks n m with hinit | hinit
  · exact hscan.unique hscan' hinit
  · rcases hscan'.unique hscan hinit with ⟨hsame, hend⟩
    exact ⟨hsame.symm, hend.symm⟩

/-- A watch makes one launch, right after the first of the answers it reads that shows a
    start, and none if no such answer is among them; the flags of its report tell of the
    launch. In any other world, with companions and launches of its own, the same
    answers are read and the result is the same but for the flags. -/
theorem watch_launches {σ τ : Type} (policy : Policy) (job : Job) (invocation : Invocation)
    (looks : Nat → Look) (w : World σ) (s : σ) (w' : World τ) (s' : τ) :
    let done := (watch policy job invocation).run (recording (answering looks w)) ([], 0, s)
    let done' := (watch policy job invocation).run (recording (answering looks w')) ([], 0, s')
    (∃ n companion, looksIn done.2.1 = (List.range n).map looks ∧
      LaunchedAtStart policy job invocation ((List.range n).map looks) done.2.1 companion) ∧
    FlagsTell invocation done.2.1 done.1 ∧
    looksIn done.2.1 = looksIn done'.2.1 ∧ outcome done.1 = outcome done'.1 := by
  intro done done'
  rcases watch_launchedAtStart policy job invocation looks w s with
    ⟨n, companion, hlaunch, hflags⟩
  refine ⟨⟨n, companion, hlaunch.looksIn, hlaunch⟩, hlaunch.flagsTell hflags, ?_⟩
  exact watch_outcome policy job invocation looks w s w' s'

/-- The flags of the report, if there is one. -/
def flags? (result : Except PollError PollReport) : Option (Bool × Bool) :=
  result.toOption.map fun report => (report.companionLaunched, report.companionSucceeded)

/-- The second of three answers shows a start. A companion that fails changes one flag. -/
theorem watch_launches_second :
    (looksIn (thirdWatch 5 []).2.1).length = 3 ∧
    (∃ n companion, looksIn (thirdWatch 5 []).2.1 = (List.range n).map passesThird ∧
      LaunchedAtStart (steadyPolicy 5) ⟨"suite", "run"⟩ ⟨"device", [], none, [], .ofSeconds 1⟩
        ((List.range n).map passesThird) (thirdWatch 5 []).2.1 companion) ∧
    flags? (thirdWatch 5 []).1 = some (true, true) ∧
    flags? (thirdWatch 5 [.ok .timedOut]).1 = some (true, false) ∧
    looksIn (thirdWatch 5 []).2.1 = looksIn (thirdWatch 5 [.ok .timedOut]).2.1 ∧
    outcome (thirdWatch 5 []).1 = outcome (thirdWatch 5 [.ok .timedOut]).1 := by
  have hlaunches := watch_launches (steadyPolicy 5) ⟨"suite", "run"⟩
    ⟨"device", [], none, [], .ofSeconds 1⟩ passesThird (Bench.world Cloud.service)
    (launchingBench []) (Bench.world Cloud.service) (launchingBench [.ok .timedOut])
  exact ⟨by decide +kernel, hlaunches.1, by decide +kernel, by decide +kernel, hlaunches.2.2⟩

end Qualifier
