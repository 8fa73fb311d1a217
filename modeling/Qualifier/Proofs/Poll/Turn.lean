import Qualifier.Poll.Watch
import Qualifier.Proofs.Outside.Conversation

/-!
# One Turn of a Watch

What happens between two numbers of a budget. A turn takes a look from the budget, waits, looks,
and goes on by what it is answered with: the watch ends there, or it goes on with the rest of the
budget, or the companion is launched first. When the budget is used up there is no turn.

Everything that is said about watches rests on this one account of the loop
(`trace_watchFrom_turn`): what it reads, what it reports, and when it launches.

## Main definitions

* `Look`: What a look at a suite run is answered with.
* `Look.decides`, `Look.showsStart`: Whether an answer ends a watch, and whether it shows that the
  run has started.
* `Look.EndsAs`: The result a deciding answer leads to.
* `round`: One wait and one look.
* `Flagged`: What the flags of a report are taken from.
* `AfterLook`: What follows a single look.

## Theorems

* `observe_of_ended`, `observe_eq_launchCompanion_iff`: What a look calls for.
* `watch_eq_watchFrom`: A watch starts with the budget of its policy.
* `trace_watchFrom_turn`: One turn of the loop.
-/

namespace Qualifier

open Program

/-! ## Answers -/

/-- What a look at a suite run is answered with. -/
abbrev Look := Except ServiceError Snapshot

/-- Whether an answer ends a watch: a failure that will not pass, or a state that
    can no longer change. -/
def Look.decides : Look → Bool
  | .error (.transient _ _) => false
  | .error _ => true
  | .ok ⟨.pending, _⟩ => false
  | .ok ⟨.running, _⟩ => false
  | .ok ⟨.stopping, _⟩ => false
  | .ok _ => true

/-- Whether an answer shows that the run has started: the run is running, and so is the first
    case of its first group. -/
def Look.showsStart : Look → Bool
  | .ok ⟨.running, (⟨.running, _⟩ :: _) :: _⟩ => true
  | _ => false

/-- The result of a watch that a deciding answer leads to, if it came as the
    `n`-th. -/
def Look.EndsAs (job : Job) (n : Nat) : Look → Except PollError PollReport → Prop
  | .error cause, result => result = .error (.query job.runId cause)
  | .ok snapshot, result =>
      ∃ report, result = .ok report ∧ report.status = snapshot.status ∧
        report.logUrl = snapshot.logUrl? ∧ report.cycles = n

theorem Look.decides_error (cause : ServiceError) :
    Look.decides (.error cause) = !cause.isTransient := by
  cases cause <;> rfl

theorem Look.decides_ok (snapshot : Snapshot) :
    Look.decides (.ok snapshot) = !snapshot.status.isInProgress := by
  rcases snapshot with ⟨status, groups⟩
  cases status <;> rfl

theorem Look.showsStart_ok (snapshot : Snapshot) :
    Look.showsStart (.ok snapshot) =
      (snapshot.status = .running &&
        snapshot.firstCase?.any fun case => case.status = .running) := by
  rcases snapshot with ⟨status, groups⟩
  by_cases hrun : status = .running
  · subst hrun
    rcases groups with _ | ⟨_ | ⟨⟨case, logUrl⟩, cases⟩, groups⟩
    · rfl
    · rfl
    · cases case <;> rfl
  · rw [decide_eq_false hrun, Bool.false_and]
    cases status <;> first | rfl | exact absurd rfl hrun

/-- An answer that ends a watch does not show a start. -/
theorem Look.showsStart_of_decides {look : Look} (h : look.decides = true) :
    look.showsStart = false := by
  cases look with
  | error cause => rfl
  | ok snapshot =>
      rw [decides_ok] at h
      have hnot : snapshot.status ≠ .running := by
        intro hrun
        rw [hrun] at h
        exact absurd h (by decide)
      rw [showsStart_ok, decide_eq_false hnot, Bool.false_and]

/-- A state that can no longer change ends a watch, whatever the cases say. -/
theorem observe_of_ended {snapshot : Snapshot} (h : snapshot.status.isInProgress = false)
    (launched : Bool) : Phase.observe snapshot launched = .terminal snapshot.status := by
  rw [Phase.observe, h, Bool.not_false, if_pos rfl]

theorem observe_ne_terminal {snapshot : Snapshot} (h : snapshot.status.isInProgress = true)
    (launched : Bool) (status : RunStatus) :
    Phase.observe snapshot launched ≠ .terminal status := by
  rw [Phase.observe, h, Bool.not_true, if_neg Bool.false_ne_true]
  repeat' split
  all_goals simp only [ne_eq, reduceCtorEq, not_false_eq_true]

/-- The companion is called for by the first answer that shows a start. -/
theorem observe_eq_launchCompanion_iff (snapshot : Snapshot) (launched : Bool) :
    Phase.observe snapshot launched = .launchCompanion ↔
      launched = false ∧ Look.showsStart (.ok snapshot) = true := by
  rw [Look.showsStart_ok, Phase.observe]
  by_cases hrun : snapshot.status = .running
  · have hgoing : snapshot.status.isInProgress = true := by rw [hrun]; rfl
    rw [hgoing, hrun]
    cases snapshot.firstCase? with
    | none => simp
    | some case =>
        by_cases hfirst : case.status = .running
        · simp [hfirst]
        · by_cases hpending : case.status = .pending <;> simp [hfirst, hpending]
  · -- A run that is not running calls for something else, whatever its cases say.
    simp only [hrun, decide_false, Bool.false_and, Bool.false_eq_true, and_false, iff_false]
    repeat' split
    all_goals simp_all

/-! ## Turns -/

/-- The result of a watch whose budget of looks was used up. -/
def outOfLooks (policy : Policy) (job : Job) (n : Nat) : Except PollError PollReport :=
  .error (.timeout job.runId n policy.least.seconds policy.most.seconds)

/-- One wait and one look, and what the look was answered with. -/
def round (policy : Policy) (job : Job) (look : Look) : List Exchange :=
  [⟨.pause policy, ()⟩, ⟨.service (.getSuiteRun job), look⟩]

/-- The flags of the report, if there is one, are those of a state of the companion. -/
def Flagged (companion : CompanionState) (result : Except PollError PollReport) : Prop :=
  ∀ report, result = .ok report →
    report.companionLaunched = companion.wasLaunched ∧
      report.companionSucceeded = companion.succeeded

theorem flagged_error (companion : CompanionState) (e : PollError) :
    Flagged companion (.error e) := by
  intro report hreport
  exact absurd hreport (by simp)

theorem CompanionState.eq_idle {companion : CompanionState} (h : companion.wasLaunched = false) :
    companion = .idle := by
  cases companion with
  | idle => rfl
  | launched succeeded => exact absurd h (by simp [wasLaunched])

/-- What follows a look with so much of the budget used: the watch ends, or it goes on with the
    rest of the budget, with a launch before that if the look shows a start and there was none
    yet. -/
inductive AfterLook (policy : Policy) (job : Job) (invocation : Invocation) (c : Cycle)
    (companion : CompanionState) (look : Look) :
    List Exchange → Except PollError PollReport → Prop
  | done {result : Except PollError PollReport} (hd : look.decides = true)
      (hend : look.EndsAs job c.count result) (hflags : Flagged companion result) :
      AfterLook policy job invocation c companion look [] result
  | onward {talk : List Exchange} {result : Except PollError PollReport}
      (hd : look.decides = false)
      (hquiet : companion.wasLaunched = true ∨ look.showsStart = false)
      (h : Trace (watchFrom policy job invocation c.left c.count companion) talk result) :
      AfterLook policy job invocation c companion look talk result
  | launch {talk : List Exchange} {result : Except PollError PollReport}
      (hd : look.decides = false) (hidle : companion = .idle) (hstart : look.showsStart = true)
      (answer : Except SpawnFailure Outcome)
      (h : Trace (watchFrom policy job invocation c.left c.count
        (.launched (launchSucceeded answer))) talk result) :
      AfterLook policy job invocation c companion look (⟨.launch invocation, answer⟩ :: talk) result

/-- A watch starts with the whole budget of its policy. -/
theorem watch_eq_watchFrom (policy : Policy) (job : Job) (invocation : Invocation) :
    let c := Cycle.ofBudget policy.cycles.toNat
    c.left = policy.cycles.toNat ∧ c.count = 0 ∧
      watch policy job invocation = watchFrom policy job invocation c.left c.count .idle := by
  have hleft : (Cycle.ofBudget policy.cycles.toNat).left = policy.cycles.toNat := by
    simp [Cycle.ofBudget, Cycle.left]
  exact ⟨hleft, rfl, by rw [hleft]; rfl⟩

/-- The loop takes a look from the budget and makes a turn, which is a round and what follows its
    look, or there is none left to take. -/
theorem trace_watchFrom_turn {policy : Policy} {job : Job} {invocation : Invocation} {c : Cycle}
    {companion : CompanionState} {talk : List Exchange} {result : Except PollError PollReport}
    (h : Trace (watchFrom policy job invocation c.left c.count companion) talk result) :
    (c.advance? = none ∧ talk = [] ∧ result = outOfLooks policy job c.count) ∨
    ∃ number next look rest, c.advance? = some (number, next) ∧
      talk = round policy job look ++ rest ∧
      AfterLook policy job invocation next companion look rest result := by
  rcases hadvance : c.advance? with _ | ⟨number, next⟩
  · rw [c.advance?_eq_none_iff.mp hadvance, watchFrom, trace_pure_iff] at h
    exact Or.inl ⟨rfl, h.1, h.2⟩
  refine Or.inr ⟨number, next, ?_⟩
  obtain ⟨hnumber, hcount, hleft, -⟩ := Cycle.advance?_eq_some hadvance
  rw [hleft, watchFrom, ← hnumber, ← hcount, trace_question_bind_iff] at h
  rcases h with ⟨_, afterPause, rfl, h⟩
  rw [trace_request_bind_iff] at h
  rcases h with ⟨(look : Look), rest, rfl, h⟩
  refine ⟨look, rest, rfl, rfl, ?_⟩
  cases look with
  | error cause =>
      have hdecides := Look.decides_error cause
      simp only at h
      by_cases ht : cause.isTransient
      · rw [if_pos ht] at h
        rw [ht] at hdecides
        exact .onward hdecides (Or.inr rfl) h
      · rw [if_neg ht, trace_pure_iff] at h
        rcases h with ⟨rfl, rfl⟩
        rw [Bool.eq_false_iff.mpr ht] at hdecides
        exact .done hdecides rfl (flagged_error _ _)
  | ok snapshot =>
      have hdecides := Look.decides_ok snapshot
      simp only at h
      by_cases hp : snapshot.status.isInProgress
      · rw [hp] at hdecides
        have hstart := observe_eq_launchCompanion_iff snapshot companion.wasLaunched
        -- Anything but the call for a launch leaves the companion as it is.
        have hquiet : Phase.observe snapshot companion.wasLaunched ≠ .launchCompanion →
            companion.wasLaunched = true ∨ Look.showsStart (.ok snapshot) = false := by
          intro hne
          cases hlaunched : companion.wasLaunched with
          | true => exact Or.inl rfl
          | false =>
              refine Or.inr (Bool.eq_false_iff.mpr fun hshows => hne ?_)
              exact hstart.mpr ⟨hlaunched, hshows⟩
        cases hphase : Phase.observe snapshot companion.wasLaunched with
        | terminal status => exact absurd hphase (observe_ne_terminal hp _ status)
        | loading =>
            rw [hphase] at h
            exact .onward hdecides (hquiet (by rw [hphase]; simp)) h
        | inProgress =>
            rw [hphase] at h
            exact .onward hdecides (hquiet (by rw [hphase]; simp)) h
        | launchCompanion =>
            rw [hphase, trace_question_bind_iff] at h
            rcases h with ⟨answer, afterLaunch, rfl, h⟩
            rcases hstart.mp hphase with ⟨hidle, hshows⟩
            exact .launch hdecides (CompanionState.eq_idle hidle) hshows answer h
      · rw [Bool.not_eq_true] at hp
        rw [hp] at hdecides
        rw [observe_of_ended hp, trace_pure_iff] at h
        rcases h with ⟨rfl, rfl⟩
        refine .done hdecides ⟨_, rfl, rfl, rfl, rfl⟩ fun report hreport => ?_
        rw [← Except.ok.inj hreport]
        exact ⟨rfl, rfl⟩

end Qualifier
