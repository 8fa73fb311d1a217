import Qualifier.Outside.Bench
import Qualifier.Proofs.Outside.Ensures
import Qualifier.Proofs.Poll.Turn
import Qualifier.Service.Simulated

/-!
# A Watch Is a Scan

The loop that watches a suite run does no more than read the answers of the test
service in order up to the first one that decides: a failure that will not pass, or
a state that can no longer change. Each answer read costs one wait and one look,
whatever it says, and the budget bounds their number.

The argument has two halves. `trace_watchFrom` reads a scan off any conversation of
the loop, by induction on the looks that are left in the budget: every turn of the loop is
one round, and the companion adds nothing but launches, which are left out of account.
`looksIn_answering` says which answers such a conversation holds when they come
from a given sequence. `Scanned.cases` then tells what a scan amounts to.

The sequence is an infinite one, so a scan that never decides and one whose
decision lies beyond the budget are the same case: the budget runs out.

## Main definitions

* `rounds`: One wait and one look for each of some answers.
* `Scanned`: The plain scan.
* `answering`: A world whose looks are answered by a sequence.

## Theorems

* `trace_watchFrom`, `trace_watch`: What a watch reads is a scan.
* `Scanned.cases`: A scan ends at the first deciding answer or with the budget.
* `looksIn_answering`: The answers of a run are the beginning of the sequence.
* `watch_eq_scan`: A watch is the scan of the answers it is given.
-/

namespace Qualifier

open Program Simulated

/-- The rounds of a watch, one for each answer. -/
def rounds (policy : Policy) (job : Job) (looks : List Look) : List Exchange :=
  looks.flatMap (round policy job)

/-- The answers to the looks in a conversation, in order. -/
def looksIn (talk : List Exchange) : List Look :=
  talk.filterMap fun
    | ⟨.service (.getSuiteRun _), look⟩ => some look
    | _ => none

def Ask.isPause : Ask → Bool
  | .pause _ => true
  | _ => false

/-- A conversation without what was said about companions. -/
def withoutLaunches (talk : List Exchange) : List Exchange :=
  talk.filter fun e => !e.1.isLaunch

/-- The number of waits in a conversation. -/
def waitsIn (talk : List Exchange) : Nat :=
  talk.countP fun e => e.1.isPause

/-- A conversation of `n` waits and `n` looks, a wait before each look, in which the
    looks are answered by the first `n` of a sequence, and in which nothing else is
    asked for but launches. -/
structure Spends (policy : Policy) (job : Job) (looks : Nat → Look) (talk : List Exchange)
    (n : Nat) : Prop where
  waits : waitsIn talk = n
  queries : (looksIn talk).length = n
  order : withoutLaunches talk = rounds policy job ((List.range n).map looks)

/-- A plain scan of answers with `left` looks to go after `count` were taken: it
    goes on while nothing decides and looks are left. -/
inductive Scanned (policy : Policy) (job : Job) :
    (left count : Nat) → List Look → Except PollError PollReport → Prop
  | spent (count : Nat) : Scanned policy job 0 count [] (outOfLooks policy job count)
  | decided {left count : Nat} {look : Look} {result : Except PollError PollReport}
      (hd : look.decides = true) (hr : look.EndsAs job (count + 1) result) :
      Scanned policy job (left + 1) count [look] result
  | undecided {left count : Nat} {look : Look} {looks : List Look}
      {result : Except PollError PollReport} (hd : look.decides = false)
      (h : Scanned policy job left (count + 1) looks result) :
      Scanned policy job (left + 1) count (look :: looks) result

/-- A scan either meets a deciding answer within the budget, and ends there, or it
    uses up the budget on answers that decide nothing. -/
theorem Scanned.cases {policy : Policy} {job : Job} {left count : Nat} {looks : List Look}
    {result : Except PollError PollReport} (h : Scanned policy job left count looks result) :
    (∃ before look, looks = before ++ [look] ∧ before.length < left ∧
      (∀ a ∈ before, a.decides = false) ∧ look.decides = true ∧
      look.EndsAs job (count + before.length + 1) result) ∨
    (looks.length = left ∧ (∀ a ∈ looks, a.decides = false) ∧
      result = outOfLooks policy job (count + left)) := by
  induction h with
  | spent count =>
      refine Or.inr ⟨rfl, ?_, rfl⟩
      intro a ha
      exact absurd ha List.not_mem_nil
  | decided hd hr =>
      refine Or.inl ⟨[], _, rfl, Nat.succ_pos _, ?_, hd, hr⟩
      intro a ha
      exact absurd ha List.not_mem_nil
  | @undecided left count look looks result hd _ ih =>
      rcases ih with ⟨before, last, rfl, hlt, hbefore, hlast, hend⟩ | ⟨hlen, hall, hres⟩
      · refine Or.inl ⟨look :: before, last, rfl, ?_, ?_, hlast, ?_⟩
        · simp only [List.length_cons]
          omega
        · simpa only [List.mem_cons, forall_eq_or_imp] using ⟨hd, hbefore⟩
        · have hn : count + 1 + before.length + 1 = count + (look :: before).length + 1 := by
            simp only [List.length_cons]
            omega
          rw [← hn]
          exact hend
      · refine Or.inr ⟨by rw [List.length_cons, hlen], ?_, ?_⟩
        · simpa only [List.mem_cons, forall_eq_or_imp] using ⟨hd, hall⟩
        · rw [hres, Nat.add_assoc, Nat.add_comm 1 left]

/-- Every conversation of the loop is a scan of the answers it holds, at a wait and
    a look for each. The companion state is arbitrary: a launch changes it, and
    nothing of what is said here depends on it. -/
theorem trace_watchFrom {policy : Policy} {job : Job} {invocation : Invocation} {c : Cycle}
    {companion : CompanionState} {talk : List Exchange} {result : Except PollError PollReport}
    (h : Trace (watchFrom policy job invocation c.left c.count companion) talk result) :
    ∃ looks, withoutLaunches talk = rounds policy job looks ∧
      Scanned policy job c.left c.count looks result := by
  obtain ⟨left, hleft⟩ : ∃ left, c.left = left := ⟨_, rfl⟩
  induction left generalizing c companion talk with
  | zero =>
      rcases trace_watchFrom_turn h with ⟨-, rfl, rfl⟩ | ⟨_, _, _, _, hadvance, -⟩
      · rw [hleft]
        exact ⟨[], rfl, .spent _⟩
      · rw [c.advance?_eq_none_iff.mpr hleft] at hadvance
        exact absurd hadvance (by simp)
  | succ left ih =>
      rcases trace_watchFrom_turn h with
        ⟨hspent, -⟩ | ⟨number, next, look, rest, hadvance, rfl, hafter⟩
      · rw [c.advance?_eq_none_iff.mp hspent] at hleft
        exact absurd hleft (by simp)
      obtain ⟨rfl, hcount, hmore, -⟩ := Cycle.advance?_eq_some hadvance
      have hless : next.left = left := Nat.succ.inj (hmore.symm.trans hleft)
      -- A turn that decides nothing is one round before the rounds of the rest.
      have hgo : ∀ after, look.decides = false →
          withoutLaunches rest = withoutLaunches after →
          (∃ looks, withoutLaunches after = rounds policy job looks ∧
            Scanned policy job next.left next.count looks result) →
          ∃ looks, withoutLaunches (round policy job look ++ rest) = rounds policy job looks ∧
            Scanned policy job (next.left + 1) c.count looks result := by
        rintro after hd hsame ⟨looks, hrounds, hscan⟩
        rw [← hsame] at hrounds
        rw [hcount] at hscan
        exact ⟨look :: looks, congrArg (round policy job look ++ ·) hrounds, .undecided hd hscan⟩
      rw [hmore]
      cases hafter with
      | done hd hend _ => exact ⟨[look], rfl, .decided hd (hcount ▸ hend)⟩
      | onward hd _ hrest => exact hgo _ hd rfl (ih hrest hless)
      | @launch after _ hd _ _ answer hrest => exact hgo after hd rfl (ih hrest hless)

/-- Every conversation of a watch is a scan with the budget of the policy. -/
theorem trace_watch {policy : Policy} {job : Job} {invocation : Invocation}
    {talk : List Exchange} {result : Except PollError PollReport}
    (h : Trace (watch policy job invocation) talk result) :
    ∃ looks, withoutLaunches talk = rounds policy job looks ∧
      Scanned policy job policy.cycles.toNat 0 looks result := by
  obtain ⟨hleft, hcount, hwatch⟩ := watch_eq_watchFrom policy job invocation
  rw [hwatch] at h
  rw [← hleft, ← hcount]
  exact trace_watchFrom h

/-- A world whose looks at suite runs are answered by a sequence, one after the
    other. Whatever else is asked, and how any question changes the state, is up to
    the world. -/
def answering {σ : Type} (looks : Nat → Look) (w : World σ) : World (Nat × σ)
  | .service (.getSuiteRun job), s =>
      (looks s.1, s.1 + 1, (w (.service (.getSuiteRun job)) s.2).2)
  | q, s => ((w q s.2).1, s.1, (w q s.2).2)

theorem looksIn_concat (talk : List Exchange) (e : Exchange) :
    looksIn (talk ++ [e]) = looksIn talk ++ looksIn [e] :=
  List.filterMap_append

/-- The answers in the record of a run are the beginning of the sequence: every look
    takes the next one, and nothing else takes any. -/
theorem looksIn_answering {α σ : Type} (looks : Nat → Look) (w : World σ) (p : Program α)
    (s : σ) :
    let done := (p.run (recording (answering looks w)) ([], 0, s)).2
    looksIn done.1 = (List.range done.2.1).map looks := by
  refine run_preserves _ (fun t : List Exchange × Nat × σ =>
    looksIn t.1 = (List.range t.2.1).map looks) ?_ p _ rfl
  rintro q ⟨talk, n, t⟩ h
  -- A question that is not a look takes no answer and leaves none.
  have hnext : ∀ e, looksIn [e] = [] → looksIn (talk ++ [e]) = (List.range n).map looks := by
    intro e he
    rw [looksIn_concat, he, List.append_nil]
    exact h
  cases q with
  | service request =>
      cases request with
      | getSuiteRun job =>
          have hrec := looksIn_concat talk ⟨.service (.getSuiteRun job), looks n⟩
          rw [h] at hrec
          change _ = (List.range (n + 1)).map looks
          rw [List.range_succ, List.map_append]
          exact hrec
      | _ => exact hnext _ rfl
  | _ => exact hnext _ rfl

theorem looksIn_withoutLaunches (talk : List Exchange) :
    looksIn (withoutLaunches talk) = looksIn talk := by
  induction talk with
  | nil => rfl
  | cons e talk ih =>
      rcases e with ⟨q, answer⟩
      cases q with
      | service request =>
          cases request with
          | getSuiteRun job => exact congrArg (List.cons answer) ih
          | _ => exact ih
      | _ => exact ih

theorem waitsIn_withoutLaunches (talk : List Exchange) :
    waitsIn (withoutLaunches talk) = waitsIn talk := by
  unfold waitsIn withoutLaunches
  rw [List.countP_filter]
  refine List.countP_congr fun e _ => ?_
  cases e.1 <;> simp [Ask.isPause, Ask.isLaunch]

theorem looksIn_rounds (policy : Policy) (job : Job) (looks : List Look) :
    looksIn (rounds policy job looks) = looks := by
  induction looks with
  | nil => rfl
  | cons look looks ih => exact congrArg (List.cons look) ih

theorem waitsIn_rounds (policy : Policy) (job : Job) (looks : List Look) :
    waitsIn (rounds policy job looks) = looks.length := by
  induction looks with
  | nil => rfl
  | cons look looks ih =>
      have hcons : waitsIn (round policy job look ++ rounds policy job looks) =
          1 + waitsIn (rounds policy job looks) := List.countP_append
      rw [ih, Nat.add_comm] at hcons
      exact hcons

/-- A run whose looks are answered by a sequence is a scan of the first answers of
    that sequence, and it spends a round on each of them. -/
theorem watch_scanned {σ : Type} (policy : Policy) (job : Job) (invocation : Invocation)
    (looks : Nat → Look) (w : World σ) (s : σ) :
    let done := (watch policy job invocation).run (recording (answering looks w)) ([], 0, s)
    ∃ n, Spends policy job looks done.2.1 n ∧
      Scanned policy job policy.cycles.toNat 0 ((List.range n).map looks) done.1 := by
  intro done
  have hlooks : looksIn done.2.1 = (List.range done.2.2.1).map looks :=
    looksIn_answering looks w _ s
  have htrace : Trace (watch policy job invocation) done.2.1 done.1 := by
    rcases run_recording (answering looks w) (watch policy job invocation) (0, s) with
      ⟨talk, htalk, hrun⟩
    simpa only [done, hrun] using htalk
  rcases trace_watch htrace with ⟨read, horder, hscan⟩
  -- The answers that were scanned are the ones on record.
  have hread : read = (List.range done.2.2.1).map looks := by
    rw [← looksIn_rounds policy job read, ← horder, looksIn_withoutLaunches, hlooks]
  rw [hread] at horder hscan
  refine ⟨done.2.2.1, ⟨?_, ?_, horder⟩, hscan⟩
  · rw [← waitsIn_withoutLaunches, horder, waitsIn_rounds, List.length_map, List.length_range]
  · rw [hlooks, List.length_map, List.length_range]

/-- A watch is a plain scan of the answers it is given, whatever companions and
    waits do. If the first answer that decides comes within the budget, the watch
    takes exactly the rounds up to it and ends as that answer says; otherwise it
    takes as many rounds as there are looks and reports that they are used up. In no
    case does it count further than the budget, which is a number of 64 bits. -/
theorem watch_eq_scan {σ : Type} (policy : Policy) (job : Job) (invocation : Invocation)
    (looks : Nat → Look) (w : World σ) (s : σ) :
    let done := (watch policy job invocation).run (recording (answering looks w)) ([], 0, s)
    let budget := policy.cycles.toNat
    (∀ k, k < budget → (looks k).decides = true → (∀ j < k, (looks j).decides = false) →
      Spends policy job looks done.2.1 (k + 1) ∧ (looks k).EndsAs job (k + 1) done.1) ∧
    ((∀ j < budget, (looks j).decides = false) →
      Spends policy job looks done.2.1 budget ∧ done.1 = outOfLooks policy job budget) ∧
    (∃ n, n ≤ budget ∧ Spends policy job looks done.2.1 n) ∧ budget < UInt64.size := by
  intro done budget
  rcases watch_scanned policy job invocation looks w s with ⟨n, hspends, hscan⟩
  have hlt : budget < UInt64.size := policy.cycles.toNat_lt
  rcases hscan.cases with ⟨before, look, hsplit, hbudget, hbefore, hlook, hend⟩ |
      ⟨hlen, hall, hres⟩
  · -- The scan met a deciding answer: it is the first one of the sequence.
    have hn : n = before.length + 1 := by
      have := congrArg List.length hsplit
      simpa only [List.length_map, List.length_range, List.length_append, List.length_cons,
        List.length_nil] using this
    subst hn
    rw [List.range_succ, List.map_append] at hsplit
    rcases List.append_inj hsplit (by rw [List.length_map, List.length_range]) with
      ⟨hinit, hlast⟩
    have hlast : looks before.length = look := List.head_eq_of_cons_eq hlast
    have hfirst : ∀ j < before.length, (looks j).decides = false := by
      intro j hj
      refine hbefore _ ?_
      rw [← hinit]
      exact List.mem_map_of_mem (List.mem_range.mpr hj)
    refine ⟨?_, ?_, ⟨_, hbudget, hspends⟩, hlt⟩
    · intro k hk hdec hleast
      have hkn : k = before.length := by
        rcases Nat.lt_trichotomy k before.length with h | h | h
        · exact absurd hdec (by rw [hfirst k h]; exact Bool.false_ne_true)
        · exact h
        · exact absurd (hleast _ h) (by rw [hlast, hlook]; exact Bool.false_ne_true.symm)
      rw [hkn, hlast]
      rw [Nat.zero_add] at hend
      exact ⟨hspends, hend⟩
    · intro hnone
      exact absurd (hnone _ hbudget) (by rw [hlast, hlook]; exact Bool.false_ne_true.symm)
  · -- The scan used up the budget: nothing within it decides.
    rw [List.length_map, List.length_range] at hlen
    rw [Nat.zero_add] at hres
    subst hlen
    have hnone : ∀ j < budget, (looks j).decides = false := by
      intro j hj
      exact hall _ (List.mem_map_of_mem (List.mem_range.mpr hj))
    refine ⟨?_, fun _ => ⟨hspends, hres⟩, ⟨_, Nat.le_refl _, hspends⟩, hlt⟩
    intro k hk hdec
    exact absurd hdec (by rw [hnone k hk]; exact Bool.false_ne_true)

/-- A policy whose waits all take three seconds. -/
def steadyPolicy (budget : UInt64) : Policy :=
  ⟨.ofSeconds 3, .ofSeconds 3, budget⟩

/-- Answers of which the first one is a failure that may pass, the second one shows a start, and
    the third one decides. -/
def passesThird : Nat → Look
  | 0 => .error (.transient "get-suite-run" "busy")
  | 1 => .ok ⟨.running, [[⟨.running, none⟩]]⟩
  | _ => .ok ⟨.pass, []⟩

/-- A test bench without anything, on which launches end as listed. -/
def launchingBench (outcomes : List (Except SpawnFailure Outcome)) : Bench Cloud where
  service := Cloud.new
  files := ⟨.empty, []⟩
  companions := ⟨outcomes, []⟩
  clock := ⟨[], []⟩
  names := []

/-- A watch of such answers for one companion. -/
def thirdWatch (budget : UInt64) (outcomes : List (Except SpawnFailure Outcome)) :
    Except PollError PollReport × List Exchange × Nat × Bench Cloud :=
  (watch (steadyPolicy budget) ⟨"suite", "run"⟩ ⟨"device", [], none, [], .ofSeconds 1⟩).run
    (recording (answering passesThird (Bench.world Cloud.service)))
    ([], 0, launchingBench outcomes)

/-- With a budget of five looks the third one ends the watch, and a budget of two is used up
    before. -/
theorem watch_eq_scan_third :
    (Spends (steadyPolicy 5) ⟨"suite", "run"⟩ passesThird (thirdWatch 5 []).2.1 3 ∧
      ∃ report, (thirdWatch 5 []).1 = .ok report ∧ report.status = .pass ∧ report.cycles = 3) ∧
    Spends (steadyPolicy 2) ⟨"suite", "run"⟩ passesThird (thirdWatch 2 []).2.1 2 ∧
      (thirdWatch 2 []).1 = outOfLooks (steadyPolicy 2) ⟨"suite", "run"⟩ 2 := by
  have hfive := watch_eq_scan (steadyPolicy 5) ⟨"suite", "run"⟩
    ⟨"device", [], none, [], .ofSeconds 1⟩ passesThird (Bench.world Cloud.service)
    (launchingBench [])
  have htwo := watch_eq_scan (steadyPolicy 2) ⟨"suite", "run"⟩
    ⟨"device", [], none, [], .ofSeconds 1⟩ passesThird (Bench.world Cloud.service)
    (launchingBench [])
  rcases hfive.1 2 (by decide) rfl (by decide) with ⟨hspends, report, hreport, hstatus, -, hcycles⟩
  exact ⟨⟨hspends, report, hreport, hstatus, hcycles⟩, htwo.2.1 (by decide)⟩

end Qualifier
