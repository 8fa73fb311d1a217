import Qualifier.Outside.Program
import Qualifier.Poll.Phase

/-!
# Watching a Run

The loop that looks at a suite run until it ends or the budget of looks is used
up. Before each look comes a wait; a look that fails for a passing reason counts
like any other. The companion is launched once, and how its launch ends changes
nothing but the two flags that report it.

## Main definitions

* `PollError`: Why a watch ends without a result.
* `PollReport`: What a watch saw at the end.
* `CompanionState`: Whether the companion was launched, and with what success.
* `watchFrom`, `watch`: The loop from any point on, and from its start.
-/

namespace Qualifier

/-- Why a watch ended without the end of its run. -/
inductive PollError where
  | timeout (runId : String) (cycles : Nat) (least most : UInt64)
  | query (runId : String) (cause : ServiceError)
deriving DecidableEq, Repr

/-- The wording of a poll error. -/
def PollError.message : PollError → String
  | .timeout runId cycles least most =>
    "suite run " ++ runId ++ " still in progress after " ++ toString cycles ++ " polls (" ++
      toString least.toNat ++ "-" ++ toString most.toNat ++ "s apart)"
  | .query runId cause => "failed to query suite run " ++ runId ++ ": " ++ cause.message

/-- What a watch saw of the end of its run. -/
structure PollReport where
  status : RunStatus
  logUrl : Option String
  cycles : Nat
  companionLaunched : Bool
  companionSucceeded : Bool
deriving DecidableEq, Repr

/-- Whether the companion was launched, and if so whether it succeeded. -/
inductive CompanionState where
  | idle
  | launched (succeeded : Bool)
deriving DecidableEq, Repr

/-- Whether there was a launch. -/
def CompanionState.wasLaunched : CompanionState → Bool
  | .idle => false
  | .launched _ => true

/-- Whether there was a launch that succeeded. -/
def CompanionState.succeeded : CompanionState → Bool
  | .idle => false
  | .launched succeeded => succeeded

/-- Whether the answer to a launch is a success. -/
def launchSucceeded : Except SpawnFailure Outcome → Bool
  | .ok outcome => outcome.isSuccess
  | .error _ => false

/-- What is reported of the end of a run. -/
def PollReport.ofSnapshot (snapshot : Snapshot) (status : RunStatus) (count : Nat)
    (companion : CompanionState) : PollReport :=
  ⟨status, snapshot.logUrl?, count, companion.wasLaunched, companion.succeeded⟩

/-- Watches a run with `left` looks to go after `count` were taken. -/
def watchFrom (policy : Policy) (job : Job) (invocation : Invocation) :
    (left count : Nat) → CompanionState → Program (Except PollError PollReport)
  | 0, count, _ =>
    pure (.error (.timeout job.runId count policy.least.seconds policy.most.seconds))
  | left + 1, count, companion => do
    Program.question (.pause policy)
    match ← Program.request (.getSuiteRun job) with
    | .error cause =>
      -- A failure that may pass has used up its look all the same.
      if cause.isTransient then watchFrom policy job invocation left (count + 1) companion
      else pure (.error (.query job.runId cause))
    | .ok snapshot =>
      match Phase.observe snapshot companion.wasLaunched with
      | .terminal status =>
        pure (.ok (.ofSnapshot snapshot status (count + 1) companion))
      | .launchCompanion =>
        -- One launch only, even if it could not be started.
        let answer ← Program.question (.launch invocation)
        watchFrom policy job invocation left (count + 1) (.launched (launchSucceeded answer))
      | .loading => watchFrom policy job invocation left (count + 1) companion
      | .inProgress => watchFrom policy job invocation left (count + 1) companion

/-- Watches a run from its start with the whole budget of a policy. -/
def watch (policy : Policy) (job : Job) (invocation : Invocation) :
    Program (Except PollError PollReport) :=
  watchFrom policy job invocation policy.cycles.toNat 0 .idle

end Qualifier
