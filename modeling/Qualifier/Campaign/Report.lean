import Qualifier.Identity.Step
import Qualifier.Service.Status

/-!
# Reports of a Campaign

What a campaign says about each suite, one line for each, and the exit code that
sums it up.

## Main definitions

* `SuiteResult`: How a suite ended.
* `SuiteReport`: The same with its name and its thing.
* `Summary`: The reports of a campaign.
* `Summary.exitCode`: Zero exactly if nothing failed.
* `SetupFailure`: A campaign that could not go on.
-/

namespace Qualifier

/-- How a suite ended. -/
inductive SuiteResult where
  | skipped
  | passed (status : RunStatus)
  | failed (status : RunStatus) (log : Option String)
  | timedOut (cycles : Nat)
  | errored (detail : String)
deriving DecidableEq, Repr

/-- Whether the end of a suite makes its campaign fail. -/
def SuiteResult.isFailure : SuiteResult → Bool
  | .skipped | .passed _ => false
  | _ => true

/-- The words for the end of a suite. -/
def SuiteResult.text : SuiteResult → String
  | .skipped => "skipped"
  | .passed status => "passed (" ++ status.text ++ ")"
  | .failed status (some log) => "failed (" ++ status.text ++ "); log at " ++ log
  | .failed status none => "failed (" ++ status.text ++ ")"
  | .timedOut cycles => "timed out after " ++ toString cycles ++ " polls"
  | .errored detail => "error: " ++ detail

/-- What is reported of one suite. -/
structure SuiteReport where
  name : String
  thing : Option String
  result : SuiteResult
deriving DecidableEq, Repr

/-- The line for one suite. -/
def SuiteReport.line (r : SuiteReport) : String :=
  match r.thing with
  | some thing => r.name ++ " [" ++ thing ++ "]: " ++ r.result.text
  | none => r.name ++ ": " ++ r.result.text

/-- The reports of a campaign, in the order of its suites. -/
structure Summary where
  reports : List SuiteReport
deriving DecidableEq, Repr

/-- The exit code of a campaign: one if any of its suites failed. -/
def Summary.exitCode (s : Summary) : Nat :=
  if s.reports.any fun r => r.result.isFailure then 1 else 0

/-- The reports as text, a line for each. -/
def Summary.text (s : Summary) : String :=
  String.ofList (s.reports.flatMap fun r => r.line.toList ++ ['\n'])

/-- A campaign that ended because a suite's identity could not be set up: the suite,
    the reason, and the reports of the suites before it. -/
structure SetupFailure where
  suite : String
  cause : ProvisionError
  completed : Summary
deriving DecidableEq, Repr

/-- The wording of a setup failure. -/
def SetupFailure.message (f : SetupFailure) : String :=
  "setup failed for suite " ++ f.suite ++ ": " ++ f.cause.message

end Qualifier
