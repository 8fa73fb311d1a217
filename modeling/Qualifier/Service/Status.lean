/-!
# States of a Suite Run

The state a suite run or one of its cases is in, as the test service words it. A
word that is not known is kept as it came: it ends a run, and not with success.

## Main definitions

* `RunStatus`: The states.
* `RunStatus.ofText`, `RunStatus.text`: Their wording.
* `RunStatus.isInProgress`, `RunStatus.isSuccess`: The two questions asked of one.
* `Verdict`: What the state a run ended in says about it.

## Theorems

* `text_ofText`: Every word is rendered as it was read.
-/

namespace Qualifier

/-- The state of a suite run or of one of its cases. -/
inductive RunStatus where
  | pending
  | running
  | stopping
  | stopped
  | pass
  | passWithWarnings
  | fail
  | canceled
  | error
  | other (word : String)
deriving DecidableEq, Repr

namespace RunStatus

/-- The state a word stands for. -/
def ofText (word : String) : RunStatus :=
  if word = "PENDING" then .pending
  else if word = "RUNNING" then .running
  else if word = "STOPPING" then .stopping
  else if word = "STOPPED" then .stopped
  else if word = "PASS" then .pass
  else if word = "PASS_WITH_WARNINGS" then .passWithWarnings
  else if word = "FAIL" then .fail
  else if word = "CANCELED" then .canceled
  else if word = "ERROR" then .error
  else .other word

/-- The word for a state. -/
def text : RunStatus → String
  | .pending => "PENDING"
  | .running => "RUNNING"
  | .stopping => "STOPPING"
  | .stopped => "STOPPED"
  | .pass => "PASS"
  | .passWithWarnings => "PASS_WITH_WARNINGS"
  | .fail => "FAIL"
  | .canceled => "CANCELED"
  | .error => "ERROR"
  | .other word => word

/-- Whether a run in this state may still change. -/
def isInProgress : RunStatus → Bool
  | .pending | .running | .stopping => true
  | _ => false

/-- Whether a run in this state has succeeded. -/
def isSuccess : RunStatus → Bool
  | .pass | .passWithWarnings => true
  | _ => false

theorem text_ofText (word : String) : (ofText word).text = word := by
  unfold ofText
  repeat' split
  all_goals simp_all [text]

end RunStatus

/-- What the state a run ended in says about it. -/
inductive Verdict where
  | passed
  | failed
deriving DecidableEq, Repr

/-- The verdict of a state: success, or anything else. -/
def Verdict.ofStatus (status : RunStatus) : Verdict :=
  if status.isSuccess then .passed else .failed

end Qualifier
