import Qualifier.Service.Request

/-!
# Phases of a Run Under Watch

What one look at a suite run calls for. A state that can no longer change ends the
watch whatever else is seen; a run whose first case is not there yet, or has not
begun, is still loading; and the companion is due once, as soon as both the run
and its first case are running.

## Main definitions

* `Phase`: The four things a look can call for.
* `Phase.observe`: The one a snapshot calls for.
-/

namespace Qualifier

/-- What a look at a run calls for. -/
inductive Phase where
  | loading
  | launchCompanion
  | inProgress
  | terminal (status : RunStatus)
deriving DecidableEq, Repr

/-- The phase a snapshot shows, given whether the companion was launched before. -/
def Phase.observe (snapshot : Snapshot) (launched : Bool) : Phase :=
  if !snapshot.status.isInProgress then .terminal snapshot.status
  else
    match snapshot.firstCase? with
    | none => .loading
    | some case =>
      if snapshot.status = .pending ∨ case.status = .pending then .loading
      else if !launched ∧ snapshot.status = .running ∧ case.status = .running then
        .launchCompanion
      else .inProgress

end Qualifier
