/-!
# Failed Service Calls

Why a call to a remote service failed. Only two kinds matter to the callers: that
the resource is not there, which a teardown takes for having been removed before,
and that the failure may pass, which a poll waits out.

## Main definitions

* `SpawnFailure`: A program that could not be started.
* `ServiceError`: A failed call.
* `ServiceError.isNotFound`, `ServiceError.isTransient`: The two kinds told apart.
-/

namespace Qualifier

/-- A program that could not be started, and why. -/
structure SpawnFailure where
  program : String
  reason : String
deriving DecidableEq, Repr

/-- The wording of a failed start. -/
def SpawnFailure.message (f : SpawnFailure) : String :=
  "failed to spawn " ++ f.program ++ ": " ++ f.reason

/-- A failed call, with the operation called and what was said about it. -/
inductive ServiceError where
  | notFound (operation detail : String)
  | transient (operation detail : String)
  | rejected (operation detail : String)
  | malformedResponse (operation detail : String)
  | invocation (operation : String) (cause : SpawnFailure)
deriving DecidableEq, Repr

namespace ServiceError

/-- The wording of a failed call. -/
def message : ServiceError → String
  | .notFound operation detail => operation ++ ": resource not found: " ++ detail
  | .transient operation detail => operation ++ ": transient failure: " ++ detail
  | .rejected operation detail => operation ++ ": request rejected: " ++ detail
  | .malformedResponse operation detail => operation ++ ": malformed response: " ++ detail
  | .invocation operation cause => operation ++ ": " ++ cause.message

/-- Whether the resource was not there. -/
def isNotFound : ServiceError → Bool
  | .notFound _ _ => true
  | _ => false

/-- Whether the same call may succeed later. -/
def isTransient : ServiceError → Bool
  | .transient _ _ => true
  | _ => false

end ServiceError

end Qualifier
