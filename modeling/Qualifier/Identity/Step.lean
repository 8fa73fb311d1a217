import Qualifier.Service.Request
import Qualifier.Storage.Files

/-!
# Steps in the Life of an Identity

A disposable identity is a registered thing with a certificate of its own, whose
credentials lie in two local files. This module names the steps in which one comes
and goes, and the failures that may occur at each.

## Main definitions

* `Step`: The steps that call a service.
* `ProvisionError`: A failure, at a step or with a credential file.
* `Specification`: What identity is wanted.
* `Identity`: What identity there is.
-/

namespace Qualifier

/-- A step in the life of an identity that calls a service. -/
inductive Step where
  | createThing
  | addToGroup
  | createCertificate
  | attachPolicy
  | attachPrincipal
  | seedShadow
  | listPrincipals
  | detachPrincipal
  | deactivateCertificate
  | deleteCertificate
  | deleteThing
deriving DecidableEq, Repr

/-- The words for a step. -/
def Step.label : Step → String
  | .createThing => "create thing"
  | .addToGroup => "add thing to group"
  | .createCertificate => "create certificate"
  | .attachPolicy => "attach policy"
  | .attachPrincipal => "attach certificate"
  | .seedShadow => "seed shadow"
  | .listPrincipals => "list principals"
  | .detachPrincipal => "detach principal"
  | .deactivateCertificate => "deactivate certificate"
  | .deleteCertificate => "delete certificate"
  | .deleteThing => "delete thing"

/-- A failure in the life of an identity: a call at some step, or a credential file
    that could not be written. -/
inductive ProvisionError where
  | service (step : Step) (thing : String) (cause : ServiceError)
  | credentials (thing : String) (cause : Storage.FileError)
deriving DecidableEq, Repr

/-- The wording of a failure. -/
def ProvisionError.message : ProvisionError → String
  | .service step thing cause =>
    "failed to " ++ step.label ++ " for " ++ thing ++ ": " ++ cause.message
  | .credentials thing cause =>
    "failed to write credentials for " ++ thing ++ ": " ++ cause.message

/-- The step at which a call failed, if it was a call. -/
def ProvisionError.step? : ProvisionError → Option Step
  | .service step _ _ => some step
  | .credentials _ _ => none

/-- The identity that is wanted. -/
structure Specification where
  thing : String
  policy : String
  group : Option String
  certificatePath : Path
  keyPath : Path
deriving DecidableEq, Repr

/-- An identity that was set up. -/
structure Identity where
  thingName : String
  thingArn : String
  certificateArn : String
  certificateId : String
  policy : String
  group : Option String
  certificatePath : Path
  keyPath : Path
deriving DecidableEq, Repr

end Qualifier
