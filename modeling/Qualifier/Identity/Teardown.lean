import Qualifier.Identity.Step
import Qualifier.Outside.Program

/-!
# Taking an Identity Down

How a thing and the certificates attached to it are removed. Whatever is already
gone counts as removed, so a teardown may be repeated; the first failure of
another kind ends it. The credential files are removed on their own.

## Main definitions

* `absentOk`: A removal that does not mind having nothing to remove.
* `retire`: A certificate deactivated and deleted.
* `deprovision`: A thing and its certificates removed.
* `removeCredentials`: The credential files removed.
-/

namespace Qualifier

/-- What a teardown removed. -/
structure Teardown where
  certificates : Nat
  thing : Bool
deriving DecidableEq, Repr

/-- Whether a removal removed anything; only a failure other than absence remains a
    failure. -/
def absentOk (step : Step) (thing : String) :
    Except ServiceError Unit → Except ProvisionError Bool
  | .ok () => .ok true
  | .error cause => if cause.isNotFound then .ok false else .error (.service step thing cause)

/-- Deactivates and deletes a certificate; tells whether it was there to delete. -/
def retire (thing id : String) : Program (Except ProvisionError Bool) := do
  match absentOk .deactivateCertificate thing
      (← Program.request (.updateCertificate id .inactive)) with
  | .error e => pure (.error e)
  | .ok _ => pure (absentOk .deleteCertificate thing (← Program.request (.deleteCertificate id)))

/-- Detaches and retires the certificates still attached, then removes the thing.
    `deleted` counts the certificates deleted before. -/
def removeAttached (thing : String) :
    (deleted : Nat) → List String → Program (Except ProvisionError Teardown)
  | deleted, [] => do
    match absentOk .deleteThing thing (← Program.request (.deleteThing thing)) with
    | .error e => pure (.error e)
    | .ok removed => pure (.ok ⟨deleted, removed⟩)
  | deleted, principal :: rest => do
    match absentOk .detachPrincipal thing
        (← Program.request (.detachPrincipal thing principal)) with
    | .error e => pure (.error e)
    | .ok _ =>
      -- A principal that was gone may still have a certificate to retire.
      match ← retire thing (certificateIdOfArn principal) with
      | .error e => pure (.error e)
      | .ok wasThere => removeAttached thing (if wasThere then deleted + 1 else deleted) rest

/-- Removes a thing and the certificates attached to it. -/
def deprovision (thing : String) : Program (Except ProvisionError Teardown) := do
  match ← Program.request (.listPrincipals thing) with
  | .error cause =>
    if cause.isNotFound then pure (.ok ⟨0, false⟩)
    else pure (.error (.service .listPrincipals thing cause))
  | .ok principals => removeAttached thing 0 principals

/-- Removes both credential files, the second one even if the first cannot be
    removed. -/
def removeCredentials (certificatePath keyPath : Path) :
    Program (Except Storage.FileError Unit) := do
  let certificate ← Program.question (.remove certificatePath)
  let key ← Program.question (.remove keyPath)
  -- Of two failures the first one is reported.
  match certificate, key with
  | .error e, _ => pure (.error e)
  | .ok _, .error e => pure (.error e)
  | .ok _, .ok _ => pure (.ok ())

end Qualifier
