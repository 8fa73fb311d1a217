import Qualifier.Path
import Qualifier.Service.Error
import Qualifier.Service.Status
import Qualifier.Text.Quoted

/-!
# Requests to the Services

What is asked of the device registry, the test service, the log service, the
artifact store and the secret store, and what each of them answers. A request is a
value, so that a run can be described by the requests it makes.

## Main definitions

* `Thing`, `Certificate`, `Job`, `Snapshot`: What the answers hold.
* `Request`, `Request.Answer`: The requests, each with the kind of its answer.
* `Operation`, `Request.operation`: The requests without their parameters.
* `Service`: Anything that answers requests and keeps a state.
* `certificateIdOfArn`: The name of a certificate inside its full name.
-/

namespace Qualifier

/-- A registered device: its name and its full name. -/
structure Thing where
  name : String
  arn : String
deriving DecidableEq, Repr

/-- A certificate as it is issued. -/
structure Certificate where
  arn : String
  id : String
  pem : String
  privateKey : String
deriving DecidableEq, Repr

/-- A certificate as it may be shown: without its key. -/
def Certificate.describe (c : Certificate) : String :=
  "IssuedCertificate \x7b arn: " ++ Text.quoted c.arn ++ ", id: " ++ Text.quoted c.id ++ ", .. \x7d"

/-- Whether a certificate may be used. -/
inductive CertificateStatus where
  | active
  | inactive
deriving DecidableEq, Repr

/-- The word for the status of a certificate. -/
def CertificateStatus.text : CertificateStatus → String
  | .active => "ACTIVE"
  | .inactive => "INACTIVE"

/-- The name of a certificate inside its full name: what follows the last `/`. -/
def certificateIdOfArn (arn : String) : String :=
  String.ofList (Text.afterLast '/' arn.toList)

/-- A suite run that was started. -/
structure Job where
  suiteId : String
  runId : String
deriving DecidableEq, Repr

/-- One case of a suite run. -/
structure TestCase where
  status : RunStatus
  logUrl : Option String
deriving DecidableEq, Repr

/-- A suite run as it was seen at some moment: its state and its groups of cases. -/
structure Snapshot where
  status : RunStatus
  groups : List (List TestCase)
deriving DecidableEq, Repr

/-- The first case of the first group, if it is there yet. -/
def Snapshot.firstCase? (s : Snapshot) : Option TestCase :=
  match s.groups with
  | (case :: _) :: _ => some case
  | _ => none

/-- Where the log of the first case is to be found. -/
def Snapshot.logUrl? (s : Snapshot) : Option String :=
  s.firstCase?.bind TestCase.logUrl

/-- A request to one of the services. -/
inductive Request where
  | createThing (name : String)
  | addThingToGroup (group thing : String)
  | createCertificate
  | attachPolicy (policy target : String)
  | attachPrincipal (thing principal : String)
  | listPrincipals (thing : String)
  | detachPrincipal (thing principal : String)
  | updateCertificate (id : String) (status : CertificateStatus)
  | deleteCertificate (id : String)
  | deleteThing (name : String)
  | updateShadow (thing document : String)
  | startSuiteRun (suiteId thingArn : String)
  | getSuiteRun (job : Job)
  | getEndpoint (thingArn : String)
  | getLogEvents (group stream : String)
  | upload (path : Path) (bucket key : String)
  | getSecret (id : String)
deriving DecidableEq, Repr

/-- What a request is answered with when it succeeds. -/
@[reducible] def Request.Answer : Request → Type
  | .createThing _ => Thing
  | .createCertificate => Certificate
  | .listPrincipals _ => List String
  | .startSuiteRun _ _ => Job
  | .getSuiteRun _ => Snapshot
  | .getEndpoint _ => String
  | .getLogEvents _ _ => List String
  | .getSecret _ => String
  | _ => Unit

/-- A request without its parameters. -/
inductive Operation where
  | createThing
  | addThingToGroup
  | createCertificate
  | attachPolicy
  | attachPrincipal
  | listPrincipals
  | detachPrincipal
  | updateCertificate
  | deleteCertificate
  | deleteThing
  | updateShadow
  | startSuiteRun
  | getSuiteRun
  | getEndpoint
  | getLogEvents
  | upload
  | getSecret
deriving DecidableEq, Repr

/-- The operation a request is for. -/
def Request.operation : Request → Operation
  | .createThing _ => .createThing
  | .addThingToGroup _ _ => .addThingToGroup
  | .createCertificate => .createCertificate
  | .attachPolicy _ _ => .attachPolicy
  | .attachPrincipal _ _ => .attachPrincipal
  | .listPrincipals _ => .listPrincipals
  | .detachPrincipal _ _ => .detachPrincipal
  | .updateCertificate _ _ => .updateCertificate
  | .deleteCertificate _ => .deleteCertificate
  | .deleteThing _ => .deleteThing
  | .updateShadow _ _ => .updateShadow
  | .startSuiteRun _ _ => .startSuiteRun
  | .getSuiteRun _ => .getSuiteRun
  | .getEndpoint _ => .getEndpoint
  | .getLogEvents _ _ => .getLogEvents
  | .upload _ _ _ => .upload
  | .getSecret _ => .getSecret

/-- Anything that answers requests and keeps a state of its own. -/
abbrev Service (σ : Type) :=
  (request : Request) → σ → Except ServiceError request.Answer × σ

end Qualifier
