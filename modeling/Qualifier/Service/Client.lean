import Qualifier.Json.Writer
import Qualifier.Service.Command
import Qualifier.Service.Response
import Qualifier.Text.Blank

/-!
# The Services Behind a Command-Line Client

Each request becomes one command of the provider's client, run with an explicit
region and with JSON output. A command that fails is classified by what it prints
on its error stream; one that succeeds answers with what it prints, or with
nothing where nothing is asked for.

## Main definitions

* `Client`: The program and the region.
* `Call.ofRequest`: The command a request becomes, without the common arguments.
* `classify`: The failure a command's error stream stands for.
* `answer`: What a successful command's output answers.
* `Client.Wordings`: How complaints about unreadable output are worded.
* `Client.serviceIn`, `Client.service`: The services behind a runner of commands.
-/

namespace Qualifier

namespace Client

/-- Words in an error stream that say that a resource is not there. -/
def notFoundMarkers : List String :=
  ["ResourceNotFoundException", "NotFoundException", "NoSuchBucket", "NoSuchKey"]

/-- Words in an error stream that say that the failure may pass. -/
def transientMarkers : List String :=
  ["ThrottlingException", "TooManyRequestsException", "RequestLimitExceeded",
    "ServiceUnavailable", "InternalFailure", "InternalServerException", "RequestTimeout"]

/-- Whether one of the words occurs in a text. -/
def mentions (markers : List String) (text : String) : Bool :=
  markers.any fun marker => Text.occursIn marker.toList text.toList

/-- The failure that a command which did not succeed stands for. -/
def classify (operation : String) (output : CommandOutput) : ServiceError :=
  let said := Text.trim output.stderr
  let detail := if said = "" then "exit status " ++ output.statusText else said
  -- A message that mentions both kinds counts as absence.
  if mentions notFoundMarkers said then .notFound operation detail
  else if mentions transientMarkers said then .transient operation detail
  else .rejected operation detail

/-- What tells one request from another on the command line: the area and the
    action, and the flags of its own. -/
structure Call where
  area : String
  action : String
  flags : List String
deriving DecidableEq, Repr

/-- The name of a call in messages. -/
def Call.label (c : Call) : String :=
  c.area ++ " " ++ c.action

/-- How a suite run is told which device to test. -/
def runConfiguration (thingArn : String) : Json.Value :=
  .object [("parallelRun", .bool true),
    ("primaryDevice", .object [("thingArn", .string thingArn)])]

/-- The call a request becomes. -/
def Call.ofRequest : Request → Call
  | .createThing name => ⟨"iot", "create-thing", ["--thing-name", name]⟩
  | .addThingToGroup group thing =>
    ⟨"iot", "add-thing-to-thing-group", ["--thing-group-name", group, "--thing-name", thing]⟩
  | .createCertificate => ⟨"iot", "create-keys-and-certificate", ["--set-as-active"]⟩
  | .attachPolicy policy target =>
    ⟨"iot", "attach-policy", ["--policy-name", policy, "--target", target]⟩
  | .attachPrincipal thing principal =>
    ⟨"iot", "attach-thing-principal", ["--thing-name", thing, "--principal", principal]⟩
  | .listPrincipals thing => ⟨"iot", "list-thing-principals", ["--thing-name", thing]⟩
  | .detachPrincipal thing principal =>
    ⟨"iot", "detach-thing-principal", ["--thing-name", thing, "--principal", principal]⟩
  | .updateCertificate id status =>
    ⟨"iot", "update-certificate", ["--certificate-id", id, "--new-status", status.text]⟩
  | .deleteCertificate id =>
    ⟨"iot", "delete-certificate", ["--certificate-id", id, "--force-delete"]⟩
  | .deleteThing name => ⟨"iot", "delete-thing", ["--thing-name", name]⟩
  | .updateShadow thing document =>
    ⟨"iot-data", "update-thing-shadow",
      ["--thing-name", thing, "--cli-binary-format", "raw-in-base64-out",
        "--payload", document, "/dev/null"]⟩
  | .startSuiteRun suiteId thingArn =>
    ⟨"iotdeviceadvisor", "start-suite-run",
      ["--suite-definition-id", suiteId,
        "--suite-run-configuration", (runConfiguration thingArn).render]⟩
  | .getSuiteRun job =>
    ⟨"iotdeviceadvisor", "get-suite-run",
      ["--suite-definition-id", job.suiteId, "--suite-run-id", job.runId]⟩
  | .getEndpoint thingArn => ⟨"iotdeviceadvisor", "get-endpoint", ["--thing-arn", thingArn]⟩
  | .getLogEvents group stream =>
    ⟨"logs", "get-log-events",
      ["--log-group-name", group, "--log-stream-name", stream, "--start-from-head"]⟩
  | .upload path bucket key => ⟨"s3", "cp", [path.text, "s3://" ++ bucket ++ "/" ++ key]⟩
  | .getSecret id => ⟨"secretsmanager", "get-secret-value", ["--secret-id", id]⟩

/-- How it is worded that the output of a call cannot be read, by the name of the call. -/
abbrev Wordings := String → Json.Wording

/-- Reads a value off the output of a call. -/
def reading {α : Type} (wordings : Wordings) (label : String) (d : Json.Decoder α)
    (stdout : String) : Except ServiceError α :=
  match Json.decode d stdout with
  | .ok value => .ok value
  | .error e => .error (.malformedResponse label (wordings label stdout e))

/-- What the output of a successful call answers. -/
def answer (wordings : Wordings) (request : Request) (label stdout : String) :
    Except ServiceError request.Answer :=
  match request with
  | .createThing _ => reading wordings label Response.thing stdout
  | .createCertificate => reading wordings label Response.certificate stdout
  | .listPrincipals _ => reading wordings label Response.principals stdout
  | .startSuiteRun suiteId _ =>
    (reading wordings label Response.runId stdout).map fun id => ⟨suiteId, id⟩
  | .getSuiteRun _ => reading wordings label Response.snapshot stdout
  | .getEndpoint _ => reading wordings label Response.endpoint stdout
  | .getLogEvents _ _ => reading wordings label Response.events stdout
  | .getSecret id =>
    match reading wordings label Response.secret stdout with
    | .ok (some value) => .ok value
    -- A secret that is stored as bytes has no text.
    | .ok none => .error (.malformedResponse label ("secret " ++ id ++ " has no string value"))
    | .error e => .error e
  | .addThingToGroup _ _ | .attachPolicy _ _ | .attachPrincipal _ _ | .detachPrincipal _ _
  | .updateCertificate _ _ | .deleteCertificate _ | .deleteThing _ | .updateShadow _ _
  | .upload _ _ _ => .ok ()

end Client

/-- The provider's client: the program to run, and the region it is told. -/
structure Client where
  program : String
  region : String
deriving DecidableEq, Repr

namespace Client

/-- The command a call becomes. -/
def command (client : Client) (call : Call) : Command :=
  ⟨client.program,
    call.area :: call.action :: call.flags ++ ["--region", client.region, "--output", "json"]⟩

/-- The services behind a runner of commands: one command for each request. -/
def serviceIn {σ : Type} (client : Client) (wordings : Wordings) (run : Runner σ) : Service σ :=
  fun request s =>
    let call := Call.ofRequest request
    match run (client.command call) s with
    | (.error failure, s) => (.error (.invocation call.label failure), s)
    | (.ok output, s) =>
      if output.isSuccess then (answer wordings request call.label output.stdout, s)
      else (.error (classify call.label output), s)

/-- The same with complaints that do not name a place. -/
def service {σ : Type} (client : Client) (run : Runner σ) : Service σ :=
  client.serviceIn (fun _ => .brief) run

end Client

end Qualifier
