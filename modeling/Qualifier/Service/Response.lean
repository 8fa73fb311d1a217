import Qualifier.Json.Shape
import Qualifier.Service.Request

/-!
# Responses of the Command-Line Client

The documents the client prints for the requests that are answered with a value.
Members that are not needed are passed over.

## Main definitions

* `Response.thing`, `Response.certificate`, `Response.principals`,
  `Response.runId`, `Response.snapshot`, `Response.endpoint`, `Response.events`,
  `Response.secret`: One decoder for each document.
-/

namespace Qualifier

namespace Response

open Json

/-- The state of a run or case. -/
def status : Decoder RunStatus := fun node =>
  (string node).map RunStatus.ofText

/-- A thing that was registered. -/
def thing : Decoder Thing := fun node => do
  let shape : Record :=
    ⟨"struct CreateThingResponse", [.of "thingName" string, .of "thingArn" string], false⟩
  let members ← shape.members node
  return ⟨← members.required "thingName" string, ← members.required "thingArn" string⟩

/-- The private part of a key pair. -/
def privateKey : Decoder String := fun node => do
  let shape : Record := ⟨"struct KeyPair", [.of "PrivateKey" string], false⟩
  let members ← shape.members node
  members.required "PrivateKey" string

/-- A certificate that was issued. -/
def certificate : Decoder Certificate := fun node => do
  let shape : Record :=
    ⟨"struct CreateCertificateResponse",
      [.of "certificateArn" string, .of "certificateId" string, .of "certificatePem" string,
        .of "keyPair" privateKey], false⟩
  let members ← shape.members node
  return ⟨← members.required "certificateArn" string, ← members.required "certificateId" string,
    ← members.required "certificatePem" string, ← members.required "keyPair" privateKey⟩

/-- The principals attached to a thing. -/
def principals : Decoder (List String) := fun node => do
  let shape : Record :=
    ⟨"struct ListPrincipalsResponse", [.withDefault "principals" (list string)], false⟩
  let members ← shape.members node
  members.getD "principals" (list string) []

/-- The name of a suite run that was started. -/
def runId : Decoder String := fun node => do
  let shape : Record := ⟨"struct StartSuiteRunResponse", [.of "suiteRunId" string], false⟩
  let members ← shape.members node
  members.required "suiteRunId" string

/-- One case of a suite run. -/
def testCase : Decoder TestCase := fun node => do
  let shape : Record :=
    ⟨"struct TestCaseSnapshot",
      [.of "status" status, .withDefault "logUrl" (nullable string)], false⟩
  let members ← shape.members node
  return ⟨← members.required "status" status, ← members.getD "logUrl" (nullable string) none⟩

/-- One group of cases. -/
def testGroup : Decoder (List TestCase) := fun node => do
  let shape : Record :=
    ⟨"struct TestGroupSnapshot", [.withDefault "tests" (list testCase)], false⟩
  let members ← shape.members node
  members.getD "tests" (list testCase) []

/-- The groups of a suite run. -/
def testResult : Decoder (List (List TestCase)) := fun node => do
  let shape : Record := ⟨"struct TestResult", [.withDefault "groups" (list testGroup)], false⟩
  let members ← shape.members node
  members.getD "groups" (list testGroup) []

/-- A suite run as it is seen. -/
def snapshot : Decoder Snapshot := fun node => do
  let shape : Record :=
    ⟨"struct GetSuiteRunResponse",
      [.of "status" status, .withDefault "testResult" (nullable testResult)], false⟩
  let members ← shape.members node
  let overall ← members.required "status" status
  let groups ← members.getD "testResult" (nullable testResult) none
  return ⟨overall, groups.getD []⟩

/-- The address devices connect to. -/
def endpoint : Decoder String := fun node => do
  let shape : Record := ⟨"struct EndpointResponse", [.of "endpoint" string], false⟩
  let members ← shape.members node
  members.required "endpoint" string

/-- The message of one log event. -/
def event : Decoder String := fun node => do
  let shape : Record := ⟨"struct LogEvent", [.withDefault "message" string], false⟩
  let members ← shape.members node
  members.getD "message" string ""

/-- The messages of a log stream. -/
def events : Decoder (List String) := fun node => do
  let shape : Record :=
    ⟨"struct LogEventsResponse", [.withDefault "events" (list event)], false⟩
  let members ← shape.members node
  members.getD "events" (list event) []

/-- The text of a secret, if it has one. -/
def secret : Decoder (Option String) := fun node => do
  let shape : Record :=
    ⟨"struct SecretValueResponse", [.of "SecretString" (nullable string)], false⟩
  let members ← shape.members node
  members.getD "SecretString" (nullable string) none

end Response

end Qualifier
