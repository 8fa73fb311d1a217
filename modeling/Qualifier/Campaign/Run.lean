import Qualifier.Campaign.Report
import Qualifier.Evidence.Export
import Qualifier.Identity.Setup
import Qualifier.Poll.Watch
import Qualifier.Suite.Definition

/-!
# Running a Campaign

The suites of a file one after the other. Each enabled suite gets an identity of
its own; its remote run is started and watched, with the companion playing the
device. A run that passed is taken down; one that failed keeps its thing and has
its log exported; one that timed out or lost contact is taken down and reported.
The credential files go in every case. Cleaning up may fail without a trace in the
reports.

## Main definitions

* `RunSettings`: What all suites of a campaign share.
* `SuiteFailure`: Why a suite that was started has no end to report.
* `exercise`: A suite from its shadow to the end of its watch.
* `conclude`: What the end of a watch leads to.
* `runSuite`, `runSuites`, `runCampaign`: One suite, several, and all of them.
-/

namespace Qualifier

/-- What the suites of a campaign share. -/
structure RunSettings where
  policyName : String
  thingGroup : Option String
  thingNamePrefix : String
  certificatePath : Path
  keyPath : Path
  logDirectory : Path
  logBucket : Option String
  poll : Policy
  companionTimeout : Span
  shadow : Option (String × String)
deriving DecidableEq, Repr

/-- Why a suite that was started has no end to report. -/
inductive SuiteFailure where
  | shadow (cause : ProvisionError)
  | start (cause : ServiceError)
  | endpoint (cause : ServiceError)
  | poll (cause : PollError)
deriving DecidableEq, Repr

/-- The wording of a suite failure. -/
def SuiteFailure.message : SuiteFailure → String
  | .shadow cause => cause.message
  | .start cause => "failed to start suite run: " ++ cause.message
  | .endpoint cause => "failed to fetch device endpoint: " ++ cause.message
  | .poll cause => cause.message

/-- What is reported of a suite failure. Running out of looks has a report of its
    own. -/
def SuiteFailure.result : SuiteFailure → SuiteResult
  | .poll (.timeout _ cycles _ _) => .timedOut cycles
  | failure => .errored failure.message

namespace RunSettings

/-- The identity wanted for a thing. -/
def specification (s : RunSettings) (thing : String) : Specification :=
  ⟨thing, s.policyName, s.thingGroup, s.certificatePath, s.keyPath⟩

/-- Where the logs of a campaign are kept. -/
def archive (s : RunSettings) : Archive :=
  ⟨s.logDirectory, s.logBucket⟩

/-- What a companion finds in its environment. -/
def environment (s : RunSettings) (identity : Identity) (endpoint : String) :
    List (String × String) :=
  [("DA_ENDPOINT", endpoint), ("DA_THING_NAME", identity.thingName),
    ("DA_CERTI", identity.certificatePath.text), ("DA_KEY", identity.keyPath.text)] ++
    match s.shadow with
    | none => []
    | some (property, value) =>
      [("DA_SHADOW_PROPERTY", property), ("DA_SHADOW_VALUE_DEFAULT", value)]

/-- The companion of a suite, ready to be launched. -/
def invocation (s : RunSettings) (spec : CompanionSpec) (identity : Identity)
    (endpoint : String) : Invocation :=
  ⟨spec.program, spec.arguments, spec.workingDirectory, s.environment identity endpoint,
    s.companionTimeout⟩

end RunSettings

/-- Starts the remote run of a suite and watches it. -/
def startAndWatch (s : RunSettings) (suite : Suite) (identity : Identity) :
    Program (Except SuiteFailure PollReport) := do
  -- A new thing needs a moment before a run on it can be started.
  Program.question (.pause s.poll)
  match ← Program.request (.startSuiteRun suite.suiteId identity.thingArn) with
  | .error cause => pure (.error (.start cause))
  | .ok job =>
    match ← Program.request (.getEndpoint identity.thingArn) with
    | .error cause => pure (.error (.endpoint cause))
    | .ok endpoint =>
      match ← watch s.poll job (s.invocation suite.companion identity endpoint) with
      | .error cause => pure (.error (.poll cause))
      | .ok report => pure (.ok report)

/-- Runs a suite on an identity up to the end of its watch. -/
def exercise (s : RunSettings) (suite : Suite) (identity : Identity) :
    Program (Except SuiteFailure PollReport) :=
  match s.shadow with
  | none => startAndWatch s suite identity
  | some (property, value) => do
    match ← seedShadow identity.thingName property value with
    | .error cause => pure (.error (.shadow cause))
    | .ok _ => startAndWatch s suite identity

/-- Where the log of a failed suite is reported to be: also in a file that could not
    be uploaded. -/
def reportedLog : Except ExportError Exported → Option String
  | .ok exported => some exported.text
  | .error (.upload path _ _) => some path.text
  | .error _ => none

/-- Takes down an identity or keeps it, as the end of the watch demands. -/
def conclude (s : RunSettings) (identity : Identity) (report : PollReport) :
    Program SuiteResult := do
  match Verdict.ofStatus report.status with
  | .passed =>
    let _ ← deprovision identity.thingName
    pure (.passed report.status)
  | .failed =>
    -- The thing stays, so that the failure can be looked into.
    let exported ← s.archive.keepUrl report.logUrl identity.thingName
    pure (.failed report.status (reportedLog exported))

/-- How a suite ends on an identity that was set up. -/
def settle (s : RunSettings) (identity : Identity) :
    Except SuiteFailure PollReport → Program SuiteResult
  | .ok report => conclude s identity report
  | .error failure => do
    let _ ← deprovision identity.thingName
    pure failure.result

/-- Runs one suite. Only a failure to set its identity up is an error. -/
def runSuite (s : RunSettings) (suite : Suite) :
    Program (Except ProvisionError SuiteReport) := do
  let fresh ← Program.question .freshName
  let thing := s.thingNamePrefix ++ fresh
  match ← provision (s.specification thing) with
  | .error e => pure (.error e)
  | .ok identity =>
    let outcome ← exercise s suite identity
    let result ← settle s identity outcome
    let _ ← removeCredentials identity.certificatePath identity.keyPath
    pure (.ok ⟨suite.name, some thing, result⟩)

/-- Runs suites in order after some were reported on. -/
def runSuites (s : RunSettings) :
    List SuiteReport → List Suite → Program (Except SetupFailure Summary)
  | reports, [] => pure (.ok ⟨reports⟩)
  | reports, suite :: rest =>
    if suite.disabled then runSuites s (reports ++ [⟨suite.name, none, .skipped⟩]) rest
    else do
      match ← runSuite s suite with
      -- Without an identity there is no point in going on with the others.
      | .error cause => pure (.error ⟨suite.name, cause, ⟨reports⟩⟩)
      | .ok report => runSuites s (reports ++ [report]) rest

/-- Runs the suites of a file. -/
def runCampaign (s : RunSettings) (file : SuiteFile) :
    Program (Except SetupFailure Summary) :=
  runSuites s [] file.suites

end Qualifier
