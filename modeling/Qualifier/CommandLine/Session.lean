import Qualifier.Campaign.Run
import Qualifier.CommandLine.Arguments
import Qualifier.Config.Load
import Qualifier.Config.Secrets
import Qualifier.Service.Client

/-!
# Sessions

One call of the program from its arguments to its exit code. The configuration is
loaded and its secrets are looked up before any task; what a task has to say goes
to the output, the reason of a failure to the error output.

## Main definitions

* `SessionError`: Why a session fails.
* `Ending`: What a session leaves behind.
* `Task.perform`: A task under a configuration.
* `session`: A whole session.
* `sessionIn`: A session in a world made of values.
-/

namespace Qualifier

/-- Why a session fails. -/
inductive SessionError where
  | config (cause : ConfigError)
  | suites (cause : SuiteFileError)
  | provision (cause : ProvisionError)
  | setup (cause : SetupFailure)
deriving DecidableEq, Repr

/-- The wording of a failed session. -/
def SessionError.message : SessionError → String
  | .config cause => "configuration error: " ++ cause.message
  | .suites cause => "suite file error: " ++ cause.message
  | .provision cause => "provisioning failed: " ++ cause.message
  | .setup cause => cause.message

/-- What a session leaves behind: its exit code and what it wrote. -/
structure Ending where
  exitCode : Nat
  stdout : String
  stderr : String
deriving DecidableEq, Repr

/-- A session that has done its work. -/
def Ending.success (stdout : String) : Ending :=
  ⟨0, stdout, ""⟩

/-- A session that failed after it wrote something. -/
def Ending.failure (stdout : String) (cause : SessionError) : Ending :=
  ⟨1, stdout, cause.message ++ "\n"⟩

/-- The services of a configuration. -/
def Config.client (c : Config) : Client :=
  ⟨c.awsBin, c.region⟩

/-- What is reported of an identity that was set up. -/
def Identity.report (i : Identity) : String :=
  "thing: " ++ i.thingArn ++ "\ncertificate: " ++ i.certificateArn ++ "\ncertificate file: " ++
    i.certificatePath.text ++ "\nkey file: " ++ i.keyPath.text ++ "\n"

/-- What is reported of an identity that was taken down. -/
def Teardown.report (t : Teardown) (thing : String) : String :=
  if t.thing then
    "deleted " ++ thing ++ " and " ++ toString t.certificates ++ " certificate(s)\n"
  else thing ++ " was already absent\n"

/-- Runs the suites with given names. -/
def runTask (c : Config) (workingDirectory : Path) (names : List String) : Program Ending :=
  match c.runSettings workingDirectory with
  | .error e => pure (.failure "" (.config e))
  | .ok settings => do
    match ← SuiteFile.load ⟨c.suitesFile⟩ with
    | .error e => pure (.failure "" (.suites e))
    | .ok file =>
      match file.select names with
      | .error e => pure (.failure "" (.suites e))
      | .ok selected =>
        match ← runCampaign settings selected with
        -- The suites before the failed one are reported nevertheless.
        | .error failure => pure (.failure failure.completed.text (.setup failure))
        | .ok summary => pure ⟨summary.exitCode, summary.text, ""⟩

/-- Sets up the identity of a thing. -/
def provisionTask (c : Config) (thing : String) (group certificate key : Option String) :
    Program Ending :=
  match c.validate with
  | .error e => pure (.failure "" (.config e))
  | .ok () => do
    match ← provision ⟨thing, c.policyName.getD "", group.or c.thingGroup,
        ⟨certificate.getD c.certificatePath⟩, ⟨key.getD c.keyPath⟩⟩ with
    | .error e => pure (.failure "" (.provision e))
    | .ok identity => pure (.success identity.report)

/-- Takes down the identity of a thing. -/
def deprovisionTask (thing : String) : Program Ending := do
  match ← deprovision thing with
  | .error e => pure (.failure "" (.provision e))
  | .ok teardown => pure (.success (teardown.report thing))

/-- A task under a configuration whose secrets are still to be looked up. -/
def Task.perform (task : Task) (c : Config) (workingDirectory : Path) : Program Ending := do
  match ← c.resolveSecrets with
  | .error e => pure (.failure "" (.config e))
  | .ok c =>
    match task with
    | .run names => runTask c workingDirectory names
    | .provision thing group certificate key => provisionTask c thing group certificate key
    | .deprovision thing => deprovisionTask thing

/-- How the program is used. -/
def usageText : String :=
  "Provision disposable IoT identities and run remote qualification suites against them\n\n" ++
    "Usage: tether <COMMAND>\n\n" ++
    "Commands:\n" ++
    "  run          Run the configured qualification suites\n" ++
    "                 [--suite <NAME>]...\n" ++
    "  provision    Provision a thing and write its credentials\n" ++
    "                 --thing-name <NAME> [--thing-group <GROUP>]\n" ++
    "                 [--certificate <PATH>] [--key <PATH>]\n" ++
    "  deprovision  Remove a thing and every certificate attached to it\n" ++
    "                 --thing-name <NAME>\n" ++
    "  help         Print this message\n\n" ++
    "Options:\n" ++
    "  -h, --help     Print help\n" ++
    "  -V, --version  Print version\n"

/-- What the program answers when it is asked for its version. -/
def versionText : String :=
  "tether 0.1.0\n"

/-- A whole session in a monad that runs programs with the services of a client. -/
def session {m : Type → Type} [Monad m] (perform : Client → (α : Type) → Program α → m α)
    (env : Environment) (workingDirectory : Path) (words : List String) : m Ending :=
  match Demand.ofWords words with
  | .help => pure (.success usageText)
  | .version => pure (.success versionText)
  | .refused => pure ⟨2, "", usageText⟩
  | .perform task => do
    -- Loading makes no requests, so any client will do for it.
    let defaults : Config := {}
    match ← perform defaults.client _ (Config.load env) with
    | .error e => pure (.failure "" (.config e))
    | .ok c => perform c.client _ (task.perform c workingDirectory)

/-- A whole session in a world that depends on the client. -/
def sessionIn {σ : Type} (worlds : Client → World σ) (env : Environment)
    (workingDirectory : Path) (words : List String) (s : σ) : Ending × σ :=
  session (m := StateM σ) (fun client _ p => p.run (worlds client)) env workingDirectory words s

end Qualifier
