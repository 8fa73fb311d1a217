import Qualifier.Campaign.Run

/-!
# Configuration

The sixteen settings of the program, what has to hold of them, and the settings of
a campaign that follow from them. Complaints name the setting, and the environment
variable and file key that would mend it.

## Main definitions

* `Config`: The settings.
* `Setting`: A setting as it is named in complaints.
* `ConfigError`: What is wrong with a configuration.
* `Config.validate`: The checks, in order.
* `Config.pollPolicy`: The policy that follows from the bounds.
* `Config.runSettings`: The settings of a campaign.

## Theorems

* `requireField_bind_ok_iff`, `requireOptional_bind_ok_iff`: When the checks go on.
* `Config.credentialPaths_ne_empty`: What is checked of the paths that are made absolute.
-/

namespace Qualifier

/-- The settings of the program. -/
structure Config where
  region : String := "us-east-1"
  awsBin : String := "aws"
  policyName : Option String := none
  thingGroup : Option String := none
  thingNamePrefix : String := "tether-"
  suitesFile : String := "suites.json"
  certificatePath : String := "certificate.pem.crt"
  keyPath : String := "private.pem.key"
  logDir : String := "."
  logBucket : Option String := none
  backoffMinSecs : UInt64 := 5
  backoffMaxSecs : UInt64 := 10
  runCeilingSecs : UInt64 := 3600
  companionTimeoutSecs : UInt64 := 120
  shadowProperty : Option String := none
  shadowDefault : Option String := none
deriving DecidableEq, Repr

/-- A setting as it is named in complaints. -/
structure Setting where
  description : String
  key : String
deriving DecidableEq, Repr

namespace Setting

/-- The environment variable of a setting. -/
def environmentName (s : Setting) : String :=
  "TETHER_" ++ String.ofList (s.key.toList.map Char.toUpper)

/-- How a setting can be mended. -/
def hint (s : Setting) : String :=
  "set " ++ s.environmentName ++ " or add " ++ s.key ++ " to tether.toml"

/-- The region every call is made in. -/
def region : Setting := ⟨"region", "region"⟩

/-- The client program. -/
def awsBin : Setting := ⟨"AWS CLI binary", "aws_bin"⟩

/-- The policy attached to every certificate. -/
def policyName : Setting := ⟨"IoT policy name", "policy_name"⟩

/-- The group every thing joins. -/
def thingGroup : Setting := ⟨"thing group", "thing_group"⟩

/-- What the names of things start with. -/
def thingNamePrefix : Setting := ⟨"thing name prefix", "thing_name_prefix"⟩

/-- The suite file. -/
def suitesFile : Setting := ⟨"suite file", "suites_file"⟩

/-- Where the certificate is written. -/
def certificatePath : Setting := ⟨"certificate path", "certificate_path"⟩

/-- Where the private key is written. -/
def keyPath : Setting := ⟨"private key path", "key_path"⟩

/-- The directory for logs. -/
def logDir : Setting := ⟨"log directory", "log_dir"⟩

/-- The bucket for logs. -/
def logBucket : Setting := ⟨"log bucket", "log_bucket"⟩

/-- The property of the shadow. -/
def shadowProperty : Setting := ⟨"shadow property", "shadow_property"⟩

/-- The first value of the shadow's property. -/
def shadowDefault : Setting := ⟨"shadow default value", "shadow_default"⟩

/-- The settings that complaints may name, and after them the numbers of seconds. -/
def all : List Setting :=
  [region, awsBin, policyName, thingGroup, thingNamePrefix, suitesFile, certificatePath, keyPath,
    logDir, logBucket, shadowProperty, shadowDefault,
    ⟨"shortest wait", "backoff_min_secs"⟩, ⟨"longest wait", "backoff_max_secs"⟩,
    ⟨"run ceiling", "run_ceiling_secs"⟩, ⟨"companion timeout", "companion_timeout_secs"⟩]

end Setting

/-- What is wrong with a configuration. -/
inductive ConfigError where
  /-- A setting that has to say something is missing or blank. -/
  | missingField (field : Setting)
  /-- Only the other half of the shadow is configured. -/
  | missingHalf (field : Setting) (other : String)
  | noCompanionTime
  | policy (cause : PolicyError)
  /-- A file or variable cannot be read as a configuration. -/
  | unreadable
  | secret (key : String) (cause : ServiceError)
deriving DecidableEq, Repr

/-- What would mend bounds that make no policy. -/
def PolicyError.hint : PolicyError → String
  | .invertedBackoff _ _ =>
    "adjust TETHER_BACKOFF_MIN_SECS or TETHER_BACKOFF_MAX_SECS " ++
      "(backoff_min_secs / backoff_max_secs in tether.toml)"
  | .emptyBudget _ _ => "raise TETHER_RUN_CEILING_SECS or add run_ceiling_secs to tether.toml"

/-- The wording of a configuration error. -/
def ConfigError.message : ConfigError → String
  | .missingField field =>
    "missing configuration field: missing " ++ field.description ++ ": " ++ field.hint
  | .missingHalf field other =>
    "missing configuration field: missing " ++ field.description ++ " for the configured " ++
      other ++ ": " ++ field.hint
  | .noCompanionTime =>
    "invalid configuration: companion timeout must be at least one second: " ++
      "set TETHER_COMPANION_TIMEOUT_SECS or add companion_timeout_secs to tether.toml"
  | .policy cause => "invalid configuration: " ++ cause.message ++ ": " ++ cause.hint
  | .unreadable => "configuration parsing failed"
  | .secret key cause => "failed to resolve secret for " ++ key ++ ": " ++ cause.message

/-- A setting that has to say something. -/
def requireField (field : Setting) (value : String) : Except ConfigError Unit :=
  if Text.trim value = "" then .error (.missingField field) else .ok ()

/-- A setting that has to say something if it is there. -/
def requireOptional (field : Setting) : Option String → Except ConfigError Unit
  | none => .ok ()
  | some value => requireField field value

/-- Checks go on after a setting that has to say something exactly if it does. -/
theorem requireField_bind_ok_iff {field : Setting} {value : String}
    {next : Unit → Except ConfigError Unit} :
    (requireField field value >>= next) = .ok () ↔ Text.trim value ≠ "" ∧ next () = .ok () := by
  unfold requireField
  by_cases hblank : Text.trim value = ""
  · simp [hblank, bind, Except.bind]
  · simp [hblank, bind, Except.bind]

/-- The same for a setting that may be left out. -/
theorem requireOptional_bind_ok_iff {field : Setting} {value : Option String}
    {next : Unit → Except ConfigError Unit} :
    (requireOptional field value >>= next) = .ok () ↔
      (∀ text, value = some text → Text.trim text ≠ "") ∧ next () = .ok () := by
  cases value with
  | none => simp [requireOptional, bind, Except.bind]
  | some text => simpa [requireOptional] using requireField_bind_ok_iff

namespace Config

/-- The property and the first value of the shadow are configured together or not at
    all. -/
def checkShadow (c : Config) : Except ConfigError Unit :=
  match c.shadowProperty, c.shadowDefault with
  | some _, none => .error (.missingHalf .shadowDefault "shadow property")
  | none, some _ => .error (.missingHalf .shadowProperty "shadow default")
  | _, _ => .ok ()

/-- The policy that follows from the bounds and the ceiling. -/
def pollPolicy (c : Config) : Except ConfigError Policy :=
  match Policy.ofCeiling? (.ofSeconds c.backoffMinSecs) (.ofSeconds c.backoffMaxSecs)
      (.ofSeconds c.runCeilingSecs) with
  | .ok policy => .ok policy
  | .error cause => .error (.policy cause)

/-- The checks of a configuration. The first one that fails is reported. -/
def validate (c : Config) : Except ConfigError Unit := do
  requireField .region c.region
  requireField .awsBin c.awsBin
  requireField .policyName (c.policyName.getD "")
  requireOptional .thingGroup c.thingGroup
  requireField .thingNamePrefix c.thingNamePrefix
  requireField .suitesFile c.suitesFile
  requireField .certificatePath c.certificatePath
  requireField .keyPath c.keyPath
  requireField .logDir c.logDir
  requireOptional .logBucket c.logBucket
  requireOptional .shadowProperty c.shadowProperty
  requireOptional .shadowDefault c.shadowDefault
  c.checkShadow
  -- The numbers are checked last, when all texts are known to say something.
  if c.companionTimeoutSecs = 0 then .error .noCompanionTime
  else
    let _ ← c.pollPolicy

/-- How long a companion may take. -/
def companionTimeout (c : Config) : Span :=
  .ofSeconds c.companionTimeoutSecs

/-- The shadow, if it is configured. -/
def shadow (c : Config) : Option (String × String) :=
  match c.shadowProperty, c.shadowDefault with
  | some property, some value => some (property, value)
  | _, _ => none

/-- The paths of the credentials say something once a configuration is found in order. -/
theorem credentialPaths_ne_empty {c : Config} (h : c.validate = .ok ()) :
    c.certificatePath ≠ "" ∧ c.keyPath ≠ "" := by
  simp only [validate, requireField_bind_ok_iff, requireOptional_bind_ok_iff] at h
  rcases h with ⟨-, -, -, -, -, -, hcertificate, hkey, -⟩
  refine ⟨?_, ?_⟩
  · rintro hempty
    exact hcertificate (by rw [hempty]; rfl)
  · rintro hempty
    exact hkey (by rw [hempty]; rfl)

/-- The settings of a campaign, with credential paths read from a working directory,
    so that a companion finds them from anywhere. -/
def runSettings (c : Config) (workingDirectory : Path) : Except ConfigError RunSettings :=
  match h : c.validate with
  | .error e => .error e
  | .ok () => do
    let policy ← c.pollPolicy
    return {
      policyName := c.policyName.getD ""
      thingGroup := c.thingGroup
      thingNamePrefix := c.thingNamePrefix
      certificatePath :=
        Path.absolute workingDirectory ⟨c.certificatePath⟩ (credentialPaths_ne_empty h).1
      keyPath := Path.absolute workingDirectory ⟨c.keyPath⟩ (credentialPaths_ne_empty h).2
      logDirectory := ⟨c.logDir⟩
      logBucket := c.logBucket
      poll := policy
      companionTimeout := c.companionTimeout
      shadow := c.shadow }

end Config

end Qualifier
