import Qualifier.Config.Discovery
import Qualifier.Config.Document
import Qualifier.Config.Settings

/-!
# Loading a Configuration

A configuration from its defaults, one file and the environment, of which the
later ones count. Whatever value counts in the end has to fit its setting; values
that are overridden, and keys that no setting has, are not looked at.

## Main definitions

* `textSetting`, `countSetting`, `optionalSetting`: A value for a setting.
* `Config.ofEntries`: A configuration from entries.
* `Config.load`: A configuration from the world outside.
-/

namespace Qualifier

/-- A setting that is a text. -/
def textSetting (entries : Entries) (key default : String) : Except ConfigError String :=
  match entries.get? key with
  | none => .ok default
  | some (.text s) => .ok s
  | some _ => .error .unreadable

/-- A setting that is a text or not there. -/
def optionalSetting (entries : Entries) (key : String) :
    Except ConfigError (Option String) :=
  match entries.get? key with
  | none | some .nothing => .ok none
  | some (.text s) => .ok (some s)
  | some _ => .error .unreadable

/-- A setting that is a number of seconds. -/
def countSetting (entries : Entries) (key : String) (default : UInt64) :
    Except ConfigError UInt64 :=
  match entries.get? key with
  | none => .ok default
  | some (.integer n) =>
    if 0 ≤ n ∧ n < 0x10000000000000000 then .ok (UInt64.ofNat n.toNat) else .error .unreadable
  | some _ => .error .unreadable

namespace Config

/-- The configuration that entries amount to, with defaults where they say nothing. -/
def ofEntries (entries : Entries) : Except ConfigError Config := do
  let defaults : Config := {}
  return {
    region := ← textSetting entries "region" defaults.region
    awsBin := ← textSetting entries "aws_bin" defaults.awsBin
    policyName := ← optionalSetting entries "policy_name"
    thingGroup := ← optionalSetting entries "thing_group"
    thingNamePrefix := ← textSetting entries "thing_name_prefix" defaults.thingNamePrefix
    suitesFile := ← textSetting entries "suites_file" defaults.suitesFile
    certificatePath := ← textSetting entries "certificate_path" defaults.certificatePath
    keyPath := ← textSetting entries "key_path" defaults.keyPath
    logDir := ← textSetting entries "log_dir" defaults.logDir
    logBucket := ← optionalSetting entries "log_bucket"
    backoffMinSecs := ← countSetting entries "backoff_min_secs" defaults.backoffMinSecs
    backoffMaxSecs := ← countSetting entries "backoff_max_secs" defaults.backoffMaxSecs
    runCeilingSecs := ← countSetting entries "run_ceiling_secs" defaults.runCeilingSecs
    companionTimeoutSecs :=
      ← countSetting entries "companion_timeout_secs" defaults.companionTimeoutSecs
    shadowProperty := ← optionalSetting entries "shadow_property"
    shadowDefault := ← optionalSetting entries "shadow_default" }

/-- The configuration of a process: the first file that can be loaded, overridden by
    the environment. -/
def load (env : Environment) : Program (Except ConfigError Config) := do
  match ← loadFirst false env.configPlaces with
  | none => pure (.error .unreadable)
  -- The environment comes last, so what it says counts.
  | some entries => pure (ofEntries (entries ++ env.entries))

end Config

end Qualifier
