import Qualifier.Config.Settings

/-!
# Secrets in a Configuration

Three settings may refer to the secret store instead of saying what they mean:
a value that starts with `secret:` names a secret, whose text takes its place.
What comes out of the store is not looked up again.

## Main definitions

* `secretId?`: The secret a value refers to.
* `resolveValue`: One setting with its reference replaced.
* `Config.resolveSecrets`: All three, in order.
-/

namespace Qualifier

/-- The secret a value refers to, if it refers to one. -/
def secretId? (value : String) : Option String :=
  ("secret:".toList.isPrefixOf? value.toList).map fun cs => Text.trim (String.ofList cs)

/-- A setting with its reference replaced by what the secret store holds. -/
def resolveValue (key : String) :
    Option String → Program (Except ConfigError (Option String))
  | none => pure (.ok none)
  | some value =>
    match secretId? value with
    | none => pure (.ok (some value))
    | some id => do
      match ← Program.request (.getSecret id) with
      | .error cause => pure (.error (.secret key cause))
      | .ok secret => pure (.ok (some (Text.trim secret)))

/-- The configuration with its references replaced. The first one that cannot be
    looked up is reported, and no later one is looked up. -/
def Config.resolveSecrets (c : Config) : Program (Except ConfigError Config) := do
  match ← resolveValue "policy_name" c.policyName with
  | .error e => pure (.error e)
  | .ok policyName =>
    match ← resolveValue "thing_group" c.thingGroup with
    | .error e => pure (.error e)
    | .ok thingGroup =>
      match ← resolveValue "log_bucket" c.logBucket with
      | .error e => pure (.error e)
      | .ok logBucket =>
        pure (.ok { c with
          policyName := policyName, thingGroup := thingGroup, logBucket := logBucket })

end Qualifier
