import Qualifier.Config.Environment
import Qualifier.Path

/-!
# Where a Configuration File May Lie

The places at which a configuration file is looked for, the first one first: where
a variable says, in the configuration directories of the user and of the system,
in the user's home, and in the working directory.

## Main definitions

* `Environment.configPlaces`: The places, in order.
-/

namespace Qualifier

namespace Environment

/-- The places in one configuration directory. -/
def placesIn (base : Path) : List Path :=
  ["tether/tether.toml", ".tether.toml", "tether/tether.json", "tether/tether.json5",
    "tether/tether.yaml", "tether/tether.yml"].map fun name => base.join ⟨name⟩

/-- The place a variable names, if it names one. -/
def namedPlace (env : Environment) : List Path :=
  (((env.get? "TETHER_CONFIG_PATH").filter (· ≠ "")).map Path.mk).toList

/-- The configuration directories of the system. -/
def systemBases (env : Environment) : List Path :=
  let named := (Text.segments ':' ((env.get? "XDG_CONFIG_DIRS").getD "").toList).filterMap
    fun cs => if cs.isEmpty then none else some (Path.mk (String.ofList cs))
  if named.isEmpty then [⟨"/etc/xdg"⟩] else named

/-- The places in the user's own configuration directory. -/
def userPlaces (env : Environment) : List Path :=
  match env.get? "XDG_CONFIG_HOME" with
  | none => []
  | some base => placesIn ⟨base⟩

/-- The places in the user's home. -/
def homePlaces (env : Environment) : List Path :=
  match env.get? "HOME" with
  | none => []
  | some home =>
    placesIn ((Path.mk home).join ⟨".config"⟩) ++ [(Path.mk home).join ⟨".tether.toml"⟩]

/-- The places at which a configuration file is looked for, in order. -/
def configPlaces (env : Environment) : List Path :=
  env.namedPlace ++ env.userPlaces ++ env.systemBases.flatMap placesIn ++ env.homePlaces ++
    [⟨"tether.toml"⟩]

end Environment

end Qualifier
