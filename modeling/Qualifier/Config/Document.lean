import Qualifier.Config.Toml.Reader
import Qualifier.Config.Json5
import Qualifier.Config.Yaml.Reader
import Qualifier.Outside.Program

/-!
# Configuration Files

A configuration file with the files it builds on. The ending of its name tells the
format. Under the key `extends` a file may name another one, relative to itself,
whose entries it overrides; such a chain has to end. Where a link leads to a file,
the name and the place of the file itself count.

## Main definitions

* `readDocument`: The entries of a file from its bytes.
* `baseOf`: The file another one builds on.
* `loadChain`: A file with all it builds on.
* `loadFirst`: The first file that can be loaded.
-/

namespace Qualifier

/-- The ending of a path's name in small letters. -/
def Path.ending (p : Path) : String :=
  match p.fileName? with
  | none => ""
  | some name =>
    match Text.beforeLast? '.' name.toList with
    | none | some [] => ""
    | some _ => String.ofList ((Text.afterLast '.' name.toList).map Char.toLower)

/-- The entries of a file in the format that its name tells. -/
def readDocument (path : Path) (content : ByteArray) : Option Entries := do
  let text ← Text.strict? content
  match path.ending with
  | "json" | "json5" => Json5.read text
  | "yaml" | "yml" => Yaml.read text
  | _ => Toml.read text

/-- What the entry `extends` of a file says. -/
inductive Base where
  | none
  | file (path : Path)
  | unusable
deriving DecidableEq, Repr

/-- The file that a file with these entries builds on. -/
def baseOf (path : Path) (entries : Entries) : Base :=
  match entries.get? "extends" with
  | .none => .none
  | some (.text "") => .unusable
  | some (.text name) => .file (((path.parent?).getD ⟨""⟩).join ⟨name⟩)
  | some _ => .unusable

/-- The longest chain of files that build on each other. -/
def chainLimit : Nat := 256

/-- A file's entries after those of all it builds on. At most `fuel` further files are
    looked at; a chain that goes on longer runs in a circle. -/
def loadChain : (fuel : Nat) → (seen : List Path) → Storage.Finding → Program (Option Entries)
  | fuel, seen, file =>
    match readDocument file.place file.content with
    | none => pure none
    | some entries =>
      match baseOf file.place entries with
      | .none => pure (some entries)
      | .unusable => pure none
      | .file base =>
        match fuel with
        | 0 => pure none
        | fuel + 1 => do
          match ← Program.question (.fetch base) with
          | .error _ => pure none
          | .ok found =>
            -- A file that builds on itself, directly or not, cannot be loaded.
            if found.place ∈ file.place :: seen then pure none
            else
              match ← loadChain fuel (file.place :: seen) found with
              | none => pure none
              | some inherited => pure (some (inherited ++ entries))

/-- The entries of the first file that is there and can be loaded. Where there is
    none, the result is empty, unless some file is there. `failed` tells whether one
    was found before that could not be loaded. -/
def loadFirst : (failed : Bool) → List Path → Program (Option Entries)
  | failed, [] => pure (if failed then none else some [])
  | failed, place :: rest => do
    match ← Program.question (.fetch place) with
    | .error _ => loadFirst failed rest
    | .ok file =>
      match ← loadChain chainLimit [] file with
      | some entries => pure (some entries)
      -- A later place may make up for it.
      | none => loadFirst true rest

end Qualifier
