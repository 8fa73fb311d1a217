import Qualifier.Json.Shape
import Qualifier.Outside.Program
import Qualifier.Text.Blank

/-!
# Suite Files

The file that lists the suites to run, each with the companion that plays the
device. A file is accepted if it has the right shape and no field that has to say
something is blank.

## Main definitions

* `CompanionSpec`, `Suite`, `SuiteFile`: What a file holds.
* `SuiteFileError`: Why a file is not accepted.
* `Suite.blankField?`: The first field that is blank.
* `SuiteFile.parse`, `SuiteFile.load`: A file from its text, and from its path.
* `SuiteFile.select`: The suites with given names.
-/

namespace Qualifier

/-- The companion of a suite. -/
structure CompanionSpec where
  program : String
  arguments : List String
  workingDirectory : Option Path
deriving DecidableEq, Repr

/-- A suite to run. -/
structure Suite where
  name : String
  suiteId : String
  disabled : Bool
  companion : CompanionSpec
deriving DecidableEq, Repr

/-- The suites of a file, in order. -/
structure SuiteFile where
  suites : List Suite
deriving DecidableEq, Repr

/-- Why a suite file is not accepted, or has no suite of some name. -/
inductive SuiteFileError where
  | read (cause : Storage.FileError)
  | parse (path : Path) (detail : String)
  | blankField (path : Path) (index : Nat) (field : String)
  | unknownSuite (name : String)
deriving DecidableEq, Repr

/-- The wording of a suite file error. -/
def SuiteFileError.message : SuiteFileError → String
  | .read cause => "failed to read suite file: " ++ cause.message
  | .parse path detail => "failed to parse suite file " ++ path.text ++ ": " ++ detail
  | .blankField path index field =>
    "suite " ++ toString index ++ " in " ++ path.text ++ " has an empty " ++ field
  | .unknownSuite name => "no suite named " ++ name

section Shapes

open Json

/-- A path in a suite file. -/
def pathShape : Decoder Path := fun node =>
  (stringAs "a UTF-8 path string" node).map Path.mk

/-- The companion of a suite; the only record that refuses unknown members. -/
def companionShape : Decoder CompanionSpec := fun node => do
  let shape : Record :=
    ⟨"struct CompanionSpec",
      [.of "program" string, .withDefault "args" (list string),
        .withDefault "working_dir" (nullable pathShape)], true⟩
  let members ← shape.members node
  return ⟨← members.required "program" string, ← members.getD "args" (list string) [],
    ← members.getD "working_dir" (nullable pathShape) none⟩

/-- A suite of a file. -/
def suiteShape : Decoder Suite := fun node => do
  let shape : Record :=
    ⟨"struct SuiteDefinition",
      [.of "test_name" string, .of "test_suite_id" string, .withDefault "disabled" boolean,
        .of "companion" companionShape], false⟩
  let members ← shape.members node
  return ⟨← members.required "test_name" string, ← members.required "test_suite_id" string,
    ← members.getD "disabled" boolean false, ← members.required "companion" companionShape⟩

/-- A whole file. -/
def suiteFileShape : Decoder SuiteFile := fun node => do
  let shape : Record := ⟨"struct SuiteFile", [.of "test_suites" (list suiteShape)], false⟩
  let members ← shape.members node
  return ⟨← members.required "test_suites" (list suiteShape)⟩

end Shapes

/-- The fields of a suite that have to say something, in the order of their checks. -/
def Suite.spokenFields (s : Suite) : List (String × String) :=
  [("test_name", s.name), ("test_suite_id", s.suiteId),
    ("companion.program", s.companion.program)]

/-- The first field of a suite that is blank. -/
def Suite.blankField? (s : Suite) : Option String :=
  (s.spokenFields.find? fun f => Text.trim f.2 = "").map Prod.fst

/-- The first suite with a blank field, counted from `index`, and that field. -/
def firstBlank? : (index : Nat) → List Suite → Option (Nat × String)
  | _, [] => none
  | index, suite :: rest =>
    match suite.blankField? with
    | some field => some (index, field)
    | none => firstBlank? (index + 1) rest

namespace SuiteFile

/-- A suite file from its text; `origin` is the path named in complaints. -/
def parse (origin : Path) (contents : String) (wording : Json.Wording := .brief) :
    Except SuiteFileError SuiteFile :=
  match Json.decode suiteFileShape contents with
  | .error e => .error (.parse origin (wording contents e))
  | .ok file =>
    match firstBlank? 0 file.suites with
    | some (index, field) => .error (.blankField origin index field)
    | none => .ok file

/-- A suite file from its path. -/
def load (path : Path) : Program (Except SuiteFileError SuiteFile) := do
  match ← Program.question (.read path) with
  | .error cause => pure (.error (.read cause))
  | .ok contents => pure (parse path contents)

/-- The suites that are not disabled. -/
def enabled (f : SuiteFile) : List Suite :=
  f.suites.filter fun s => !s.disabled

/-- Whether a file has a suite of some name. -/
def hasSuite (f : SuiteFile) (name : String) : Bool :=
  f.suites.any fun s => s.name = name

/-- The suites whose names are listed, in the order of the file; all of them if no
    name is listed. -/
def select (f : SuiteFile) (names : List String) : Except SuiteFileError SuiteFile :=
  match names with
  | [] => .ok f
  | names =>
    match names.find? fun name => !f.hasSuite name with
    | some missing => .error (.unknownSuite missing)
    | none => .ok ⟨f.suites.filter fun s => s.name ∈ names⟩

end SuiteFile

end Qualifier
