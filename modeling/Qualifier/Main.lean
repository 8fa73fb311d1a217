import Qualifier.CommandLine.Session
import Qualifier.Outside.FreshName

/-!
# The Program

The outer layer: a session in the real world. It reads the arguments and the
environment, answers the questions of a session from the file system, the clock
and the source of random bytes, and prints what the session has to say. It starts
no other programs, so every request to a service is answered with a failure to
start the client.

## Main definitions

* `answer`: The real world.
* `main`: The program.
-/

namespace Qualifier

namespace Outer

/-- A fault of the file system. -/
def faultOf : IO.Error → Storage.Fault
  | .noFileOrDirectory .. => .notFound
  | .permissionDenied .. => .permissionDenied
  | .alreadyExists .. => .alreadyExists
  | .inappropriateType .. => .isDirectory
  | e => .other (toString e)

/-- The answer to an access to a path. -/
def accessing {α : Type} (path : Path) (action : IO α) : IO (Except Storage.FileError α) := do
  match ← action.toBaseIO with
  | .ok a => return .ok a
  | .error e => return .error (.access path (faultOf e))

/-- Makes the directories that lead to a path. -/
def makeParents (path : Path) : IO Unit := do
  match path.parent? with
  | some parent => if parent.text ≠ "" then IO.FS.createDirAll parent.text
  | none => return

/-- A runner that starts nothing. -/
def refuse : Runner Unit := fun command s =>
  (.error ⟨command.program, "starting programs is not supported"⟩, s)

/-- The rights of a file that only its owner may read or write. -/
def ownerOnly : IO.FileRight :=
  ⟨⟨true, true, false⟩, ⟨false, false, false⟩, ⟨false, false, false⟩⟩

/-- Random bytes as a word. -/
def randomWord : IO UInt64 := do
  let bytes ← IO.getRandomBytes 8
  return bytes.toList.foldl (fun n b => n * 256 + b.toUInt64) 0

/-- Answers a question in the real world. -/
def answer (client : Client) : (question : Ask) → IO question.Answer
  | .service request => return (client.service refuse request ()).1
  | .write path text => accessing path do
    makeParents path
    IO.FS.writeFile path.text text
  | .writePrivate path text => accessing path do
    makeParents path
    let _ ← (IO.FS.removeFile path.text).toBaseIO
    IO.FS.writeFile path.text ""
    IO.setAccessRights path.text ownerOnly
    IO.FS.writeFile path.text text
  | .read path => accessing path (IO.FS.readFile path.text)
  | .remove path => do
    match ← (IO.FS.removeFile path.text).toBaseIO with
    | .ok () => return .ok true
    | .error e =>
      match faultOf e with
      | .notFound => return .ok false
      | fault => return .error (.access path fault)
  | .fetch path => do
    let found := do
      let place ← IO.FS.realPath path.text
      return Storage.Finding.mk ⟨place.toString⟩ (← IO.FS.readBinFile place)
    match ← found.toBaseIO with
    | .ok finding => return .ok finding
    | .error e => return .error (faultOf e)
  | .launch invocation => return .error ⟨invocation.program, "starting programs is not supported"⟩
  | .pause policy => do
    let (span, _) := policy.jitter [← randomWord]
    IO.sleep (UInt32.ofNat (span.toNanos / 1000000))
  | .freshName => return FreshName.identifier (← IO.getRandomBytes 16).toList

/-- The variables that matter to a session, as far as they are set. -/
def environment : IO Environment := do
  let names := ["HOME", "XDG_CONFIG_HOME", "XDG_CONFIG_DIRS", "TETHER_CONFIG_PATH"] ++
    Setting.all.map Setting.environmentName
  let found ← names.mapM fun name => do
    return (← IO.getEnv name).map fun value => (name, value)
  return found.filterMap id

end Outer

end Qualifier

/-- Runs a session and leaves with its exit code. -/
def main (arguments : List String) : IO UInt32 := do
  let workingDirectory ← IO.currentDir
  let ending ← Qualifier.session
    (fun client _ program => program.interpret (Qualifier.Outer.answer client))
    (← Qualifier.Outer.environment) ⟨workingDirectory.toString⟩ arguments
  (← IO.getStdout).putStr ending.stdout
  (← IO.getStderr).putStr ending.stderr
  return UInt32.ofNat ending.exitCode
