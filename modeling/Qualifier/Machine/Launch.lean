import Qualifier.Companion
import Qualifier.Machine.Process
import Qualifier.Service.Command

/-!
# Running Programs on a Machine

A machine that knows a shell and a few small programs, and that can run scripts
lying among its files. It runs commands to their end and companions until their
time is up.

## Main definitions

* `Image`, `image`: What a program's name or path stands for.
* `environmentOf`: The variables a companion is given.
* `runScript`, `runStatement`, `runProgram`: The shell.
* `Machine.runner`: The machine as a runner of commands.
* `Machine.launcher`: The machine as a launcher of companions.
-/

namespace Qualifier

namespace Machine

/-- What a program's name stands for. -/
inductive Image where
  | tool (name : String)
  | shell
  | script (text : String)
deriving DecidableEq, Repr

/-- The names of the shell. -/
def shellNames : List String :=
  ["sh", "dash", "bash"]

/-- The program of a name without a path. -/
def known? (name : String) : Option Image :=
  if name ∈ shellNames then some .shell
  else if name ∈ toolNames then some (.tool name)
  else none

/-- The program of a path into one of the directories for programs. -/
def installed? (path : String) : Option Image :=
  ["/bin/", "/usr/bin/"].findSome? fun directory =>
    (directory.toList.isPrefixOf? path.toList).bind fun name => known? (String.ofList name)

/-- The words of a line. -/
def wordsOf (cs : List Char) : List String :=
  ((Text.segments ' ' cs).filter fun w => !w.isEmpty).map String.ofList

/-- Whether the program that a file's first line hands it to is the shell. -/
def isForShell (interpreter : List String) : Bool :=
  match interpreter with
  | "/usr/bin/env" :: name :: _ => name ∈ shellNames
  | path :: _ => installed? path == some .shell
  | [] => false

/-- What a file with this text runs as. A file whose first line names no program is
    a script only to a forgiving caller. -/
def imageOfText (forgiving : Bool) (text : String) : Except Storage.Fault Image :=
  match text.toList with
  | '#' :: '!' :: rest =>
    if isForShell (wordsOf (rest.takeWhile (· != '\n'))) then .ok (.script text)
    else .error .notFound
  | _ => if forgiving then .ok (.script text) else .error (.other "Exec format error (os error 8)")

/-- What the file at a path runs as, unless a known program lies there. -/
def imageAt (forgiving : Bool) (files : Storage.Workspace) (path : String) :
    Except Storage.Fault Image :=
  let missing := (installed? path).elim (.error .notFound) .ok
  match files.tree.target ⟨none, true⟩ files.workingDirectory ⟨path⟩ with
  | .error .notFound => missing
  | .error fault => .error fault
  | .ok (.directory _) => .error .permissionDenied
  | .ok (.entry within name slash) =>
    match files.tree.get? (within ++ [name]) with
    | some (.file content mode) =>
      if slash then .error .notDirectory
      else if mode &&& 0o111 = 0 then .error .permissionDenied
      else imageOfText forgiving (Text.lossy content)
    | some _ => .error .permissionDenied
    | none => missing

/-- What a name stands for in the first of these directories that has a program of
    that name, and the path it was found under. A file that may not be run is passed
    over, but remembered in `denied`. -/
def searched (forgiving : Bool) (files : Storage.Workspace) (name : String) :
    (denied : Bool) → List String → Except Storage.Fault (Image × String)
  | denied, [] => .error (if denied then .permissionDenied else .notFound)
  | denied, directory :: rest =>
    -- An empty entry is the working directory.
    let path := if directory = "" then name else directory ++ "/" ++ name
    match imageAt forgiving files path with
    | .ok found => .ok (found, path)
    | .error .notFound | .error .notDirectory => searched forgiving files name denied rest
    | .error .permissionDenied => searched forgiving files name true rest
    | .error fault => .error fault

/-- What a program's name or path stands for, and the path it was found under. Names
    are looked for in the directories of a search path. -/
def image (forgiving : Bool) (searchPath : String) (files : Storage.Workspace)
    (program : String) : Except Storage.Fault (Image × String) :=
  if '/' ∈ program.toList then (imageAt forgiving files program).map fun found => (found, program)
  else if program = "" then .error .notFound
  else
    searched forgiving files program false
      ((Text.segments ':' searchPath.toList).map String.ofList)

/-- The number of a signal. -/
def signal? (name : String) : Option Nat :=
  match name.toNat? with
  | some n => some n
  | none =>
    [("HUP", 1), ("INT", 2), ("QUIT", 3), ("ABRT", 6), ("KILL", 9), ("USR1", 10), ("SEGV", 11),
      ("USR2", 12), ("PIPE", 13), ("ALRM", 14), ("TERM", 15), ("CHLD", 17), ("CONT", 18)].lookup
        name

/-- Whether a signal leaves a process alone. -/
def isHarmless (signal : Nat) : Bool :=
  signal ∈ [0, 17, 18, 23, 28]

/-- The signal and the processes that the arguments of `kill` name. -/
def killArguments (arguments : List String) : Option (Nat × List String) :=
  match arguments with
  | "-s" :: name :: rest => (signal? name).map fun n => (n, rest)
  | first :: rest =>
    match first.toList with
    | '-' :: name => (signal? (String.ofList name)).map fun n => (n, rest)
    | _ => some (15, first :: rest)
  | [] => none

/-- Sends a signal. A process knows only itself. -/
def kill (io : Streams) (line : Nat) (arguments : List String) (p : Process) : Flow × Process :=
  match killArguments arguments with
  | some (n, [target]) =>
    if target ≠ ownNumber then
      (.next, (p.complain io line "kill: No such process\n").withStatus 1)
    else if isHarmless n then (.next, p.withStatus 0)
    else (.killed n, p)
  | _ => (.next, p.withStatus 2)

/-- Leaves the shell with a status. -/
def leave (io : Streams) (line : Nat) (arguments : List String) (p : Process) : Flow × Process :=
  match arguments with
  | [] => (.exited, p)
  | first :: _ =>
    match first.toNat? with
    | some n => (.exited, p.withStatus (n % 256))
    | none =>
      (.exited, (p.complain io line ("exit: Illegal number: " ++ first)).withStatus 2)

/-- Goes to another directory. -/
def changeDirectory (io : Streams) (line : Nat) (arguments : List String) (p : Process) :
    Process :=
  let path := arguments.headD (p.value "HOME")
  match p.files.tree.directoryAt p.files.workingDirectory ⟨path⟩ with
  | .ok loc => { p with files := { p.files with workingDirectory := loc }, status := 0 }
  | .error _ => (p.complain io line ("cd: can't cd to " ++ path)).withStatus 2

/-- Sets variables that are written as assignments. -/
def exportAll (arguments : List String) (p : Process) : Process :=
  let assigned := arguments.filterMap fun a =>
    match a.toList.span (· != '=') with
    | (name, _ :: value) => some (String.ofList name, String.ofList value)
    | (_, []) => none
  { p with bindings := assigned.reverse ++ p.bindings, status := 0 }

/-- A process inside another one: with a name and arguments of its own. -/
def Process.inner (p : Process) (name : String) (arguments : List String) : Process :=
  { p with name := name, arguments := arguments, status := 0 }

/-- The process after one inside it has ended. -/
def Process.resume (p inner : Process) (flow : Flow) : Flow × Process :=
  let after := { p with
    files := { inner.files with workingDirectory := p.files.workingDirectory }
    stdout := inner.stdout, stderr := inner.stderr, timeLeft := inner.timeLeft }
  match flow with
  | .next | .exited => (.next, after.withStatus inner.status)
  | .killed n => (.next, after.withStatus (128 + n))
  | .outOfTime => (.outOfTime, after)

/-- Whether a statement is run after one that ended with a status. -/
def Condition.isMet (status : Nat) : Condition → Bool
  | .always => true
  | .afterSuccess => status == 0
  | .afterFailure => status != 0

mutual
/-- Runs the statements of a script until one of them ends it. -/
def runScript : (fuel : Nat) → Script → Streams → Process → Flow × Process
  | 0, _, _, p => (.exited, p)
  | _, [], _, p => (.next, p)
  | fuel + 1, s :: rest, io, p =>
    if !s.condition.isMet p.status then runScript fuel rest io p
    else
      match runStatement fuel s io p with
      | (.next, p) => runScript fuel rest io p
      | ended => ended

/-- Runs one statement. -/
def runStatement : (fuel : Nat) → Statement → Streams → Process → Flow × Process
  | 0, _, _, p => (.exited, p)
  | fuel + 1, s, io, p =>
    let words := s.words.flatMap p.fields
    let assigned := s.assignments.reverse.map fun a => (a.1, p.text a.2)
    match p.redirect io s.redirections with
    | .error message => (.next, (p.complain io s.line message).withStatus 2)
    | .ok (io, p) =>
      match words with
      | [] => (.next, { p with bindings := assigned ++ p.bindings, status := 0 })
      | name :: arguments =>
        let before := p.bindings
        let p := { p with bindings := assigned ++ p.bindings }
        match name with
        -- No signal arrives from elsewhere and nothing runs beside the script.
        | ":" | "trap" | "wait" => (.next, p.withStatus 0)
        | "exit" => leave io s.line arguments p
        | "kill" => kill io s.line arguments p
        | "cd" => (.next, changeDirectory io s.line arguments p)
        | "export" => (.next, exportAll arguments p)
        | "shift" => (.next, { p with arguments := p.arguments.drop 1, status := 0 })
        -- What is started here takes the place of the script.
        | "exec" =>
          match arguments with
          | [] => (.next, p.withStatus 0)
          | program :: rest =>
            match runProgram fuel s.line program rest io p with
            | (.next, p) => (.exited, p)
            | ended => ended
        | name =>
          let (flow, p) := runProgram fuel s.line name arguments io p
          -- Assignments before a program are for that program only.
          (flow, { p with bindings := before })

/-- Runs a program from within the shell. -/
def runProgram : (fuel : Nat) → (line : Nat) → String → List String → Streams → Process →
    Flow × Process
  | 0, _, _, _, _, p => (.exited, p)
  | fuel + 1, line, name, arguments, io, p =>
    if name ∈ shellTools then runTool true io name arguments p
    else
      match image true (p.value "PATH") p.files name with
      | .error .notFound => (.next, (p.complain io line (name ++ ": not found")).withStatus 127)
      | .error fault =>
        (.next, (p.complain io line (name ++ ": " ++ reasonOf fault)).withStatus 126)
      | .ok (.tool tool, _) => runTool true io tool arguments p
      | .ok (.script text, path) =>
        let (flow, inner) := runText fuel text io (p.inner path arguments)
        p.resume inner flow
      | .ok (.shell, _) =>
        let (flow, inner) := runShell fuel name arguments io p
        p.resume inner flow

/-- Runs the text of a script. -/
def runText : (fuel : Nat) → String → Streams → Process → Flow × Process
  | 0, _, _, p => (.exited, p)
  | fuel + 1, text, io, p =>
    match Script.read text with
    | none => (.exited, (p.complain io 1 "Syntax error").withStatus 2)
    | some script => runScript fuel script io p

/-- Runs the shell with the arguments it is given. -/
def runShell : (fuel : Nat) → String → List String → Streams → Process → Flow × Process
  | 0, _, _, _, p => (.exited, p)
  | fuel + 1, name, arguments, io, p =>
    match arguments with
    | [] => runText fuel (Text.lossy ⟨io.input.toArray⟩) io (p.inner name [])
    | ["-c"] =>
      let p := p.inner name []
      (.exited, (p.complain io 0 "-c requires an argument").withStatus 2)
    | "-c" :: text :: [] => runText fuel text io (p.inner name [])
    | "-c" :: text :: inner :: rest => runText fuel text io (p.inner inner rest)
    | path :: rest =>
      match p.contentOf path with
      | .ok bytes => runText fuel (Text.lossy ⟨bytes.toArray⟩) io (p.inner path rest)
      | .error fault =>
        let p := p.inner name []
        (.exited, (p.complain io 0 (Process.openComplaint false path fault)).withStatus 2)
end

/-- The most steps a script may take. -/
def stepLimit : Nat := 100000

/-- Refuses what no program may be started with: a text that holds the character
    that ends texts. -/
def checkTexts (texts : List String) : Except Storage.Fault Unit :=
  if texts.any fun s => s.toList.contains '\x00' then
    .error (.other "nul byte found in provided data")
  else .ok ()

/-- Runs a program that was found under a path. -/
def runImage (found : Image × String) (program : String) (arguments : List String)
    (p : Process) : Flow × Process :=
  let io : Streams := ⟨[], .out, .err⟩
  match found.1 with
  | .tool name => runTool false io name arguments p
  | .shell => runShell stepLimit program arguments io p
  | .script text => runText stepLimit text io (p.inner found.2 arguments)

/-- The directories in which programs are looked for. -/
def standardPath : String := "/usr/local/bin:/usr/bin:/bin"

/-- What every process finds in its environment. -/
def standardVariables : List (String × String) :=
  [("PATH", standardPath)]

/-- The variables that a program is given, the newest one first. They are passed on in
    the order of their names as one text each, so that an equals sign within a name
    ends the name. -/
def environmentOf (added : List (String × String)) : List (String × String) :=
  let ordered := added.mergeSort fun a b => !decide (b.1 < a.1)
  (ordered.reverse.filterMap fun e =>
    match (e.1 ++ "=" ++ e.2).toList.span (· != '=') with
    | ([], _) => none
    | (name, value) => some (String.ofList name, String.ofList (value.drop 1))) ++
  standardVariables

/-- The machine as a runner of commands. Nothing limits their time. -/
def runner : Runner Storage.Workspace := fun command files =>
  let found := do
    checkTexts (command.program :: command.arguments)
    image false standardPath files command.program
  match found with
  | .error fault => (.error ⟨command.program, fault.message⟩, files)
  | .ok found =>
    let start : Process := ⟨files, [], [], standardVariables, command.program, [], 0, none⟩
    let (flow, p) := runImage found command.program command.arguments start
    let code : Option Int := match flow with
      | .next | .exited => some p.status
      | .killed _ | .outOfTime => none
    (.ok ⟨code, Text.lossy ⟨p.stdout.toArray⟩, Text.lossy ⟨p.stderr.toArray⟩⟩,
      { p.files with workingDirectory := files.workingDirectory })

/-- How a companion ended. -/
def outcomeOf (flow : Flow) (status : Nat) : Outcome :=
  match flow with
  | .killed _ => .failed none
  | .outOfTime => .timedOut
  | .next | .exited => if status = 0 then .succeeded else .failed (some status)

/-- The files as a companion sees them, from its own working directory. -/
def filesFor (invocation : Invocation) (files : Storage.Workspace) :
    Except Storage.Fault Storage.Workspace :=
  match invocation.workingDirectory with
  | none => .ok files
  | some path =>
    (files.tree.directoryAt files.workingDirectory path).map fun loc =>
      { files with workingDirectory := loc }

/-- The machine as a launcher of companions. One that has no time at all is stopped
    before it does anything. -/
def launcher : Launcher Storage.Workspace := fun invocation files =>
  let added := invocation.environment
  let found := do
    checkTexts (invocation.program :: invocation.arguments ++
      added.map Prod.fst ++ added.map Prod.snd ++
      (invocation.workingDirectory.map Path.text).toList)
    let own ← filesFor invocation files
    -- Only a search path of the companion's own forgives files that name no program.
    let searchPath := added.reverse.lookup "PATH"
    return (own, ← image (searchPath.isSome && !invocation.program.toList.contains '/')
      (searchPath.getD standardPath) own invocation.program)
  match found with
  | .error fault => (.error ⟨invocation.program, fault.message⟩, files)
  | .ok (own, found) =>
    let limit := invocation.timeout.toNanos
    if limit = 0 then (.ok .timedOut, files)
    else
      let start : Process :=
        ⟨own, [], [], environmentOf added, invocation.program, [], 0, some limit⟩
      let (flow, p) := runImage found invocation.program invocation.arguments start
      (.ok (outcomeOf flow p.status),
        { p.files with workingDirectory := files.workingDirectory })

end Machine

end Qualifier
