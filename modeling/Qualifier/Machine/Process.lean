import Qualifier.Machine.Shell
import Qualifier.Machine.Tools
import Qualifier.Storage.Files
import Qualifier.Text.Blank

/-!
# Processes

A process of a machine: the files it sees, what it has written, its variables and
arguments, and the time it may still take. Time passes only while it sleeps.

## Main definitions

* `Process`: The state of a process.
* `Flow`: How it goes on after a step.
* `Process.fields`: The fields a word expands to.
* `Process.redirect`: The streams after some redirections.
* `runTool`: One of the small programs.
-/

namespace Qualifier

namespace Machine

/-- Where written bytes go. -/
inductive Sink where
  | out
  | err
  | file (loc : Storage.Location)
  | nowhere
deriving DecidableEq, Repr

/-- The streams of a step: what it may read, and where it writes. -/
structure Streams where
  input : List UInt8
  output : Sink
  error : Sink

/-- The state of a process. The newest of several variables of one name counts. -/
structure Process where
  files : Storage.Workspace
  stdout : List UInt8
  stderr : List UInt8
  bindings : List (String × String)
  name : String
  arguments : List String
  status : Nat
  timeLeft : Option Nat

/-- How a process goes on after a step. -/
inductive Flow where
  | next
  | exited
  | killed (signal : Nat)
  | outOfTime
deriving DecidableEq, Repr

/-- The number by which a process knows itself. -/
def ownNumber : String := "4242"

namespace Process

/-- The process with another status. -/
def withStatus (p : Process) (status : Nat) : Process :=
  { p with status := status }

/-- The process after it wrote bytes. -/
def emit (p : Process) (sink : Sink) (bytes : List UInt8) : Process :=
  match sink with
  | .out => { p with stdout := p.stdout ++ bytes }
  | .err => { p with stderr := p.stderr ++ bytes }
  | .nowhere => p
  | .file loc =>
    match p.files.tree.get? loc with
    | some (.file content mode) =>
      let written := content ++ ByteArray.mk bytes.toArray
      { p with files := p.files.withTree (p.files.tree.put loc (.file written mode)) }
    | _ => p

/-- The process after it complained; the complaint names the script and the line. -/
def complain (p : Process) (io : Streams) (line : Nat) (message : String) : Process :=
  p.emit io.error (p.name ++ ": " ++ toString line ++ ": " ++ message ++ "\n").toUTF8.toList

/-- The path of the working directory. -/
def place (p : Process) : String :=
  "/" ++ Text.joined "/" p.files.workingDirectory

/-- The value of a parameter. -/
def value (p : Process) (name : String) : String :=
  if name = "$" then ownNumber
  else if name = "?" then toString p.status
  else if name = "#" then toString p.arguments.length
  else if name = "@" ∨ name = "*" then Text.joined " " p.arguments
  else
    match name.toNat? with
    | some 0 => p.name
    | some n => p.arguments.getD (n - 1) ""
    | none => (p.bindings.lookup name).getD (if name = "PWD" then p.place else "")

/-- Fields that are being put together: the finished ones, and the one that may
    still grow. -/
structure Fields where
  finished : List String
  growing : Option (List Char)

/-- Characters added to the field that grows. -/
def Fields.grow (f : Fields) (cs : List Char) : Fields :=
  { f with growing := some (f.growing.getD [] ++ cs) }

/-- The fields with none growing. -/
def Fields.close (f : Fields) : Fields :=
  ⟨f.finished ++ (f.growing.map String.ofList).toList, none⟩

/-- A value cut at its blanks and added. -/
def Fields.split (f : Fields) (cs : List Char) : Fields :=
  cs.foldl
    (fun f c => if c = ' ' ∨ c = '\t' ∨ c = '\n' then f.close else f.grow [c]) f

/-- Values added as fields of their own, the first one to the field that grows. -/
def Fields.spread (f : Fields) : List String → Fields
  | [] => f
  | [s] => f.grow s.toList
  | s :: rest => Fields.spread (f.grow s.toList).close rest

/-- One part of a word added. -/
def addPart (p : Process) (f : Fields) : Part → Fields
  | .bare c => f.grow [c]
  | .fixed cs => f.grow cs
  -- Each argument becomes a field of its own, the first one joined to what stands before.
  | .parameter "@" true => f.spread p.arguments
  | .parameter name true => f.grow (p.value name).toList
  | .parameter name false => f.split (p.value name).toList

/-- The fields a word expands to. -/
def fields (p : Process) (w : Word) : List String :=
  ((w.foldl p.addPart ⟨[], none⟩).close).finished

/-- The text a word expands to where it is not cut into fields. -/
def text (p : Process) (w : Word) : String :=
  String.ofList (w.flatMap fun
    | .bare c => [c]
    | .fixed cs => cs
    | .parameter name _ => (p.value name).toList)

/-- The words for a fault where a file was to be made, or only opened. -/
def openComplaint (creating : Bool) (path : String) (fault : Storage.Fault) : String :=
  let reason := match fault with
    | .notFound | .notDirectory => if creating then "Directory nonexistent" else "No such file"
    | .isDirectory => "Is a directory"
    | .permissionDenied => "Permission denied"
    | fault => fault.message
  (if creating then "cannot create " else "cannot open ") ++ path ++ ": " ++ reason

/-- Opens a file for writing, from its start or from its end. -/
def openSink (p : Process) (extending : Bool) (path : String) :
    Except Storage.Fault (Sink × Process) :=
  if path = "/dev/null" then .ok (.nowhere, p)
  else
    match p.files.tree.target ⟨none, true⟩ p.files.workingDirectory ⟨path⟩ with
    | .error fault => .error fault
    | .ok (.directory _) => .error .isDirectory
    | .ok (.entry within name slash) =>
      let loc := within ++ [name]
      let made (content : ByteArray) (mode : Nat) : Except Storage.Fault (Sink × Process) :=
        .ok (.file loc,
          { p with files := p.files.withTree (p.files.tree.put loc (.file content mode)) })
      match p.files.tree.get? loc with
      | some .directory => .error .isDirectory
      | some (.file content mode) =>
        if slash then .error .notDirectory
        else made (if extending then content else .empty) mode
      | _ => if slash then .error .isDirectory else made .empty Storage.ordinaryMode

/-- The bytes of a file that is opened for reading. -/
def contentOf (p : Process) (path : String) : Except Storage.Fault (List UInt8) :=
  if path = "/dev/null" then .ok []
  else
    match p.files.tree.target ⟨none, true⟩ p.files.workingDirectory ⟨path⟩ with
    | .error fault => .error fault
    | .ok (.directory _) => .error .isDirectory
    | .ok (.entry within name slash) =>
      match p.files.tree.get? (within ++ [name]) with
      | some (.file content _) => if slash then .error .notDirectory else .ok content.toList
      | some _ => .error .isDirectory
      | none => .error .notFound

/-- The streams after one redirection. -/
def redirectOne (p : Process) (io : Streams) (r : Redirection) :
    Except String (Streams × Process) :=
  let path := p.text r.target
  let aimAt (sink : Sink) (p : Process) : Streams × Process :=
    if r.descriptor = 1 then ({ io with output := sink }, p)
    else if r.descriptor = 2 then ({ io with error := sink }, p)
    else (io, p)
  match r.aim with
  | .create | .extend =>
    match p.openSink (r.aim = .extend) path with
    | .error fault => .error (openComplaint true path fault)
    | .ok (sink, p) => .ok (aimAt sink p)
  | .read =>
    match p.contentOf path with
    | .error fault => .error (openComplaint false path fault)
    | .ok bytes => .ok (if r.descriptor = 0 then { io with input := bytes } else io, p)
  | .duplicate =>
    match path with
    | "1" => .ok (aimAt io.output p)
    | "2" => .ok (aimAt io.error p)
    | "-" => .ok (aimAt .nowhere p)
    | _ => .error (path ++ ": Bad file descriptor")

/-- The streams after some redirections, in order. -/
def redirect (p : Process) (io : Streams) : List Redirection → Except String (Streams × Process)
  | [] => .ok (io, p)
  | r :: rest => do
    let (io, p) ← p.redirectOne io r
    p.redirect io rest

/-- The process after it slept. -/
def sleep (p : Process) (nanos : Nat) : Flow × Process :=
  match p.timeLeft with
  | none => (.next, p.withStatus 0)
  | some left =>
    if left ≤ nanos then (.outOfTime, p)
    else (.next, { p with timeLeft := some (left - nanos), status := 0 })

end Process

/-- The words of the system for a fault, without its number. -/
def reasonOf (fault : Storage.Fault) : String :=
  Text.trim (String.ofList (fault.message.toList.takeWhile (· != '(')))

/-- Prints files one after the other. -/
def concatenate (io : Streams) : List String → Process → Process
  | [], p => p
  | "-" :: rest, p => concatenate io rest (p.emit io.output io.input)
  | path :: rest, p =>
    match p.contentOf path with
    | .ok bytes => concatenate io rest (p.emit io.output bytes)
    | .error fault =>
      let message := "cat: " ++ path ++ ": " ++ reasonOf fault ++ "\n"
      concatenate io rest ((p.emit io.error message.toUTF8.toList).withStatus 1)

/-- Makes directories one after the other. -/
def makeDirectories (io : Streams) (withParents : Bool) : List String → Process → Process
  | [], p => p
  | path :: rest, p =>
    let made : Except Storage.Fault Unit × Storage.Tree :=
      if withParents then p.files.tree.makeDirectories p.files.workingDirectory ⟨path⟩
      else
        match p.files.tree.makeDirectory p.files.workingDirectory ⟨path⟩ with
        | .ok tree => (.ok (), tree)
        | .error fault => (.error fault, p.files.tree)
    let p := { p with files := p.files.withTree made.2 }
    match made.1 with
    | .ok () => makeDirectories io withParents rest p
    | .error fault =>
      let message := "mkdir: cannot create directory ‘" ++ path ++ "’: " ++ reasonOf fault ++ "\n"
      makeDirectories io withParents rest ((p.emit io.error message.toUTF8.toList).withStatus 1)

/-- Removes files one after the other. -/
def removeFiles (io : Streams) (force : Bool) : List String → Process → Process
  | [], p => p
  | path :: rest, p =>
    let removed : Except Storage.Fault Storage.Tree :=
      match p.files.tree.target ⟨none, false⟩ p.files.workingDirectory ⟨path⟩ with
      | .error fault => .error fault
      | .ok (.directory _) => .error .isDirectory
      | .ok (.entry within name _) => p.files.tree.removeWithin within name
    match removed with
    | .ok tree => removeFiles io force rest { p with files := p.files.withTree tree }
    | .error fault =>
      if force && fault == .notFound then removeFiles io force rest p
      else
        let message := "rm: cannot remove '" ++ path ++ "': " ++ reasonOf fault ++ "\n"
        removeFiles io force rest ((p.emit io.error message.toUTF8.toList).withStatus 1)

/-- Makes files that are missing. -/
def touchFiles (io : Streams) : List String → Process → Process
  | [], p => p
  | path :: rest, p =>
    match p.openSink true path with
    | .ok (_, p) => touchFiles io rest p
    | .error .isDirectory => touchFiles io rest p
    | .error fault =>
      let message := "touch: cannot touch '" ++ path ++ "': " ++ reasonOf fault ++ "\n"
      touchFiles io rest ((p.emit io.error message.toUTF8.toList).withStatus 1)

/-- The names of the small programs. -/
def toolNames : List String :=
  ["true", "false", "echo", "printf", "test", "[", "pwd", "sleep", "cat", "mkdir", "rm", "touch"]

/-- The names of those that the shell runs by itself. -/
def shellTools : List String :=
  ["true", "false", "echo", "printf", "test", "[", "pwd"]

/-- Runs one of the small programs. Some of them are known to the shell itself, with
    slight differences. -/
def runTool (inShell : Bool) (io : Streams) (name : String) (arguments : List String)
    (p : Process) : Flow × Process :=
  let p := p.withStatus 0
  let judged (condition : List String) : Process :=
    match holds p.files.tree p.files.workingDirectory condition with
    | some true => p
    | some false => p.withStatus 1
    | none => p.withStatus 2
  match name with
  | "false" => (.next, p.withStatus 1)
  | "echo" => (.next, p.emit io.output (echoed inShell arguments))
  | "printf" =>
    let format := (arguments.headD "").toList
    match formatted (!inShell) format (arguments.length + 1) (arguments.drop 1) with
    | some bytes => (.next, p.emit io.output bytes)
    | none => (.next, p.withStatus 1)
  | "test" => (.next, judged arguments)
  | "[" =>
    (.next, if arguments.getLast? = some "]" then judged arguments.dropLast else p.withStatus 2)
  | "pwd" =>
    (.next, p.emit io.output (p.place ++ "\n").toUTF8.toList)
  | "sleep" =>
    match arguments.mapM duration? with
    | some (first :: more) => p.sleep (more.foldl (· + ·) first)
    | _ => (.next, p.withStatus 1)
  | "cat" => (.next, concatenate io (if arguments.isEmpty then ["-"] else arguments) p)
  | "mkdir" =>
    (.next, makeDirectories io (arguments.contains "-p") (arguments.filter (· ≠ "-p")) p)
  | "rm" => (.next, removeFiles io (arguments.contains "-f") (arguments.filter (· ≠ "-f")) p)
  | "touch" => (.next, touchFiles io arguments p)
  | _ => (.next, p)

end Machine

end Qualifier
