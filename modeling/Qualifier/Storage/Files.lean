import Qualifier.Storage.Walk
import Qualifier.Text.Utf8

/-!
# Reading, Writing and Removing Files

The four things done to files by path. The directory part of a path is opened the
usual way, following links wherever they lead; the name at its end is then looked
up inside that directory, fenced in by it. A removal acts on the name itself and
never on what a link leads to.

## Main definitions

* `FileError`: A failed access, with the path it concerned.
* `Workspace`: A tree and the directory that relative paths start from.
* `Workspace.write`: Writes a file, keeping the mode of one that is there.
* `Workspace.writePrivate`: Replaces whatever is there by a file of its owner only.
* `Workspace.read`, `Workspace.removeIfPresent`: Reading and removing.
-/

namespace Qualifier

namespace Storage

/-- A failed access to a file. -/
inductive FileError where
  | access (path : Path) (fault : Fault)
  | missingFileName (path : Path)
deriving DecidableEq, Repr

/-- The wording of a failed access. -/
def FileError.message : FileError → String
  | .access path fault => "failed to access " ++ path.text ++ ": " ++ fault.message
  | .missingFileName path => path.text ++ " is missing a file name"

/-- A file that was found: where it lies, by a path without links, and its bytes. -/
structure Finding where
  place : Path
  content : ByteArray

/-- A tree of files and the directory that relative paths start from. -/
structure Workspace where
  tree : Tree
  workingDirectory : Location

/-- The directory part of a path and the name at its end. -/
def splitPath (path : Path) : Except FileError (Path × String) :=
  match path.fileName? with
  | none => .error (.missingFileName path)
  | some name =>
    match path.parent? with
    | some parent => .ok (if parent.text = "" then ⟨"."⟩ else parent, name)
    | none => .ok (⟨"."⟩, name)

/-- The mode of a file made by writing it. -/
def ordinaryMode : Nat := 0o644

/-- The mode of a file that only its owner may read or write. -/
def privateMode : Nat := 0o600

/-- Where a name leads inside a directory, without leaving it. -/
def Tree.fenced (t : Tree) (within : Location) (name : String) : Except Fault Target :=
  if '\x00' ∈ name.toList then .error .invalidArgument
  else t.target ⟨some within, true⟩ within ⟨name⟩

/-- Writes a file at a name inside a directory, through links that stay inside. -/
def Tree.writeWithin (t : Tree) (within : Location) (name : String) (text : String) :
    Except Fault Tree :=
  match t.fenced within name with
  | .error fault => .error fault
  | .ok (.directory _) => .error .isDirectory
  | .ok (.entry dir last slash) =>
    if slash then .error .isDirectory
    else
      match t.get? (dir ++ [last]) with
      | some .directory => .error .isDirectory
      | some (.file _ mode) => .ok (t.put (dir ++ [last]) (.file text.toUTF8 mode))
      -- The walk followed all links, so what is left is a free name.
      | _ => .ok (t.put (dir ++ [last]) (.file text.toUTF8 ordinaryMode))

/-- The bytes of the file at a name inside a directory, through links that stay
    inside. -/
def Tree.readWithin (t : Tree) (within : Location) (name : String) : Except Fault ByteArray :=
  match t.fenced within name with
  | .error fault => .error fault
  | .ok (.directory _) => .error .isDirectory
  | .ok (.entry dir last slash) =>
    match t.get? (dir ++ [last]) with
    | some (.file content _) => if slash then .error .notDirectory else .ok content
    | some _ => .error .isDirectory
    | none => .error .notFound

/-- Takes away the entry at a name inside a directory. -/
def Tree.removeWithin (t : Tree) (within : Location) (name : String) : Except Fault Tree :=
  if '\x00' ∈ name.toList then .error .invalidArgument
  else if nameLimit < name.utf8ByteSize then .error .nameTooLong
  else
    match t.get? (within ++ [name]) with
    | none => .error .notFound
    | some .directory => .error .isDirectory
    | some _ => .ok (t.erase (within ++ [name]))

namespace Workspace

/-- The workspace with another tree. -/
def withTree (w : Workspace) (t : Tree) : Workspace :=
  { w with tree := t }

/-- Makes the directory part of a path and opens it. -/
def prepare (w : Workspace) (parent : Path) : Except FileError Location × Workspace :=
  match w.tree.makeDirectories w.workingDirectory parent with
  | (.error fault, t) => (.error (.access parent fault), w.withTree t)
  | (.ok (), t) =>
    match t.directoryAt w.workingDirectory parent with
    | .error fault => (.error (.access parent fault), w.withTree t)
    | .ok dir => (.ok dir, w.withTree t)

/-- Writes a text to a path, making the directories that lead there. A file that is
    already there keeps its mode. -/
def write (w : Workspace) (path : Path) (text : String) : Except FileError Unit × Workspace :=
  match splitPath path with
  | .error e => (.error e, w)
  | .ok (parent, name) =>
    match w.prepare parent with
    | (.error e, w) => (.error e, w)
    | (.ok dir, w) =>
      match w.tree.writeWithin dir name text with
      | .error fault => (.error (.access path fault), w)
      | .ok t => (.ok (), w.withTree t)

/-- Writes a text to a path so that only the owner may read it. Whatever is there is
    taken away first, so that neither its mode nor a link's target is reused. -/
def writePrivate (w : Workspace) (path : Path) (text : String) :
    Except FileError Unit × Workspace :=
  match splitPath path with
  | .error e => (.error e, w)
  | .ok (parent, name) =>
    match w.prepare parent with
    | (.error e, w) => (.error e, w)
    | (.ok dir, w) =>
      match w.tree.removeWithin dir name with
      | .ok t => (.ok (), w.withTree (t.put (dir ++ [name]) (.file text.toUTF8 privateMode)))
      | .error .notFound =>
        (.ok (), w.withTree (w.tree.put (dir ++ [name]) (.file text.toUTF8 privateMode)))
      | .error fault => (.error (.access path fault), w)

/-- The text of the file at a path. -/
def read (w : Workspace) (path : Path) : Except FileError String :=
  match splitPath path with
  | .error e => .error e
  | .ok (parent, name) =>
    match w.tree.directoryAt w.workingDirectory parent with
    | .error fault => .error (.access parent fault)
    | .ok dir =>
      match w.tree.readWithin dir name with
      | .error fault => .error (.access path fault)
      | .ok content =>
        match Text.strict? content with
        | some text => .ok text
        | none => .error (.access path .notText)

/-- The file a path leads to, wherever its links lead. -/
def fetch (w : Workspace) (path : Path) : Except Fault Finding :=
  match w.tree.target ⟨none, true⟩ w.workingDirectory path with
  | .error fault => .error fault
  | .ok (.directory _) => .error .isDirectory
  | .ok (.entry within name slash) =>
    match w.tree.get? (within ++ [name]) with
    | some (.file content _) =>
      if slash then .error .notDirectory
      else .ok ⟨⟨"/" ++ Text.joined "/" (within ++ [name])⟩, content⟩
    | some _ => .error .isDirectory
    | none => .error .notFound

/-- Takes away the entry at a path, if there is one; tells whether there was. -/
def removeIfPresent (w : Workspace) (path : Path) : Except FileError Bool × Workspace :=
  match splitPath path with
  | .error e => (.error e, w)
  | .ok (parent, name) =>
    match w.tree.directoryAt w.workingDirectory parent with
    -- Where the directory is missing there is nothing to remove.
    | .error .notFound => (.ok false, w)
    | .error fault => (.error (.access parent fault), w)
    | .ok dir =>
      match w.tree.removeWithin dir name with
      | .ok t => (.ok true, w.withTree t)
      | .error .notFound => (.ok false, w)
      | .error fault => (.error (.access path fault), w)

end Workspace

end Storage

end Qualifier
