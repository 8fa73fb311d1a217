import Qualifier.Storage.Tree

/-!
# Following Paths

How a path leads to a place in a tree. A walk goes down name by name, up at `..`,
and on through links, of which it follows at most forty. A fenced walk may not
leave the directory it starts from: a link to an absolute path, or a step up from
that directory, ends it.

## Main definitions

* `Fault`: The reasons for which an access fails.
* `Target`: Where a path leads.
* `leg`, `walk`: A walk up to the next link, and the whole of it.
* `Tree.directoryAt`, `Tree.makeDirectory`, `Tree.makeDirectories`: What walks are
  used for where no fence applies.
-/

namespace Qualifier

namespace Storage

/-- The reasons for which an access to a file system fails. -/
inductive Fault where
  | notFound
  | permissionDenied
  | alreadyExists
  | notDirectory
  | isDirectory
  | invalidArgument
  | nameTooLong
  | tooManyLinks
  /-- The path holds a character that no path may hold. -/
  | nulInPath
  /-- A fenced walk would have left its directory. -/
  | outside
  /-- The file's bytes are no text. -/
  | notText
  | unmakeable
  | other (message : String)
deriving DecidableEq, Repr

/-- The wording of a fault. -/
def Fault.message : Fault → String
  | .notFound => "No such file or directory (os error 2)"
  | .permissionDenied => "Permission denied (os error 13)"
  | .alreadyExists => "File exists (os error 17)"
  | .notDirectory => "Not a directory (os error 20)"
  | .isDirectory => "Is a directory (os error 21)"
  | .invalidArgument => "Invalid argument (os error 22)"
  | .nameTooLong => "File name too long (os error 36)"
  | .tooManyLinks => "Too many levels of symbolic links (os error 40)"
  | .nulInPath => "file name contained an unexpected NUL byte"
  | .outside => "a path led outside of the filesystem"
  | .notText => "stream did not contain valid UTF-8"
  | .unmakeable => "failed to create whole tree"
  | .other message => message

/-- Where a path leads: to a directory reached as such, or to a name in an existing
    directory. A name may be taken or free; `slash` tells that the path ended in a
    separator, so that only a directory will do. -/
inductive Target where
  | directory (loc : Location)
  | entry (within : Location) (name : String) (slash : Bool)
deriving DecidableEq, Repr

/-- A path taken apart for a walk. -/
structure Route where
  fromRoot : Bool
  steps : List String
  slash : Bool
deriving DecidableEq, Repr

/-- The route a path describes. -/
def Route.ofText (text : String) : Route :=
  let p : Path := ⟨text⟩
  ⟨p.isAbsolute, p.stretches.filter (· != ""), p.endsInSlash⟩

/-- How a walk goes on after a stretch without links. -/
inductive Leg where
  | arrived (result : Except Fault Target)
  | through (loc : Location) (target : String) (rest : List String)

/-- The rules of a walk: the directory it may not leave, if any, and whether a link
    at its very end is followed. -/
structure Rules where
  fence : Option Location
  follow : Bool

/-- The longest name a directory can hold, in bytes. -/
def nameLimit : Nat := 255

/-- The shortest path that is refused for its length, in bytes. -/
def pathLimit : Nat := 4096

/-- Walks until the path ends or a link has to be followed. -/
def leg (t : Tree) (rules : Rules) (slash : Bool) : Location → List String → Leg
  | loc, [] => .arrived (.ok (.directory loc))
  | loc, step :: rest =>
    if step = "." then leg t rules slash loc rest
    else if step = ".." then
      -- The root is its own parent: `dropLast` leaves it where it is.
      if rules.fence = some loc then .arrived (.error .outside)
      else leg t rules slash loc.dropLast rest
    else if nameLimit < step.utf8ByteSize then .arrived (.error .nameTooLong)
    else
      match t.get? (loc ++ [step]), rest with
      | some (.link target), [] =>
        if rules.follow || slash then .through loc target []
        else .arrived (.ok (.entry loc step slash))
      | some (.link target), rest => .through loc target rest
      -- The last name may be taken by anything or free: the caller decides.
      | _, [] => .arrived (.ok (.entry loc step slash))
      | some .directory, rest => leg t rules slash (loc ++ [step]) rest
      | some (.file _ _), _ => .arrived (.error .notDirectory)
      | none, _ => .arrived (.error .notFound)

/-- A whole walk from a directory, following at most `links` links. The separator
    at the end of a path counts for what its last link leads to as well. -/
def walk (t : Tree) (rules : Rules) :
    (links : Nat) → (slash : Bool) → Location → List String → Except Fault Target
  | links, slash, loc, steps =>
    match leg t rules slash loc steps with
    | .arrived result => result
    | .through loc target rest =>
      match links with
      | 0 => .error .tooManyLinks
      | links + 1 =>
        let route := Route.ofText target
        -- A separator after the target matters only if the target ends the path.
        let slash := if rest = [] then slash || route.slash else slash
        if route.fromRoot then
          if rules.fence.isSome then .error .outside
          else walk t rules links slash [] (route.steps ++ rest)
        else walk t rules links slash loc (route.steps ++ rest)

/-- The number of links a walk follows before it gives up. -/
def linkLimit : Nat := 40

/-- Where a path leads when it is read from a working directory. -/
def Tree.target (t : Tree) (rules : Rules) (workingDirectory : Location) (path : Path) :
    Except Fault Target :=
  if '\x00' ∈ path.text.toList then .error .nulInPath
  else if pathLimit ≤ path.text.utf8ByteSize then .error .nameTooLong
  else if path.text = "" then .error .notFound
  else
    let route := Route.ofText path.text
    walk t rules linkLimit route.slash (if route.fromRoot then [] else workingDirectory)
      route.steps

/-- The directory a path leads to. -/
def Tree.directoryAt (t : Tree) (workingDirectory : Location) (path : Path) :
    Except Fault Location :=
  match t.target ⟨none, true⟩ workingDirectory path with
  | .error fault => .error fault
  | .ok (.directory loc) => .ok loc
  | .ok (.entry within name _) =>
    match t.get? (within ++ [name]) with
    | some .directory => .ok (within ++ [name])
    | some _ => .error .notDirectory
    | none => .error .notFound

/-- Makes one directory. -/
def Tree.makeDirectory (t : Tree) (workingDirectory : Location) (path : Path) :
    Except Fault Tree :=
  match t.target ⟨none, false⟩ workingDirectory path with
  | .error fault => .error fault
  | .ok (.directory _) => .error .alreadyExists
  | .ok (.entry within name _) =>
    match t.get? (within ++ [name]) with
    | some _ => .error .alreadyExists
    | none => .ok (t.put (within ++ [name]) .directory)

/-- Makes the first of these directories, and before it, where one is missing, the
    directories that lead to it, which follow in the list. What was made stays even
    if a later step fails. -/
def Tree.makeChain (workingDirectory : Location) : List Path → Tree → Except Fault Unit × Tree
  | [], t => (.error .unmakeable, t)
  | path :: leading, t =>
    if path.text = "" then (.ok (), t)
    else
      match t.makeDirectory workingDirectory path with
      | .ok made => (.ok (), made)
      | .error .notFound =>
        -- Something on the way is missing: make what leads here, then try again.
        match Tree.makeChain workingDirectory leading t with
        | (.error fault, t) => (.error fault, t)
        | (.ok (), t) =>
          match t.makeDirectory workingDirectory path with
          | .ok made => (.ok (), made)
          | .error fault =>
            match t.directoryAt workingDirectory path with
            | .ok _ => (.ok (), t)
            | .error _ => (.error fault, t)
      | .error fault =>
        -- A directory that is already there, even behind a link, is as good as a new one.
        match t.directoryAt workingDirectory path with
        | .ok _ => (.ok (), t)
        | .error _ => (.error fault, t)

/-- Makes a directory and, as far as they are missing, those that lead to it. -/
def Tree.makeDirectories (t : Tree) (workingDirectory : Location) (path : Path) :
    Except Fault Unit × Tree :=
  Tree.makeChain workingDirectory (path.ancestors (path.text.length + 1)) t

end Storage

end Qualifier
