import Qualifier.Text.Search

/-!
# Paths

Paths as text with `/` between names. Repeated separators and `.` components mean
nothing, except for a `.` at the very start of a relative path; a `..` is kept,
because what it leads to depends on links.

## Main definitions

* `Path`: A path.
* `Path.components`: The components that mean something.
* `Path.fileName?`, `Path.parent?`: The last name, and what leads to it.
* `Path.join`: A path continued by another.
* `Path.absolute`: A path read from a working directory.
-/

namespace Qualifier

/-- A path as it is written. -/
structure Path where
  text : String
deriving DecidableEq, Repr

/-- One component of a path. -/
inductive Component where
  | root
  | current
  | parent
  | name (s : String)
deriving DecidableEq, Repr

namespace Path

/-- Whether a path starts at the root. -/
def isAbsolute (p : Path) : Bool :=
  p.text.toList.head? == some '/'

/-- The stretches between separators, without the empty one before the root. -/
def stretches (p : Path) : List String :=
  let all := (Text.segments '/' p.text.toList).map String.ofList
  if p.isAbsolute then all.drop 1 else all

/-- Whether a stretch at some place of a path means nothing: it is empty, or it is
    a `.` that does not start a relative path. -/
def isRedundant (startsPath : Bool) (stretch : String) : Bool :=
  stretch == "" || (stretch == "." && !startsPath)

/-- The component a stretch stands for. -/
def componentOf (stretch : String) : Component :=
  if stretch == "." then .current
  else if stretch == ".." then .parent
  else .name stretch

/-- The components of the stretches after the first one. -/
def laterComponents (stretches : List String) : List Component :=
  (stretches.filter fun s => !isRedundant false s).map componentOf

/-- The components of a path that mean something. -/
def components (p : Path) : List Component :=
  if p.isAbsolute then .root :: laterComponents p.stretches
  else
    match p.stretches with
    | [] => []
    | first :: rest =>
      if isRedundant true first then laterComponents rest
      else componentOf first :: laterComponents rest

/-- The name a path ends in, if it ends in one. -/
def fileName? (p : Path) : Option String :=
  match p.components.getLast? with
  | some (.name s) => some s
  | _ => none

/-- The stretches without the ones at the end that mean nothing, last one first. -/
def dropRedundant (absolute : Bool) : List String → List String
  | [] => []
  | [s] => if isRedundant (!absolute) s then [] else [s]
  | s :: rest => if isRedundant false s then dropRedundant absolute rest else s :: rest

/-- The text of a path from its stretches, last one first. -/
def ofStretches (absolute : Bool) (reversed : List String) : Path :=
  ⟨(if absolute then "/" else "") ++ Text.joined "/" reversed.reverse⟩

/-- The path that leads to the last component. There is none before the root, nor
    before the empty path. -/
def parent? (p : Path) : Option Path :=
  match dropRedundant p.isAbsolute p.stretches.reverse with
  | [] => none
  -- What remains ends in a component that means something, or is the root.
  | _ :: rest => some (ofStretches p.isAbsolute (dropRedundant p.isAbsolute rest))

/-- The path followed by the paths that lead to it, at most `fuel` of them. -/
def ancestors : (fuel : Nat) → Path → List Path
  | 0, _ => []
  | fuel + 1, p =>
    p :: match p.parent? with
      | none => []
      | some q => ancestors fuel q

/-- Whether a path ends in a separator. -/
def endsInSlash (p : Path) : Bool :=
  p.text.toList.getLast? == some '/'

/-- A path continued by another one, which replaces it if it is absolute. -/
def join (p q : Path) : Path :=
  if q.isAbsolute then q
  else if p.text == "" || p.endsInSlash then ⟨p.text ++ q.text⟩
  else ⟨p.text ++ "/" ++ q.text⟩

/-- A path continued by one component. -/
def push (p : Path) : Component → Path
  | .root => ⟨"/"⟩
  | .current => p.join ⟨"."⟩
  | .parent => p.join ⟨".."⟩
  | .name s => p.join ⟨s⟩

/-- The same path read from a working directory, without the components that mean
    nothing. Exactly two separators at the start are kept, and so is one at the
    end. The empty path cannot be read from anywhere, so it has to be known that this is
    another one. -/
def absolute (workingDirectory p : Path) (_named : p.text ≠ "") : Path :=
  let kept := match p.components with
    | .current :: rest => rest
    | all => all
  let chars := p.text.toList
  -- One separator means the root, and so do three or more; two may mean something else.
  let startsWithTwo := ['/', '/'].isPrefixOf chars && !(['/', '/', '/'].isPrefixOf chars)
  let whole :=
    if startsWithTwo then (kept.drop 1).foldl push ⟨"//"⟩
    else if p.isAbsolute then kept.foldl push ⟨""⟩
    else kept.foldl push workingDirectory
  if p.endsInSlash && !whole.endsInSlash then ⟨whole.text ++ "/"⟩ else whole

end Path

end Qualifier
