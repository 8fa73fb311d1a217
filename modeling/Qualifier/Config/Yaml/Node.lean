import Qualifier.Config.Yaml.Tag
import Qualifier.Config.Yaml.Token

/-!
# Nodes of YAML

A document as a tree of scalars, sequences and mappings, built from tokens. A
reference to an anchor stands for a copy of the node that was anchored, which has to
be complete by then.

A stream holds one document. What follows its end is ignored as long as it is not
the start of another document.

## Main definitions

* `Node`: The nodes.
* `Source`: The tokens that are left, and the anchors that were met.
* `node`: Builds a node from tokens.
* `Node.ofTokens?`: The only document of a stream.
-/

namespace Qualifier

namespace Yaml

/-- A node of a document. -/
inductive Node where
  | scalar (isPlain : Bool) (kind : Kind) (text : String)
  | sequence (items : List Node)
  | mapping (entries : List (Node × Node))

namespace Node

/-- The node where a value is left out. -/
def missing : Node :=
  scalar true .untagged "~"

/-- The node that consists of a tag or an anchor alone. -/
def empty (kind : Kind) : Node :=
  scalar true kind ""

mutual
/-- The number of scalars in a node, and of the places where something is opened or
    closed. -/
def size : Node → Nat
  | scalar .. => 1
  | sequence items => 2 + sizeOfItems items
  | mapping entries => 2 + sizeOfEntries entries

/-- The size of several nodes. -/
def sizeOfItems : List Node → Nat
  | [] => 0
  | n :: rest => size n + sizeOfItems rest

/-- The size of several pairs of nodes. -/
def sizeOfEntries : List (Node × Node) → Nat
  | [] => 0
  | (k, v) :: rest => size k + size v + sizeOfEntries rest
end

end Node

/-- An anchor, and its node once that is complete. -/
structure Anchor where
  name : String
  node : Option Node

/-- The tokens that are left, the number of collections that may still be opened, the
    handles of the document, the anchors that were met, and how often references were
    used and how much they copied. -/
structure Source where
  tokens : List Token
  room : Nat
  handles : Handles
  anchors : Array Anchor
  references : Nat
  copied : Nat

/-- The most that references may copy. -/
def copyLimit : Nat := 1000000

/-- The most collections that may stand in each other. -/
def depthLimit : Nat := 2000

namespace Source

/-- A document with some handles. -/
def ofTokens (handles : Handles) (tokens : List Token) : Source :=
  ⟨tokens, depthLimit, handles, #[], 0, 0⟩

/-- The source after its first tokens. -/
def drop (s : Source) (n : Nat) : Source :=
  { s with tokens := s.tokens.drop n }

/-- The source inside a collection, if one more may be opened. -/
def enter? (s : Source) : Option Source :=
  if s.room = 0 then none else some { s with room := s.room - 1 }

/-- The source after a collection. -/
def leave (s : Source) : Source :=
  { s with room := s.room + 1 }

/-- The kind of the tag that comes first, and the source after it. -/
def tag? (s : Source) : Option (Kind × Source) :=
  match s.tokens with
  | .tag handle suffix :: _ => do some (← s.handles.kind? handle suffix, s.drop 1)
  | _ => some (.untagged, s)

/-- The number of the anchor that comes first, and the source after it. -/
def anchor? (s : Source) : Option Nat × Source :=
  match s.tokens with
  | .anchor name :: rest =>
    (some s.anchors.size, { s with tokens := rest, anchors := s.anchors.push ⟨name, none⟩ })
  | _ => (none, s)

/-- An anchor and a tag, in either order, and the source after them. -/
def properties? (s : Source) : Option (Option Nat × Kind × Source) :=
  match s.anchor? with
  | (some anchor, s) => do
    let (kind, s) ← s.tag?
    some (some anchor, kind, s)
  | (none, s) => do
    let (kind, s) ← s.tag?
    -- Without a tag no anchor comes first either.
    let (anchor, s) := s.anchor?
    some (anchor, kind, s)

/-- The source after the node of an anchor is complete. -/
def complete (s : Source) (anchor : Option Nat) (n : Node) : Source :=
  match anchor with
  | none => s
  | some i => { s with anchors := s.anchors.modify i fun a => { a with node := some n } }

/-- The node of the last anchor with a name, and the source after the reference to it. -/
def refer (s : Source) (name : String) : Option (Node × Source) := do
  let n ← (← s.anchors.toList.reverse.find? fun a => a.name = name).node
  let copied := s.copied + n.size
  if copyLimit < copied then none
  else some (n, { s.drop 1 with references := s.references + 1, copied })

/-- Whether there are not too many references for the anchors they go to. -/
def isModest (s : Source) : Bool :=
  s.references < 100 || s.references ≤ 10 * s.anchors.size

end Source

mutual
/-- A node and the source after it. A node may be a `block` with an indentation of its
    own, or a sequence that is indented like the key it belongs to. -/
def node (block indentless : Bool) : (fuel : Nat) → Source → Option (Node × Source)
  | 0, _ => none
  | fuel + 1, s =>
    match s.tokens with
    | .reference name :: _ => s.refer name
    | _ => do
      let (anchor, kind, s) ← s.properties?
      let (n, s) ← content block indentless (anchor.isSome || kind ≠ .untagged) kind fuel s
      some (n, s.complete anchor n)

/-- What stands after the anchor and the tag of a node. Nothing has to, where there is
    one of them. -/
def content (block indentless mayLack : Bool) (kind : Kind) :
    (fuel : Nat) → Source → Option (Node × Source)
  | 0, _ => none
  | fuel + 1, s =>
    let other : Option (Node × Source) :=
      if mayLack then some (.empty kind, s) else none
    match s.tokens with
    | [] => none
    | .scalar isPlain text :: _ => some (.scalar isPlain kind text, s.drop 1)
    | .listOpen :: _ => do
      let (items, s) ← listItems true fuel (← (s.drop 1).enter?)
      some (.sequence items, s.leave)
    | .tableOpen :: _ => do
      let (entries, s) ← tableEntries true fuel (← (s.drop 1).enter?)
      some (.mapping entries, s.leave)
    | .item :: _ =>
      if !indentless then other
      else do
        let (items, s) ← looseItems fuel (← s.enter?)
        some (.sequence items, s.leave)
    | .sequenceStart :: _ =>
      if !block then other
      else do
        let (items, s) ← blockItems fuel (← (s.drop 1).enter?)
        some (.sequence items, s.leave)
    | .mappingStart :: _ =>
      if !block then other
      else do
        let (entries, s) ← blockEntries fuel (← (s.drop 1).enter?)
        some (.mapping entries, s.leave)
    | _ => other

/-- The items of a block. -/
def blockItems : (fuel : Nat) → Source → Option (List Node × Source)
  | 0, _ => none
  | fuel + 1, s =>
    match s.tokens with
    | .blockEnd :: _ => some ([], s.drop 1)
    | .item :: rest => do
      let (n, s) ←
        match rest with
        | [] => none
        | .item :: _ | .blockEnd :: _ => some (.missing, s.drop 1)
        | _ => node true false fuel (s.drop 1)
      let (more, s) ← blockItems fuel s
      some (n :: more, s)
    | _ => none

/-- The items of a sequence that is indented like the key it belongs to. -/
def looseItems : (fuel : Nat) → Source → Option (List Node × Source)
  | 0, _ => none
  | fuel + 1, s =>
    match s.tokens with
    | [] => none
    | .item :: rest => do
      let (n, s) ←
        match rest with
        | [] => none
        | .item :: _ | .key :: _ | .value :: _ | .blockEnd :: _ => some (.missing, s.drop 1)
        | _ => node true false fuel (s.drop 1)
      let (more, s) ← looseItems fuel s
      some (n :: more, s)
    | _ => some ([], s)

/-- A key or a value of a block, at the token that announces it. -/
def blockPart : (fuel : Nat) → Source → Option (Node × Source)
  | 0, _ => none
  | fuel + 1, s =>
    match s.tokens with
    | [_] => none
    | _ :: .key :: _ | _ :: .value :: _ | _ :: .blockEnd :: _ => some (.missing, s.drop 1)
    | _ => node true true fuel (s.drop 1)

/-- The pairs of a block. -/
def blockEntries : (fuel : Nat) → Source → Option (List (Node × Node) × Source)
  | 0, _ => none
  | fuel + 1, s =>
    match s.tokens with
    | .blockEnd :: _ => some ([], s.drop 1)
    | .key :: _ | .value :: _ => do
      let (k, s) ← if s.tokens.head? = some .key then blockPart fuel s else some (.missing, s)
      let (v, s) ←
        match s.tokens with
        | [] => none
        | .value :: _ => blockPart fuel s
        | _ => some (.missing, s)
      let (more, s) ← blockEntries fuel s
      some ((k, v) :: more, s)
    | _ => none

/-- The items of a list in brackets, after its opening bracket or after an item. -/
def listItems (isFirst : Bool) : (fuel : Nat) → Source → Option (List Node × Source)
  | 0, _ => none
  | fuel + 1, s =>
    match s.tokens with
    | .listClose :: _ => some ([], s.drop 1)
    | tokens => do
      let s ←
        if isFirst then some s else if tokens.head? = some .comma then some (s.drop 1) else none
      match s.tokens with
      | .listClose :: _ => some ([], s.drop 1)
      | _ =>
        let (n, s) ←
          if s.tokens.head? = some .key then listPair fuel (s.drop 1)
          else node false false fuel s
        let (more, s) ← listItems false fuel s
        some (n :: more, s)

/-- A pair that is an item of a list, after the token that announces its key. -/
def listPair : (fuel : Nat) → Source → Option (Node × Source)
  | 0, _ => none
  | fuel + 1, s => do
    let s ← s.enter?
    let (k, s) ←
      match s.tokens with
      | .value :: _ | .comma :: _ | .listClose :: _ => some (.missing, s.drop 1)
      | _ => node false false fuel s
    let (v, s) ←
      match s.tokens with
      | [] | [.value] => none
      | .value :: .comma :: _ | .value :: .listClose :: _ => some (.missing, s.drop 1)
      | .value :: _ => node false false fuel (s.drop 1)
      | _ => some (.missing, s)
    some (.mapping [(k, v)], s.leave)

/-- The pairs of a table in brackets, after its opening bracket or after a pair. -/
def tableEntries (isFirst : Bool) :
    (fuel : Nat) → Source → Option (List (Node × Node) × Source)
  | 0, _ => none
  | fuel + 1, s =>
    match s.tokens with
    | .tableClose :: _ => some ([], s.drop 1)
    | tokens => do
      let s ←
        if isFirst then some s else if tokens.head? = some .comma then some (s.drop 1) else none
      match s.tokens with
      | .tableClose :: _ => some ([], s.drop 1)
      | _ =>
        let (k, v, s) ← tablePair fuel s
        let (more, s) ← tableEntries false fuel s
        some ((k, v) :: more, s)

/-- A pair of a table in brackets. A key that is not announced has no value. -/
def tablePair : (fuel : Nat) → Source → Option (Node × Node × Source)
  | 0, _ => none
  | fuel + 1, s => do
    let (k, isAnnounced, s) ←
      match s.tokens with
      | .value :: _ => some (.missing, true, s)
      | [.key] => none
      | .key :: .value :: _ | .key :: .comma :: _ | .key :: .tableClose :: _ =>
        some (.missing, true, s.drop 1)
      | .key :: _ => (node false false fuel (s.drop 1)).map fun r => (r.1, true, r.2)
      | _ => (node false false fuel s).map fun r => (r.1, false, r.2)
    let (v, s) ←
      match s.tokens with
      | [] => none
      | .value :: rest =>
        if !isAnnounced then some (.missing, s)
        else
          match rest with
          | [] => none
          | .comma :: _ | .tableClose :: _ => some (.missing, s.drop 1)
          | _ => node false false fuel (s.drop 1)
      | _ => some (.missing, s)
    some (k, v, s)
end

/-- The directives at the start of a document, and what follows them. A version may be
    given once; of several declared handles the last one counts. -/
def directives (sawVersion : Bool) (handles : Handles) : List Token → Option (Handles × List Token)
  | .versionDirective :: rest => if sawVersion then none else directives true [] rest
  | .tagDirective handle start :: rest => directives sawVersion [(handle, start)] rest
  | rest => some (handles, rest)

/-- What a document starts with that needs no mark at its start, or else the mark. -/
def opening? (needsMark : Bool) (tokens : List Token) : Option Source :=
  match tokens, needsMark with
  | .versionDirective :: _, _ | .tagDirective .. :: _, _ | .documentStart :: _, _ | _, true =>
    match directives false [] tokens with
    | some (handles, .documentStart :: rest) => some (.ofTokens handles rest)
    | _ => none
  | _, false => some (.ofTokens [] tokens)

/-- Whether a root starts in a document, be it left out. -/
def hasRoot (s : Source) : Bool :=
  match s.properties? with
  | none => false
  | some (anchor, kind, s) =>
    match s.tokens with
    | [] => false
    | .scalar .. :: _ | .listOpen :: _ | .tableOpen :: _ | .sequenceStart :: _
    | .mappingStart :: _ => true
    | .versionDirective :: _ | .tagDirective .. :: _ | .documentStart :: _ | .documentEnd :: _
    | .streamEnd :: _ => true
    | _ => anchor.isSome || kind ≠ .untagged

/-- Whether what follows a document is ignored: anything but the start of another
    document. -/
def isOver : List Token → Bool
  | [] | .versionDirective :: _ | .tagDirective .. :: _ => false
  | tokens =>
    let rest := tokens.dropWhile (· = .documentEnd)
    if rest.head? = some .streamEnd then true
    else
      match opening? (tokens.head? ≠ some .documentEnd) rest with
      | none => true
      | some s => !hasRoot s

/-- The root of the only document of a stream. -/
def Node.ofTokens? (tokens : List Token) : Option Node := do
  let s ← opening? false (tokens.dropWhile (· = .documentEnd))
  let (root, s) ← node true false (4 * tokens.length + 8) s
  if s.isModest && isOver s.tokens then some root else none

end Yaml

end Qualifier
