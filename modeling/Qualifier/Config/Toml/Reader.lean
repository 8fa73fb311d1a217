import Qualifier.Config.Toml.Scalar
import Qualifier.Config.Toml.Table

/-!
# Reading TOML

A TOML file line by line: blank lines, comments, headers of tables, and keys with
their values.

## Main definitions

* `dottedKey`: A key of one or more parts.
* `value`, `items`, `members`: A value, and the insides of lists and tables.
* `line`: One line and its effect.
* `read`: A whole file.
-/

namespace Qualifier

namespace Toml

/-- A text without the blanks it starts with. -/
def skipBlank (cs : List Char) : List Char :=
  cs.dropWhile fun c => c == ' ' || c == '\t'

/-- What follows a comment, if there is a proper one or none. -/
def skipComment? : List Char → Option (List Char)
  | '#' :: cs =>
    match cs.dropWhile isTextChar with
    | '\r' :: '\n' :: rest => some ('\r' :: '\n' :: rest)
    | '\n' :: rest => some ('\n' :: rest)
    | [] => some []
    | _ => none
  | cs => some cs

/-- What follows the rest of a line that says nothing more. -/
def endLine? (cs : List Char) : Option (List Char) := do
  match ← skipComment? (skipBlank cs) with
  | [] => some []
  | rest => afterLineEnd? rest

/-- What follows blanks, comments and line ends. -/
def skipLayout : (fuel : Nat) → List Char → Option (List Char)
  | 0, _ => none
  | fuel + 1, cs => do
    let rest ← skipComment? (skipBlank cs)
    match afterLineEnd? rest with
    | some after => skipLayout fuel after
    | none => some rest

/-- One part of a key. -/
def keyPart (cs : List Char) : Option (String × List Char) :=
  match cs with
  | '"' :: rest =>
    (basicText (rest.length + 1) rest).map fun r => (String.ofList r.1, r.2)
  | '\'' :: rest => (literalText rest).map fun r => (String.ofList r.1, r.2)
  | cs =>
    match cs.takeWhile Literal.isKeyChar with
    | [] => none
    | name => some (String.ofList name, cs.dropWhile Literal.isKeyChar)

/-- The most parts of a key, and the most brackets around a value. -/
def depthLimit : Nat := 79

/-- A key of one or more parts with points between them, and what follows it. There
    are at most `room` parts. -/
def keyParts : (room : Nat) → List Char → Option (List String × List Char)
  | 0, _ => none
  | room + 1, cs => do
    let (part, rest) ← keyPart (skipBlank cs)
    match skipBlank rest with
    | '.' :: rest => (keyParts room rest).map fun r => (part :: r.1, r.2)
    | rest => some ([part], rest)

/-- A key that is not too long, and what follows it. -/
def dottedKey (cs : List Char) : Option (List String × List Char) :=
  keyParts depthLimit cs

/-- Whether a character may stand in a word. -/
def isWordChar (c : Char) : Bool :=
  c.isAlphanum || c == '+' || c == '-' || c == '_' || c == '.' || c == ':'

/-- A word, and what follows it. A date and a time with one blank between them are
    one word. -/
def word (cs : List Char) : List Char × List Char :=
  let first := cs.takeWhile isWordChar
  let rest := cs.dropWhile isWordChar
  match afterDate? first, rest with
  | some [], ' ' :: c :: more =>
    if c.isDigit then (first ++ ' ' :: (c :: more).takeWhile isWordChar, more.dropWhile isWordChar)
    else (first, rest)
  | _, _ => (first, rest)

mutual
/-- A value, and what follows it. There is room for `room` brackets around values. -/
def value : (fuel room : Nat) → List Char → Option (Datum × List Char)
  | 0, _, _ => none
  | fuel + 1, room, cs =>
    match cs, room with
    | '[' :: rest, room + 1 => (items fuel room rest).map fun r => (.list r.1, r.2)
    | '\x7b' :: rest, room + 1 =>
      (members fuel room [] (skipBlank rest)).map fun r => (.table (Level.entries r.1), r.2)
    | '"' :: _, _ | '\'' :: _, _ => (quoted cs).map fun r => (.text r.1, r.2)
    | cs, _ => (scalar? (word cs).1).map fun d => (d, (word cs).2)

/-- The items of a list after its opening bracket or after a comma. -/
def items : (fuel room : Nat) → List Char → Option (List Datum × List Char)
  | 0, _, _ => none
  | fuel + 1, room, cs => do
    match ← skipLayout (cs.length + 1) cs with
    | ']' :: rest => some ([], rest)
    | cs =>
      let (d, rest) ← value fuel room cs
      match ← skipLayout (rest.length + 1) rest with
      | ',' :: rest => (items fuel room rest).map fun r => (d :: r.1, r.2)
      | ']' :: rest => some ([d], rest)
      | _ => none

/-- The members of a table after its opening brace or after a comma, added to
    those before. Only an empty table may have nothing before its closing brace. -/
def members : (fuel room : Nat) → Level → List Char → Option (Level × List Char)
  | 0, _, _, _ => none
  | fuel + 1, room, level, cs =>
    match level, cs with
    | [], '\x7d' :: rest => some ([], rest)
    | level, cs => do
      let (path, rest) ← dottedKey cs
      match rest with
      | '=' :: rest =>
        let (d, rest) ← value fuel room (skipBlank rest)
        let level ← assign d path level
        match skipBlank rest with
        | ',' :: rest => members fuel room level rest
        | '\x7d' :: rest => some (level, rest)
        | _ => none
      | _ => none
end

/-- A file that is being read: the whole table so far, and the path of the header
    that the next lines belong to. -/
structure Draft where
  root : Level
  path : List String

/-- The draft after a header. -/
def Draft.enter (draft : Draft) (isElement : Bool) (path : List String) : Option Draft := do
  let last ← path.getLast?
  let change := if isElement then openElement last else openTable last
  let root ← descend change path.dropLast draft.root
  some ⟨root, path⟩

/-- The draft after a key was given a value. -/
def Draft.store (draft : Draft) (path : List String) (d : Datum) : Option Draft := do
  let root ← descend (assign d path) draft.path draft.root
  some { draft with root := root }

/-- One line without the blanks it starts with: its effect, and what follows it. -/
def line (draft : Draft) (cs : List Char) : Option (Draft × List Char) :=
  match cs with
  | '[' :: '[' :: rest => do
    let (path, rest) ← dottedKey rest
    match rest with
    | ']' :: ']' :: rest => some (← draft.enter true path, ← endLine? rest)
    | _ => none
  | '[' :: rest => do
    let (path, rest) ← dottedKey rest
    match rest with
    | ']' :: rest => some (← draft.enter false path, ← endLine? rest)
    | _ => none
  | cs => do
    let (path, rest) ← dottedKey cs
    match rest with
    | '=' :: rest =>
      let (d, rest) ← value (2 * cs.length + 2) depthLimit (skipBlank rest)
      some (← draft.store path d, ← endLine? rest)
    | _ => none

/-- All lines of a file. -/
def lines : (fuel : Nat) → Draft → List Char → Option Draft
  | 0, _, _ => none
  | fuel + 1, draft, cs => do
    match ← skipLayout (cs.length + 1) cs with
    | [] => some draft
    | cs =>
      let (draft, rest) ← line draft cs
      lines fuel draft rest

/-- The top-level entries of a file, if it is well formed. -/
def read (text : String) : Option Entries := do
  let cs := match text.toList with
    | '\uFEFF' :: cs => cs
    | cs => cs
  let draft ← lines (cs.length + 1) ⟨[], []⟩ cs
  some (Level.entries draft.root)

end Toml

end Qualifier
