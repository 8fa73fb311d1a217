import Qualifier.Config.Yaml.Token

/-!
# Block Scalars

A scalar whose lines stand below a bar or an angle, indented. After a bar every
line end is kept; after an angle, a line end between two lines that start without
further blanks counts as a blank. What becomes of the line ends at the end of the
scalar is said after the bar or angle, and so may be the indentation.

## Main definitions

* `Chomp`, `Header`: What the first line says.
* `Body`: The lines that were read so far.
* `block`: A whole scalar.
-/

namespace Qualifier

namespace Yaml

/-- What becomes of the line ends at the end: none is kept, one, or all. -/
inductive Chomp where
  | strip
  | clip
  | keep
deriving DecidableEq, Repr

/-- What stands after the bar or angle. -/
structure Header where
  chomp : Chomp
  indentation : Nat
deriving DecidableEq, Repr

/-- The sign that says what becomes of the line ends at the end. -/
def chomp? : Char → Option Chomp
  | '+' => some .keep
  | '-' => some .strip
  | _ => none

/-- The digit that gives the indentation, which cannot be zero. Without a digit the
    indentation is found out from the lines. -/
def indentation (c : Cursor) : Option (Nat × Cursor) :=
  match c.rest with
  | x :: _ =>
    if x == '0' then none
    else if x.isDigit then some (x.toNat - '0'.toNat, c.pass 1)
    else some (0, c)
  | [] => some (0, c)

/-- The header after the bar or angle: a sign and a digit in either order. -/
def header (c : Cursor) : Option (Header × Cursor) :=
  match c.rest.head?.bind chomp? with
  | some chomp => do
    let (n, next) ← indentation (c.pass 1)
    some (⟨chomp, n⟩, next)
  | none => do
    let (n, next) ← indentation c
    -- The sign may follow a digit.
    match if n = 0 then none else next.rest.head?.bind chomp? with
    | some chomp => some (⟨chomp, n⟩, next.pass 1)
    | none => some (⟨.clip, n⟩, next)

/-- Moves on over the indentation of a line, and over empty lines before it, which are
    counted. -/
def passIndent (indent : Nat) : (fuel : Nat) → Cursor → Nat → Cursor × Nat
  | 0, c, lines => (c, lines)
  | fuel + 1, c, lines =>
    let spaces := (c.rest.takeWhile (· == ' ')).length
    let next := c.skip (min spaces (indent - c.column))
    if !next.rest.isEmpty && atLineEnd next.rest then
      passIndent indent fuel next.breakLine (lines + 1)
    else (next, lines)

/-- Moves on over empty lines to the first line that is not, whatever its indentation.
    The last result is the deepest indentation on the way. -/
def passEmpty : (fuel : Nat) → Cursor → (lines deepest : Nat) → Cursor × Nat × Nat
  | 0, c, lines, deepest => (c, lines, deepest)
  | fuel + 1, c, lines, deepest =>
    let next := c.skip (c.rest.takeWhile (· == ' ')).length
    let deepest := max deepest next.column
    if !next.rest.isEmpty && atLineEnd next.rest then
      passEmpty fuel next.breakLine (lines + 1) deepest
    else (next, lines, deepest)

/-- The lines that were read so far: their text, whether a line end follows it, the
    empty lines after that, and whether the last line started with a blank. -/
structure Body where
  text : List Char
  isBroken : Bool
  emptyLines : Nat
  wasIndented : Bool

namespace Body

/-- The line ends after the text. -/
def breaks (b : Body) : List Char :=
  (if b.isBroken then ['\n'] else []) ++ List.replicate b.emptyLines '\n'

/-- What stands between the text and a further line. -/
def joint (b : Body) (literal isIndented : Bool) : List Char :=
  if !literal && b.isBroken && !b.wasIndented && !isIndented then
    if b.emptyLines = 0 then [' '] else List.replicate b.emptyLines '\n'
  else b.breaks

end Body

/-- The lines of a block scalar that are indented by `indent`, and what follows. -/
def blockLines (literal : Bool) (indent : Nat) : (fuel : Nat) → Cursor → Body → Cursor × Body
  | 0, c, b => (c, b)
  | fuel + 1, c, b =>
    if c.column ≠ indent || c.rest.isEmpty || (indent == 0 && atMark '.' c.rest) then (c, b)
    else
      let line := c.rest.takeWhile fun x => !isBreak x
      let isIndented := isWhite (c.rest.headD '\n')
      let text := b.text ++ b.joint literal isIndented ++ line
      let next := c.pass line.length
      if next.rest.isEmpty then (next, ⟨text, false, 0, isIndented⟩)
      else
        let (next, lines) := passIndent indent (next.rest.length + 1) next.breakLine 0
        blockLines literal indent fuel next ⟨text, true, lines, isIndented⟩

/-- The text of a block scalar without lines of its own, at the end of a file.
    `sameLine` tells that not even the first line is ended. -/
def emptyBlock (chomp : Chomp) (sameLine : Bool) (emptyLines : Nat) : List Char :=
  match chomp with
  | .strip => []
  | .clip => if sameLine then [] else ['\n']
  | .keep => if sameLine then [] else List.replicate (max emptyLines 1) '\n'

/-- The text of a block scalar after its last line. A last line without an end gets
    one, if it is indented like the others. -/
def chomped (chomp : Chomp) (outer : Int) (c : Cursor) (b : Body) : List Char :=
  let ended := if b.isBroken then ['\n'] else []
  let completed := if c.rest.isEmpty && max outer 1 ≤ (c.column : Int) then ['\n'] else []
  let kept := List.replicate b.emptyLines '\n'
  match chomp with
  | .strip => b.text
  | .clip => b.text ++ ended ++ completed
  | .keep => b.text ++ ended ++ completed ++ kept

/-- A block scalar at its bar or angle inside a block that is indented by `outer`, and
    what follows it. -/
def block (literal : Bool) (outer : Int) (start : Cursor) : Option (String × Cursor) := do
  let (header, c) ← header (start.pass 1)
  let c ← c.pastBlanks
  if !atLineEnd c.rest then none
  else
    let c := c.breakLine
    let fuel := c.rest.length + 1
    if c.rest.head? == some '\t' then none
    else
      let (c, lines, indent) :=
        if header.indentation = 0 then
          let (next, lines, deepest) := passEmpty fuel c 0 0
          let least := max (outer + 1) (if 0 < outer then 1 else 0)
          (next, lines, max deepest least.toNat)
        else
          let indent := header.indentation + outer.toNat
          let (next, lines) := passIndent indent fuel c 0
          (next, lines, indent)
      if c.rest.isEmpty then
        some (String.ofList (emptyBlock header.chomp (c.line == start.line) lines), c)
      -- A line that is indented more than the block, but less than its lines.
      else if c.column < indent && outer < (c.column : Int) then none
      else
        let (next, body) := blockLines literal indent fuel c ⟨[], false, lines, false⟩
        some (String.ofList (chomped header.chomp outer next body), next)

end Yaml

end Qualifier
