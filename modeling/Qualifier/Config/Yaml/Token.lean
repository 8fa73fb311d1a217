/-!
# Tokens of YAML

What a YAML stream is made of before its nesting is worked out, and the place in a
text that a reader has come to.

## Main definitions

* `Token`: The tokens.
* `Cursor`: What is left of a text, and where that is.
* `Cursor.afterBlanks`: The rest of a line that says nothing more.

## Theorems

* `rest_skip`, `rest_pass`: Moving on drops characters and nothing else.
-/

namespace Qualifier

namespace Yaml

/-- The tokens of a stream. Blocks are opened and closed by their indentation, lists
    and tables in brackets by those. -/
inductive Token where
  | versionDirective
  | tagDirective (handle expansion : String)
  | documentStart
  | documentEnd
  | streamEnd
  | sequenceStart
  | mappingStart
  | blockEnd
  | listOpen
  | listClose
  | tableOpen
  | tableClose
  | item
  | comma
  | key
  | value
  | reference (name : String)
  | anchor (name : String)
  | tag (handle suffix : String)
  | scalar (isPlain : Bool) (text : String)
deriving DecidableEq, Repr

/-- Whether a character is a blank within a line. -/
def isWhite (c : Char) : Bool :=
  c == ' ' || c == '\t'

/-- Whether a character ends a line. -/
def isBreak (c : Char) : Bool :=
  c == '\n' || c == '\r'

/-- Whether a character belongs to the notation in brackets. -/
def isFlow (c : Char) : Bool :=
  c == ',' || c == '[' || c == ']' || c == '\x7b' || c == '\x7d'

/-- Whether a text is at the end of a line. -/
def atLineEnd : List Char → Bool
  | [] => true
  | c :: _ => isBreak c

/-- Whether a text is at a blank or at the end of a line. -/
def atGap : List Char → Bool
  | [] => true
  | c :: _ => isWhite c || isBreak c

/-- Whether a text is at a character of the notation in brackets. -/
def atFlow : List Char → Bool
  | [] => false
  | c :: _ => isFlow c

/-- Whether a text starts with a mark of three equal characters. -/
def atMark (mark : Char) : List Char → Bool
  | a :: b :: c :: rest => a == mark && b == mark && c == mark && atGap rest
  | _ => false

/-- What is left of a text: the line and column of its first character, how many
    characters came before, and whether only blanks stand before it on its line. -/
structure Cursor where
  rest : List Char
  line : Nat
  column : Nat
  index : Nat
  isFresh : Bool
deriving DecidableEq, Repr

namespace Cursor

/-- The start of a text. -/
def ofText (cs : List Char) : Cursor :=
  ⟨cs, 0, 0, 0, true⟩

/-- Moves on over blanks or a comment. -/
def skip (n : Nat) (c : Cursor) : Cursor :=
  { c with rest := c.rest.drop n, column := c.column + n, index := c.index + n }

/-- Moves on over characters that say something. -/
def pass (n : Nat) (c : Cursor) : Cursor :=
  { c.skip n with isFresh := false }

/-- Moves on to the next line, from the end of this one. -/
def breakLine (c : Cursor) : Cursor :=
  let after (rest : List Char) (n : Nat) : Cursor := ⟨rest, c.line + 1, 0, c.index + n, true⟩
  match c.rest with
  | '\r' :: '\n' :: rest => after rest 2
  | '\r' :: rest | '\n' :: rest => after rest 1
  | _ => c

/-- Moves on to the end of the line. -/
def toLineEnd (c : Cursor) : Cursor :=
  c.skip (c.rest.takeWhile fun x => !isBreak x).length

/-- Whether a mark of a document stands here, at the start of a line. -/
def atDocumentMark (c : Cursor) : Bool :=
  c.column == 0 && (atMark '-' c.rest || atMark '.' c.rest)

/-- Moves on over blanks and over a comment after them. A comment has to be separated
    by blanks from what stands before it. The two results tell whether tabs and
    whether spaces were passed. -/
def afterBlanks (withTabs : Bool) (c : Cursor) : Option (Bool × Bool × Cursor) :=
  let blanks := c.rest.takeWhile fun x => x == ' ' || (withTabs && x == '\t')
  let next := c.skip blanks.length
  let found (next : Cursor) := (blanks.contains '\t', blanks.contains ' ', next)
  match next.rest with
  | '#' :: _ => if blanks.isEmpty then none else some (found next.toLineEnd)
  | _ => some (found next)

/-- Moves on over blanks and a comment. -/
def pastBlanks (c : Cursor) : Option Cursor :=
  (c.afterBlanks true).map fun r => r.2.2

@[simp] theorem rest_skip (n : Nat) (c : Cursor) : (c.skip n).rest = c.rest.drop n :=
  rfl

@[simp] theorem rest_pass (n : Nat) (c : Cursor) : (c.pass n).rest = c.rest.drop n :=
  rfl

end Cursor

end Yaml

end Qualifier
