import Qualifier.Config.Environment
import Qualifier.Config.Yaml.Plain

/-!
# Quoted Scalars

A scalar in single quotes, in which only the quote itself is special, or in double
quotes with escapes. Both may go on over several lines, which are folded like those
of a scalar without quotes; an escaped line end counts as nothing.

## Main definitions

* `escape?`: The character of an escape.
* `quoted`: A whole scalar.
-/

namespace Qualifier

namespace Yaml

/-- The character of an escape by its letter. -/
def letterEscape? (c : Char) : Option Char :=
  [('0', '\x00'), ('a', '\x07'), ('b', '\x08'), ('t', '\t'), ('\t', '\t'), ('n', '\n'),
    ('v', '\x0b'), ('f', '\x0c'), ('r', '\r'), ('e', '\x1b'), (' ', ' '), ('"', '"'),
    ('/', '/'), ('\\', '\\'), ('N', '\u0085'), ('_', '\u00a0'), ('L', '\u2028'),
    ('P', '\u2029')].lookup c

/-- The number of hexadecimal digits after the letter of an escape. -/
def escapeDigits? (c : Char) : Option Nat :=
  [('x', 2), ('u', 4), ('U', 8)].lookup c

/-- The character of an escape after its backslash, and the number of characters it is
    written with. -/
def escape? : List Char → Option (Char × Nat)
  | [] => none
  | c :: cs =>
    match escapeDigits? c with
    | none => (letterEscape? c).map fun x => (x, 1)
    | some n =>
      if (cs.take n).length = n then (Literal.codePoint? (cs.take n)).map fun x => (x, n + 1)
      else none

/-- Quotes of the two kinds. -/
inductive Quote where
  | single
  | double
deriving DecidableEq, Repr

/-- The character of a quote. -/
def Quote.char : Quote → Char
  | .single => '\''
  | .double => '"'

/-- The characters up to a blank, a line end or the closing quote, after some that were
    read before, the last of them first. The last result tells whether an escaped line
    end comes next, which is passed too. -/
def quotedRun (q : Quote) : (fuel : Nat) → Cursor → List Char → Option (List Char × Cursor × Bool)
  | 0, _, _ => none
  | fuel + 1, c, before =>
    if atGap c.rest then some (before.reverse, c, false)
    else
      match q, c.rest with
      | .single, '\'' :: '\'' :: _ => quotedRun q fuel (c.pass 2) ('\'' :: before)
      | .double, '\\' :: rest =>
        if !rest.isEmpty && atLineEnd rest then some (before.reverse, (c.pass 1).breakLine, true)
        else do
          let (x, n) ← escape? rest
          quotedRun q fuel (c.pass (n + 1)) (x :: before)
      | q, x :: _ =>
        if x = q.char then some (before.reverse, c, false)
        else quotedRun q fuel (c.pass 1) (x :: before)
      | _, [] => some (before.reverse, c, false)

/-- Moves on over blanks and line ends between two runs. `broken` tells that a line
    end was passed, so that blanks count as indentation. -/
def quotedGap (indent : Int) : (fuel : Nat) → (broken : Bool) → Cursor → Gap → Option (Cursor × Gap)
  | 0, _, _, _ => none
  | fuel + 1, broken, c, g =>
    match c.rest with
    | [] => some (c, g)
    | x :: _ =>
      if isWhite x then
        if !broken then quotedGap indent fuel broken (c.skip 1) { g with blanks := g.blanks ++ [x] }
        else if x == '\t' && (c.column : Int) < indent then none
        else quotedGap indent fuel broken (c.skip 1) g
      else if isBreak x then
        if broken then
          quotedGap indent fuel true c.breakLine { g with emptyLines := g.emptyLines + 1 }
        else quotedGap indent fuel true c.breakLine { g with blanks := [], isFolded := true }
      else some (c, g)

/-- What the gap after a run counts as. After an escaped line end only the empty lines
    count. -/
def quotedGapText (escaped : Bool) (g : Gap) : List Char :=
  if escaped then List.replicate g.emptyLines '\n' else g.text

/-- The rest of a quoted scalar after some text, up to its closing quote. -/
def quotedFrom (q : Quote) (indent : Int) :
    (fuel : Nat) → Cursor → List Char → Option (List Char × Cursor)
  | 0, _, _ => none
  | fuel + 1, c, text =>
    if c.atDocumentMark || c.rest.isEmpty || (c.column : Int) < indent then none
    else do
      let (run, next, escaped) ← quotedRun q (c.rest.length + 1) c []
      let text := text ++ run
      if next.rest.head? == some q.char then some (text, next)
      else
        let (next, gap) ← quotedGap indent (next.rest.length + 1) escaped next .none
        quotedFrom q indent fuel next (text ++ quotedGapText escaped gap)

/-- Whether something may follow a quoted scalar that started on some line: the end of
    the line, a colon if the scalar is a key, and in brackets what separates values. -/
def mayFollowQuoted (inFlow : Bool) (line : Nat) (c : Cursor) : Bool :=
  match c.rest with
  | [] => true
  | ':' :: _ => inFlow || line == c.line
  | x :: _ => isBreak x || (inFlow && (x == ',' || x == ']' || x == '\x7d'))

/-- A quoted scalar at its opening quote, and what follows it. -/
def quoted (q : Quote) (inFlow : Bool) (indent : Int) (c : Cursor) : Option (String × Cursor) := do
  let (text, next) ← quotedFrom q indent (c.rest.length + 1) (c.pass 1) []
  let next ← (next.pass 1).pastBlanks
  if mayFollowQuoted inFlow c.line next then some (String.ofList text, next) else none

end Yaml

end Qualifier
