import Qualifier.Config.Yaml.Token

/-!
# Scalars Without Quotes

A scalar that stands without quotes: words with blanks between them, which may go
on over several lines. A single line end between two words counts as a blank;
of several line ends, all but the first are kept.

## Main definitions

* `word`: The longest word at the start of a text.
* `Gap`: What stands between two words.
* `plain`: A whole scalar.
-/

namespace Qualifier

namespace Yaml

/-- Whether the first character of a text may belong to a word. A colon may not if
    something else starts after it. -/
def continuesWord (inFlow : Bool) : List Char → Bool
  | [] => false
  | ':' :: rest => !(atGap rest || (inFlow && atFlow rest))
  | c :: _ => !(isWhite c || isBreak c || (inFlow && isFlow c))

/-- The longest word at the start of a text. -/
def word (inFlow : Bool) : List Char → List Char
  | [] => []
  | c :: cs => if continuesWord inFlow (c :: cs) then c :: word inFlow cs else []

/-- What stands between two words: blanks on one line, or a line end with some empty
    lines after it. -/
structure Gap where
  blanks : List Char
  isFolded : Bool
  emptyLines : Nat
deriving DecidableEq, Repr

namespace Gap

/-- Nothing at all. -/
def none : Gap :=
  ⟨[], false, 0⟩

/-- What a gap counts as within a scalar. -/
def text (g : Gap) : List Char :=
  if g.isFolded then if g.emptyLines = 0 then [' '] else List.replicate g.emptyLines '\n'
  else g.blanks

end Gap

/-- Moves on over blanks and line ends. Tabs may not stand where a line's indentation
    would be, unless the line says nothing else. -/
def passGap (indent : Int) : (fuel : Nat) → Cursor → Gap → Option (Cursor × Gap)
  | 0, _, _ => none
  | fuel + 1, c, g =>
    match c.rest with
    | [] => some (c, g)
    | x :: _ =>
      if isWhite x then
        if !c.isFresh then passGap indent fuel (c.skip 1) { g with blanks := g.blanks ++ [x] }
        else if x == '\t' && (c.column : Int) < indent then do
          let next ← c.pastBlanks
          if atLineEnd next.rest then passGap indent fuel next g else none
        else passGap indent fuel (c.skip 1) g
      else if isBreak x then
        if c.isFresh then passGap indent fuel c.breakLine { g with emptyLines := g.emptyLines + 1 }
        else passGap indent fuel c.breakLine { g with blanks := [], isFolded := true }
      else some (c, g)

/-- Whether a scalar without quotes has to end here: before a mark of a document, and
    before a comment. -/
def endsPlain (c : Cursor) : Bool :=
  c.atDocumentMark || c.rest.head? == some '#'

/-- The rest of a scalar without quotes after some text and a gap. -/
def plainFrom (inFlow : Bool) (indent : Int) :
    (fuel : Nat) → Cursor → Gap → List Char → Option (List Char × Cursor)
  | 0, _, _, _ => none
  | fuel + 1, c, g, text =>
    if endsPlain c then some (text, c)
    -- In brackets, a hyphen before a bracket or a comma could be meant as an item.
    else if inFlow && c.rest.head? == some '-' && atFlow (c.rest.drop 1) then none
    else
      let found := word inFlow c.rest
      if found.isEmpty then some (text, c)
      else
        let text := text ++ g.text ++ found
        let c := c.pass found.length
        if atGap c.rest && !c.rest.isEmpty then do
          let (next, gap) ← passGap indent (c.rest.length + 1) c .none
          -- A line that is indented less does not belong to the scalar any more.
          if !inFlow && (next.column : Int) < indent then some (text, next)
          else plainFrom inFlow indent fuel next gap text
        else some (text, c)

/-- A scalar without quotes whose further lines are indented by `indent` at least,
    and what follows it. -/
def plain (inFlow : Bool) (indent : Int) (c : Cursor) : Option (String × Cursor) :=
  if inFlow && (c.column : Int) < indent then none
  else do
    let (text, next) ← plainFrom inFlow indent (c.rest.length + 1) c .none []
    if text.isEmpty then none else some (String.ofList text, next)

end Yaml

end Qualifier
