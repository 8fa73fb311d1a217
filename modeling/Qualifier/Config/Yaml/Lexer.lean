import Qualifier.Config.Yaml.Block
import Qualifier.Config.Yaml.Quoted
import Qualifier.Text.Utf8

/-!
# Cutting YAML into Tokens

Tokens are found from left to right. That a scalar is a key shows only when the
colon after it is met, so the tokens that open a table and announce a key are put
before tokens that were found earlier; a token counts as given only once nothing can
be put before it any more. Where a text turns out not to be well formed, the tokens
given before that stand.

## Main definitions

* `Indent`, `Candidate`: Open indentations, and what may still become a key.
* `Lexer`: What is known at some place of a text.
* `Lexer.fetch`: Finds the next tokens.
* `Token.scan`: All tokens of a text.
-/

namespace Qualifier

namespace Yaml

/-- An open indentation: the one around it, and whether it belongs to a block of its
    own, which is closed together with it. -/
structure Indent where
  outer : Int
  isBlock : Bool
deriving DecidableEq, Repr

/-- Something that becomes a key if a colon follows it: its place, and the number of
    its first token. It is `required` to become one where nothing but a key may
    stand. -/
structure Candidate where
  isPossible : Bool
  isRequired : Bool
  token : Nat
  line : Nat
  column : Nat
  index : Nat
deriving DecidableEq, Repr

/-- A candidate that was given up. -/
def Candidate.givenUp (k : Candidate) : Candidate :=
  { k with isPossible := false }

/-- Nothing that could become a key. -/
def Candidate.none : Candidate :=
  ⟨false, false, 0, 0, 0, 0⟩

/-- The longest key that is not announced by a question mark. -/
def keyLimit : Nat := 1024

/-- The most brackets that may be open at once. -/
def flowLimit : Nat := 255

/-- What is known at some place of a text. There is one candidate for each open
    bracket, the innermost first, and one for the block around them. `adjacent` is
    the place right after a quoted scalar or a bracket, where a colon needs no blank
    after it. `pairs` holds for each open list in brackets whether a pair without
    brackets of its own stands in it, unless a table in brackets was met before. -/
structure Lexer where
  cursor : Cursor
  tokens : Array Token
  given : Nat
  indent : Int
  indents : List Indent
  flow : Nat
  mayStartKey : Bool
  candidates : List Candidate
  adjacent : Nat
  sawTable : Bool
  pairs : List Bool

namespace Lexer

/-- The start of a text. -/
def ofText (cs : List Char) : Lexer :=
  ⟨.ofText cs, #[], 0, -1, [], 0, true, [.none], 0, false, []⟩

/-- Whether brackets are open. -/
def inFlow (s : Lexer) : Bool :=
  0 < s.flow

/-- Moves to another place. -/
def goTo (s : Lexer) (c : Cursor) : Lexer :=
  { s with cursor := c }

/-- A further token. -/
def push (s : Lexer) (t : Token) : Lexer :=
  { s with tokens := s.tokens.push t }

/-- A token put before others. -/
def insert (s : Lexer) (position : Nat) (t : Token) : Lexer :=
  { s with tokens := s.tokens.insertIdxIfInBounds position t }

/-- Whether a key may start at the next token. -/
def allowKey (s : Lexer) (may : Bool) : Lexer :=
  { s with mayStartKey := may }

/-- The innermost candidate. -/
def candidate (s : Lexer) : Candidate :=
  s.candidates.headD .none

/-- The state with another innermost candidate. -/
def withCandidate (s : Lexer) (k : Candidate) : Lexer :=
  { s with candidates := k :: s.candidates.drop 1 }

/-- Gives up the candidates that a key cannot come from any more, since it would be
    too long or go over a line end. -/
def dropStale (s : Lexer) : Option Lexer :=
  let isStale (k : Candidate) : Bool :=
    k.isPossible && !s.inFlow && (k.line < s.cursor.line || k.index + keyLimit < s.cursor.index)
  if s.candidates.any fun k => isStale k && k.isRequired then none
  else
    some { s with candidates := s.candidates.map fun k => if isStale k then k.givenUp else k }

/-- Takes what starts here as a candidate, where a key may start. -/
def saveCandidate (s : Lexer) : Lexer :=
  if !s.mayStartKey then s
  else
    let isRequired := !s.inFlow && s.indent == (s.cursor.column : Int) &&
      (s.indents.head?.map Indent.isBlock).getD false
    s.withCandidate
      ⟨true, isRequired, s.tokens.size, s.cursor.line, s.cursor.column, s.cursor.index⟩

/-- Gives up the innermost candidate. -/
def dropCandidate (s : Lexer) : Option Lexer :=
  if s.candidate.isPossible && s.candidate.isRequired then none
  else some (s.withCandidate s.candidate.givenUp)

/-- Closes indentations until one of them is open that starts at `column` or before. -/
def unroll (column : Int) : (fuel : Nat) → Lexer → Lexer
  | 0, s => s
  | fuel + 1, s =>
    if s.inFlow || s.indent ≤ column then s
    else
      match s.indents with
      | [] => s
      | top :: rest =>
        let closed := { s with indent := top.outer, indents := rest }
        unroll column fuel (if top.isBlock then closed.push .blockEnd else closed)

/-- Closes all indentations that reach beyond a column. -/
def closeTo (s : Lexer) (column : Int) : Lexer :=
  unroll column (s.indents.length + 1) s

/-- Closes the innermost indentations that are no blocks of their own. -/
def closeLoose (s : Lexer) : Lexer :=
  match (s.indents.takeWhile fun i => !i.isBlock).getLast? with
  | .none => s
  | .some last =>
    { s with indent := last.outer, indents := s.indents.dropWhile fun i => !i.isBlock }

/-- Opens a block at a column, unless one is open there. The token that opens it is put
    before the token with a number, if there is one. -/
def openBlock (s : Lexer) (column : Nat) (number : Option Nat) (t : Token) : Lexer :=
  if s.inFlow then s
  else
    let s :=
      match s.indents with
      | top :: rest =>
        -- An indentation that was only prepared makes way for the block.
        if s.indent ≤ (column : Int) && !top.isBlock then
          { s with indent := top.outer, indents := rest }
        else s
      | [] => s
    if s.indent < (column : Int) then
      let opened := { s with indent := column, indents := ⟨s.indent, true⟩ :: s.indents }
      match number with
      | some n => opened.insert n t
      | none => opened.push t
    else s

/-- Prepares for content that has to be indented by one column more. -/
def prepareIndent (s : Lexer) : Lexer :=
  if !s.inFlow && (s.indents.head?.map Indent.isBlock).getD false then
    { s with indent := s.indent + 1, indents := ⟨s.indent, false⟩ :: s.indents }
  else s

/-- Moves on over blanks, comments and line ends to the next token. Tabs may not stand
    where the indentation of a block would be. -/
def skipLayout : (fuel : Nat) → Lexer → Option Lexer
  | 0, _ => none
  | fuel + 1, s =>
    match s.cursor.rest with
    | '#' :: _ => skipLayout fuel (s.goTo s.cursor.toLineEnd)
    | x :: _ =>
      if x == '\t' && !s.indents.isEmpty && s.cursor.isFresh &&
          (s.cursor.column : Int) < s.indent then do
        let next ← s.cursor.pastBlanks
        if atLineEnd next.rest then skipLayout fuel (s.goTo next) else none
      else if isWhite x then skipLayout fuel (s.goTo (s.cursor.skip 1))
      else if isBreak x then
        let next := s.goTo s.cursor.breakLine
        skipLayout fuel (if s.inFlow then next else next.allowKey true)
      else some s
    | [] => some s

/-- Moves on to the next token. -/
def toNext (s : Lexer) : Option Lexer :=
  skipLayout (s.cursor.rest.length + 1) s

/-- Passes one character and the blanks after it, and gives a token for it. -/
def pushMark (s : Lexer) (t : Token) : Option Lexer := do
  let next ← (s.cursor.pass 1).pastBlanks
  some ((s.goTo next).push t)

/-- The end of a text. -/
def finish (s : Lexer) : Option Lexer :=
  if s.candidates.any fun k => k.isPossible && k.isRequired then none
  else
    let settled := { s with candidates := s.candidates.map Candidate.givenUp }
    some (((settled.closeTo (-1)).allowKey false).push .streamEnd)

/-- Closes the pair without brackets that stands in the innermost list. -/
def endPair (s : Lexer) : Lexer :=
  match s.pairs with
  | true :: rest => { s with sawTable := false, pairs := false :: rest }.push .tableClose
  | _ => s

/-- A bracket that opens a list or a table. -/
def openFlow (s : Lexer) (isList : Bool) : Option Lexer := do
  let s := s.saveCandidate.prepareIndent
  if flowLimit ≤ s.flow then none
  let s := { s with
    flow := s.flow + 1
    candidates := .none :: s.candidates
    mayStartKey := true
    sawTable := s.sawTable || !isList
    pairs := if isList then false :: s.pairs else s.pairs }
  s.pushMark (if isList then .listOpen else .tableOpen)

/-- A bracket that closes a list or a table. -/
def closeFlow (s : Lexer) (isList : Bool) : Option Lexer := do
  if !s.inFlow then none
  let s ← s.dropCandidate
  let s := if isList then s.endPair else s
  let s := { s with
    flow := s.flow - 1
    candidates := s.candidates.drop 1
    mayStartKey := false
    pairs := if isList then s.pairs.drop 1 else s.pairs }
  let s ← s.pushMark (if isList then .listClose else .tableClose)
  some (if s.inFlow then { s with adjacent := s.cursor.index } else s)

/-- A comma in brackets. -/
def comma (s : Lexer) : Option Lexer := do
  let s ← s.dropCandidate
  (s.allowKey true).endPair.pushMark .comma

/-- A hyphen that starts an item of a block. -/
def startItem (s : Lexer) : Option Lexer := do
  if s.inFlow || !s.mayStartKey then none
  let column := s.cursor.column
  let s := (s.goTo (s.cursor.pass 1)).openBlock column none .sequenceStart
  let (sawTab, _, next) ← s.cursor.afterBlanks true
  -- Tabs cannot indent a further item on the same line.
  if sawTab && next.rest.head? == some '-' && atGap (next.rest.drop 1) then none
  let s := s.goTo next
  let s := if atLineEnd next.rest && !next.rest.isEmpty || atFlow next.rest then s.prepareIndent
    else s
  let s ← s.dropCandidate
  some ((s.allowKey true).push .item)

/-- Moves on over the layout after a question mark. -/
def passKeyLayout : (fuel : Nat) → Lexer → Lexer
  | 0, s => s
  | fuel + 1, s =>
    match s.cursor.rest with
    | ' ' :: _ => passKeyLayout fuel (s.goTo (s.cursor.skip 1))
    | '#' :: _ => passKeyLayout fuel (s.goTo s.cursor.toLineEnd)
    | x :: _ =>
      if isBreak x then
        let next := s.goTo s.cursor.breakLine
        passKeyLayout fuel (if s.inFlow then next else next.allowKey true)
      else s
    | [] => s

/-- A question mark that announces a key. -/
def startKey (s : Lexer) : Option Lexer := do
  if !s.inFlow && !s.mayStartKey then none
  let s := if s.inFlow then { s with sawTable := true }
    else s.openBlock s.cursor.column none .mappingStart
  let s ← s.dropCandidate
  let s := (s.allowKey (!s.inFlow)).goTo (s.cursor.pass 1)
  -- At least a blank or a line end has to follow.
  if s.cursor.rest.isEmpty then none
  let s := passKeyLayout (s.cursor.rest.length + 1) s
  if s.cursor.rest.head? == some '\t' then none
  else some (s.push .key)

/-- Moves on over a colon. Tabs alone do not separate it from a word on its line. -/
def passColon (c : Cursor) : Option Cursor := do
  let next := c.pass 1
  if next.rest.head? == some '\t' then
    let (_, sawSpace, after) ← next.afterBlanks true
    let x := after.rest.headD '\n'
    if !sawSpace && (x == '-' || x == '_' || x.isAlphanum) then none
    else some after
  else some next

/-- A colon after a candidate, which thereby becomes a key. -/
def endCandidate (s : Lexer) (k : Candidate) (line : Nat) (isPair : Bool) : Option Lexer := do
  if isPair && k.line < line then none
  let s := s.insert k.token .key
  let s := if isPair then s.insert k.token .tableOpen else s
  let s := (s.openBlock k.column (some k.token) .mappingStart).prepareIndent
  some ((s.withCandidate k.givenUp).allowKey false)

/-- A colon that no candidate stands before. -/
def startValue (s : Lexer) (column : Nat) (isPair : Bool) : Option Lexer := do
  let s := if isPair then s.push .tableOpen else s
  if s.inFlow then some (s.allowKey false)
  else if !s.mayStartKey then none
  else some ((s.openBlock column none .mappingStart).prepareIndent.allowKey true)

/-- A colon that ends a key. -/
def colon (s : Lexer) : Option Lexer := do
  let k := s.candidate
  let start := s.cursor
  let isPair := !s.pairs.isEmpty && !s.sawTable
  let s := if isPair then { s with pairs := true :: s.pairs.drop 1 } else s
  let s := s.goTo (← passColon start)
  let s ← if k.isPossible then s.endCandidate k start.line isPair
    else s.startValue start.column isPair
  some (s.push .value)

/-- Whether a character may stand in the name of an anchor. -/
def isAnchorChar (c : Char) : Bool :=
  !(isWhite c || isBreak c || isFlow c || c == '\uFEFF')

/-- An anchor, or a reference to one. -/
def anchor (s : Lexer) (isReference : Bool) : Option Lexer :=
  let name := (s.cursor.rest.drop 1).takeWhile isAnchorChar
  if name.isEmpty then none
  else
    let text := String.ofList name
    let s := (s.saveCandidate.allowKey false).goTo (s.cursor.pass (name.length + 1))
    some (s.push (if isReference then .reference text else .anchor text))

/-- Whether a character may stand in the handle of a tag. -/
def isHandleChar (c : Char) : Bool :=
  c.isAlphanum || c == '_' || c == '-'

/-- Whether a character may stand in an address. -/
def isAddressChar (c : Char) : Bool :=
  c.isAlphanum || "-#;/?:@&=+$,_.!~*'()[]%".toList.contains c

/-- Whether a character may stand in a tag after its handle. -/
def isTagChar (c : Char) : Bool :=
  isAddressChar c && !isFlow c && c != '!'

/-- The bytes that are written as a percent sign and two digits each, at the start of a
    text. -/
def percentBytes : List Char → List UInt8
  | '%' :: a :: b :: rest =>
    match Literal.hexDigit? a, Literal.hexDigit? b with
    | some x, some y => UInt8.ofNat (16 * x + y) :: percentBytes rest
    | _, _ => []
  | _ => []

/-- The number of bytes that the first byte of a character announces. -/
def announced (b : UInt8) : Nat :=
  if b < 0x80 then 1 else if b < 0xC0 then 0 else if b < 0xE0 then 2
  else if b < 0xF0 then 3 else if b < 0xF8 then 4 else 0

/-- A character that is written byte by byte, and the number of bytes. -/
def percent? (cs : List Char) : Option (Char × Nat) := do
  let bytes := percentBytes cs
  let n := announced (← bytes.head?)
  let text ← Text.strict? ⟨(bytes.take n).toArray⟩
  match text.toList with
  | [x] => some (x, n)
  | _ => none

/-- The rest of a tag or of an address, with percent signs resolved. -/
def tagText (isPart : Char → Bool) : (fuel : Nat) → Cursor → List Char → Option (List Char × Cursor)
  | 0, _, _ => none
  | fuel + 1, c, text =>
    match c.rest with
    | '%' :: _ => do
      let (x, n) ← percent? c.rest
      tagText isPart fuel (c.pass (3 * n)) (text ++ [x])
    | x :: _ => if isPart x then tagText isPart fuel (c.pass 1) (text ++ [x]) else some (text, c)
    | [] => some (text, c)

/-- The parts of a tag in angle brackets, after the exclamation mark. -/
def verbatimTag (c : Cursor) : Option (String × String × Cursor) := do
  let (text, next) ← tagText isAddressChar (c.rest.length + 1) (c.pass 1) []
  if text.isEmpty || next.rest.head? != some '>' then none
  else some ("", String.ofList text, next.pass 1)

/-- The parts of any other tag, after the exclamation mark: the handle and what follows
    it. -/
def shortTag (c : Cursor) : Option (String × String × Cursor) := do
  let letters := c.rest.takeWhile isHandleChar
  let fuel := c.rest.length + 1
  match c.rest.drop letters.length with
  | '!' :: _ =>
    let (text, next) ← tagText isTagChar fuel (c.pass (letters.length + 1)) []
    -- A handle alone names nothing.
    if text.isEmpty then none
    else some (String.ofList ('!' :: letters ++ ['!']), String.ofList text, next)
  | _ =>
    let (text, next) ← tagText isTagChar fuel (c.pass letters.length) letters
    if text.isEmpty then some ("", "!", next) else some ("!", String.ofList text, next)

/-- A tag. -/
def tag (s : Lexer) : Option Lexer := do
  let s := s.saveCandidate.allowKey false
  let c := s.cursor.pass 1
  let (handle, suffix, next) ← if c.rest.head? == some '<' then verbatimTag c else shortTag c
  if atGap next.rest || (s.inFlow && atFlow next.rest) then
    some ((s.goTo next).push (.tag handle suffix))
  else none

/-- A block scalar. -/
def blockScalar (s : Lexer) (isLiteral : Bool) : Option Lexer := do
  let s := (s.saveCandidate.allowKey true).closeLoose
  let (text, next) ← block isLiteral s.indent s.cursor
  some ((s.goTo next).push (.scalar false text))

/-- A quoted scalar. -/
def quotedScalar (s : Lexer) (q : Quote) : Option Lexer := do
  let s := s.saveCandidate.allowKey false
  let (text, next) ← quoted q s.inFlow s.indent s.cursor
  let s ← (s.goTo next).toNext
  some ({ s with adjacent := s.cursor.index }.push (.scalar false text))

/-- A scalar without quotes. -/
def plainScalar (s : Lexer) : Option Lexer := do
  let s := (s.saveCandidate.allowKey false).closeLoose
  let (text, next) ← plain s.inFlow (s.indent + 1) s.cursor
  let s := (s.goTo next).push (.scalar true text)
  -- The scalar may have ended at the start of a line.
  some (if next.isFresh then s.allowKey true else s)

/-- The digits of a version at the start of a text. -/
def versionDigits? (c : Cursor) : Option Cursor :=
  let digits := c.rest.takeWhile Char.isDigit
  if digits.isEmpty || 9 < digits.length then none else some (c.pass digits.length)

/-- Moves on over blanks. -/
def pastWhite (c : Cursor) : Cursor :=
  c.skip (c.rest.takeWhile isWhite).length

/-- The token of a directive with a name, from what follows the name. Directives that are
    not known say nothing. -/
def directiveToken (name : String) (c : Cursor) : Option (Token × Cursor) := do
  match name with
  | "YAML" =>
    let major ← versionDigits? (pastWhite c)
    if major.rest.head? != some '.' then none
    else some (.versionDirective, ← versionDigits? (major.pass 1))
  | "TAG" =>
    let c := pastWhite c
    let letters := (c.rest.drop 1).takeWhile isHandleChar
    let isPrimary := letters.isEmpty && (c.rest.drop 1).head? != some '!'
    let size := if isPrimary then 1 else letters.length + 2
    if c.rest.head? != some '!' || (!isPrimary && (c.rest.drop (size - 1)).head? != some '!') then
      none
    else
      let (text, next) ← tagText isAddressChar (c.rest.length + 1) (pastWhite (c.pass size)) []
      if text.isEmpty || !atGap next.rest then none
      else some (.tagDirective (String.ofList (c.rest.take size)) (String.ofList text), next)
  | _ => some (.tagDirective "" "", c.toLineEnd)

/-- A directive at the start of a line. -/
def directive (s : Lexer) : Option Lexer := do
  let s ← (s.closeTo (-1)).dropCandidate
  let c := s.cursor.pass 1
  let name := c.rest.takeWhile isHandleChar
  let afterName := c.pass name.length
  if name.isEmpty || !atGap afterName.rest then none
  let (token, next) ← directiveToken (String.ofList name) afterName
  let next ← next.pastBlanks
  if atLineEnd next.rest then some (((s.allowKey false).goTo next.breakLine).push token) else none

/-- A mark that starts or ends a document. -/
def documentMark (s : Lexer) (t : Token) : Option Lexer := do
  let s ← (s.closeTo (-1)).dropCandidate
  some (((s.allowKey false).goTo (s.cursor.pass 3)).push t)

/-- A mark that ends a document, after which its line says nothing more. -/
def endDocument (s : Lexer) : Option Lexer := do
  let s ← s.documentMark .documentEnd
  let next ← s.cursor.pastBlanks
  if atLineEnd next.rest then some (s.goTo next) else none

/-- What starts with some character. -/
def startWith (s : Lexer) (x : Char) (rest : List Char) : Option Lexer :=
  let gap := atGap rest
  match x with
  | '[' => s.openFlow true
  | '\x7b' => s.openFlow false
  | ']' => s.closeFlow true
  | '\x7d' => s.closeFlow false
  | ',' => s.comma
  | '*' => s.anchor true
  | '&' => s.anchor false
  | '!' => s.tag
  | '\'' => s.quotedScalar .single
  | '"' => s.quotedScalar .double
  | '-' => if gap then s.startItem else s.plainScalar
  | '?' => if gap then s.startKey else s.plainScalar
  | ':' =>
    let isAdjacent := s.cursor.index == s.adjacent
    if gap then s.colon
    else if s.inFlow && (isAdjacent || atFlow rest) then
      -- A bracket right after a colon could be meant as part of a word.
      if !isAdjacent && (rest.head? == some '[' || rest.head? == some '\x7b') then none
      else s.colon
    else s.plainScalar
  | '|' => if s.inFlow then s.plainScalar else s.blockScalar true
  | '>' => if s.inFlow then s.plainScalar else s.blockScalar false
  | '%' | '@' | '\x60' => none
  | _ => s.plainScalar

/-- Finds the next tokens. -/
def fetch (s : Lexer) : Option Lexer := do
  let s ← (← s.toNext).dropStale
  let s := s.closeTo s.cursor.column
  match s.cursor.rest with
  | [] => s.finish
  | x :: rest =>
    let atStart := s.cursor.column == 0
    if atStart && x == '%' then s.directive
    else if atStart && atMark '-' (x :: rest) then s.documentMark .documentStart
    else if atStart && atMark '.' (x :: rest) then s.endDocument
    else if (s.cursor.column : Int) < s.indent then none
    else s.startWith x rest

/-- Gives a token, if nothing can be put before it any more, and otherwise finds
    more. -/
def step (s : Lexer) : Option Lexer :=
  if s.given = s.tokens.size then s.fetch
  else do
    let s ← s.dropStale
    if s.candidates.any fun k => k.isPossible && k.token == s.given then s.fetch
    else some { s with given := s.given + 1 }

/-- Whether all tokens were given. -/
def isDone (s : Lexer) : Bool :=
  0 < s.given && s.tokens[s.given - 1]? == some .streamEnd

/-- Goes on until all tokens were given, or the text turns out not to be well formed. -/
def run : (fuel : Nat) → Lexer → Lexer
  | 0, s => s
  | fuel + 1, s =>
    if s.isDone then s
    else
      match s.step with
      | some next => run fuel next
      | none => s

end Lexer

/-- The tokens of a text, as far as it is well formed. A text that is so to its end has
    the end of the stream as its last token. -/
def Token.scan (cs : List Char) : List Token :=
  -- A character is part of at most six tokens, and each is found and given once.
  let s := Lexer.run (16 * cs.length + 32) (.ofText cs)
  s.tokens.toList.take s.given

end Yaml

end Qualifier
