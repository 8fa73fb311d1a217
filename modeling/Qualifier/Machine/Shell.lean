/-!
# Lines of Shell

The part of the shell language that the machines of a test bench understand:
simple commands with quoting, parameters, assignments and redirections, one after
the other or depending on how the one before ended.

## Main definitions

* `Part`, `Word`: Words with what is still to be expanded in them.
* `Redirection`, `Statement`, `Script`: What a script consists of.
* `tokens`: A script cut into words and operators.
* `Script.read`: A script from its text.
-/

namespace Qualifier

namespace Machine

/-- A part of a word: a character that stands for itself, characters that were
    quoted, or a parameter. -/
inductive Part where
  | bare (c : Char)
  | fixed (text : List Char)
  | parameter (name : String) (quoted : Bool)
deriving DecidableEq, Repr

/-- A word before its expansion. -/
abbrev Word := List Part

/-- What a redirection does with the thing it names. -/
inductive Aim where
  | create
  | extend
  | read
  | duplicate
deriving DecidableEq, Repr

/-- A redirection of one descriptor. -/
structure Redirection where
  descriptor : Nat
  aim : Aim
  target : Word
deriving DecidableEq, Repr

/-- When a statement is run: always, or depending on how the one before ended. -/
inductive Condition where
  | always
  | afterSuccess
  | afterFailure
deriving DecidableEq, Repr

/-- A simple command with the number of its line. -/
structure Statement where
  condition : Condition
  line : Nat
  assignments : List (String × Word)
  words : List Word
  redirections : List Redirection
deriving DecidableEq, Repr

/-- The statements of a script, in order. -/
abbrev Script := List Statement

/-- A word or an operator. -/
inductive Token where
  | word (w : Word) (line : Nat)
  | redirect (descriptor : Nat) (aim : Aim)
  | lineEnd
  | semicolon
  | both
  | either
deriving DecidableEq, Repr

/-- Whether a character ends a word. -/
def endsWord (c : Char) : Bool :=
  c == ' ' || c == '\t' || c == '\n' || c == ';' || c == '&' || c == '|' || c == '<' ||
    c == '>' || c == '(' || c == ')'

/-- Whether a character may stand in a name. -/
def isNameChar (c : Char) : Bool :=
  c.isAlphanum || c == '_'

/-- Whether a character names a parameter on its own. -/
def isSpecial (c : Char) : Bool :=
  c.isDigit || c == '$' || c == '?' || c == '#' || c == '@' || c == '*'

/-- A parameter after its dollar sign, and what follows it. A dollar sign that no
    parameter follows stands for itself. -/
def parameter (quoted : Bool) (cs : List Char) : Option (Part × List Char) :=
  match cs with
  | '(' :: _ => none
  | '\x7b' :: rest =>
    match rest.span (· != '\x7d') with
    | (name, _ :: after) =>
      if !name.isEmpty && (name.all isNameChar || name.all isSpecial) then
        some (.parameter (String.ofList name) quoted, after)
      else none
    | (_, []) => none
  | c :: rest =>
    if isSpecial c then some (.parameter (String.singleton c) quoted, rest)
    else if isNameChar c then
      some (.parameter (String.ofList (cs.takeWhile isNameChar)) quoted, cs.dropWhile isNameChar)
    else some (.fixed ['$'], cs)
  | [] => some (.fixed ['$'], [])

/-- The rest of a word inside double quotes, and what follows the closing quote. -/
def doubleQuoted : (fuel : Nat) → List Char → Option (Word × List Char)
  | 0, _ => none
  | fuel + 1, cs =>
    match cs with
    | [] => none
    -- The empty part makes a word of two quotes with nothing in between.
    | '"' :: rest => some ([.fixed []], rest)
    | '\\' :: '\n' :: rest => doubleQuoted fuel rest
    | '\\' :: c :: rest =>
      let kept := if c ∈ ['$', '\x60', '"', '\\'] then [c] else ['\\', c]
      (doubleQuoted fuel rest).map fun r => (.fixed kept :: r.1, r.2)
    | '\x60' :: _ => none
    | '$' :: rest => do
      let (part, rest) ← parameter true rest
      (doubleQuoted fuel rest).map fun r => (part :: r.1, r.2)
    | c :: rest => (doubleQuoted fuel rest).map fun r => (.fixed [c] :: r.1, r.2)

/-- The rest of a word, and what follows it. -/
def restOfWord : (fuel : Nat) → List Char → Option (Word × List Char)
  | 0, _ => none
  | fuel + 1, cs =>
    match cs with
    | [] => some ([], [])
    | '\\' :: '\n' :: rest => restOfWord fuel rest
    | '\\' :: c :: rest => (restOfWord fuel rest).map fun r => (.fixed [c] :: r.1, r.2)
    | '\x60' :: _ => none
    | '\'' :: rest =>
      match rest.span (· != '\'') with
      | (text, _ :: after) => (restOfWord fuel after).map fun r => (.fixed text :: r.1, r.2)
      | (_, []) => none
    | '"' :: rest => do
      let (parts, after) ← doubleQuoted fuel rest
      (restOfWord fuel after).map fun r => (parts ++ r.1, r.2)
    | '$' :: rest => do
      let (part, after) ← parameter false rest
      (restOfWord fuel after).map fun r => (part :: r.1, r.2)
    | c :: rest =>
      if endsWord c then some ([], c :: rest)
      else (restOfWord fuel rest).map fun r => (.bare c :: r.1, r.2)

/-- A redirection after its descriptor, and what follows its operator. -/
def redirection (descriptor : Option Nat) : List Char → Option (Token × List Char)
  | '>' :: '>' :: rest => some (.redirect (descriptor.getD 1) .extend, rest)
  | '>' :: '&' :: rest => some (.redirect (descriptor.getD 1) .duplicate, rest)
  | '>' :: '|' :: rest => some (.redirect (descriptor.getD 1) .create, rest)
  | '>' :: rest => some (.redirect (descriptor.getD 1) .create, rest)
  | '<' :: '<' :: _ => none
  | '<' :: '&' :: rest => some (.redirect (descriptor.getD 0) .duplicate, rest)
  | '<' :: rest => some (.redirect (descriptor.getD 0) .read, rest)
  | _ => none

/-- The words and operators of a script from some line on. -/
def tokens : (fuel : Nat) → (line : Nat) → List Char → Option (List Token)
  | 0, _, _ => none
  | fuel + 1, line, cs =>
    match cs with
    | [] => some []
    | ' ' :: rest | '\t' :: rest => tokens fuel line rest
    | '\\' :: '\n' :: rest => tokens fuel (line + 1) rest
    | '\n' :: rest => (tokens fuel (line + 1) rest).map (.lineEnd :: ·)
    | '#' :: rest => tokens fuel line (rest.dropWhile (· != '\n'))
    | ';' :: rest => (tokens fuel line rest).map (.semicolon :: ·)
    | '&' :: '&' :: rest => (tokens fuel line rest).map (.both :: ·)
    | '|' :: '|' :: rest => (tokens fuel line rest).map (.either :: ·)
    | c :: _ =>
      let digits := cs.takeWhile Char.isDigit
      let afterDigits := cs.dropWhile Char.isDigit
      let descriptor := if digits.isEmpty then none else (String.ofList digits).toNat?
      match redirection descriptor afterDigits with
      | some (token, rest) => (tokens fuel line rest).map (token :: ·)
      | none =>
        if endsWord c then none
        else do
          let (w, rest) ← restOfWord (cs.length + 1) cs
          (tokens fuel line rest).map (.word w line :: ·)

/-- The name and the value of a word that is an assignment. -/
def assignment? (w : Word) : Option (String × Word) :=
  let isPlain : Part → Bool
    | .bare c => isNameChar c
    | _ => false
  let name := (w.takeWhile isPlain).filterMap fun
    | .bare c => some c
    | _ => none
  match name, w.dropWhile isPlain with
  | c :: cs, .bare '=' :: value =>
    if c.isDigit then none else some (String.ofList (c :: cs), value)
  | _, _ => none

/-- A statement that says nothing yet. -/
def Statement.blank (condition : Condition) : Statement :=
  ⟨condition, 0, [], [], []⟩

/-- Whether a statement says nothing. -/
def Statement.isBlank (s : Statement) : Bool :=
  s.assignments.isEmpty && s.words.isEmpty && s.redirections.isEmpty

/-- A statement with one more word. Assignments stand before all other words. -/
def Statement.push (s : Statement) (w : Word) (line : Nat) : Statement :=
  -- After the first word an equals sign means nothing.
  if !s.words.isEmpty then { s with words := s.words ++ [w] }
  else
    match assignment? w with
    | some a => { s with line := line, assignments := s.assignments ++ [a] }
    | none => { s with line := line, words := [w] }

/-- The statements of a script, of which the first one is partly read. -/
def statements (current : Statement) : List Token → Option Script
  | [] =>
    if !current.isBlank then some [current]
    else if current.condition = .always then some []
    else none
  | .redirect descriptor aim :: .word w _ :: rest =>
    statements { current with
      redirections := current.redirections ++ [⟨descriptor, aim, w⟩] } rest
  | .redirect _ _ :: _ => none
  | .word w line :: rest => statements (current.push w line) rest
  | .lineEnd :: rest =>
    if current.isBlank then statements current rest
    else (statements (.blank .always) rest).map (current :: ·)
  | .semicolon :: rest =>
    if current.isBlank then none else (statements (.blank .always) rest).map (current :: ·)
  | .both :: rest =>
    if current.isBlank then none
    else (statements (.blank .afterSuccess) rest).map (current :: ·)
  | .either :: rest =>
    if current.isBlank then none
    else (statements (.blank .afterFailure) rest).map (current :: ·)

/-- A script from its text, unless it is beyond what is understood. -/
def Script.read (text : String) : Option Script := do
  let cs := text.toList
  statements (.blank .always) (← tokens (cs.length + 1) 1 cs)

end Machine

end Qualifier
