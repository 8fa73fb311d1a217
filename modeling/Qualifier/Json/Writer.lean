import Qualifier.Text.Quoted

/-!
# Writing JSON

Documents this library sends: compact, without blanks between tokens, and with the
few characters escaped that may not stand in a string as themselves.

## Main definitions

* `Value`: A document to be written.
* `Value.render`: Its text.
-/

namespace Qualifier

namespace Json

/-- A document to be written. Members are written in the order given. -/
inductive Value where
  | bool (b : Bool)
  | string (s : String)
  | object (members : List (String × Value))

/-- One character of a written string. Controls without a letter of their own are
    written by their number. -/
def escapeChar (c : Char) : List Char :=
  match c with
  | '"' => ['\\', '"']
  | '\\' => ['\\', '\\']
  | '\x08' => ['\\', 'b']
  | '\x0c' => ['\\', 'f']
  | '\n' => ['\\', 'n']
  | '\r' => ['\\', 'r']
  | '\t' => ['\\', 't']
  | c =>
    if c.toNat < 0x20 then
      ['\\', 'u', '0', '0', if c.toNat < 0x10 then '0' else '1', Nat.digitChar (c.toNat % 16)]
    else [c]

/-- A string between quotes. -/
def renderString (s : String) : List Char :=
  '"' :: s.toList.flatMap escapeChar ++ ['"']

mutual
/-- The characters of a document. -/
def Value.chars : Value → List Char
  | .bool true => ['t', 'r', 'u', 'e']
  | .bool false => ['f', 'a', 'l', 's', 'e']
  | .string s => renderString s
  | .object [] => ['\x7b', '\x7d']
  | .object (m :: ms) =>
    '\x7b' :: renderString m.1 ++ ':' :: m.2.chars ++ moreMembers ms ++ ['\x7d']

/-- The members after the first one, each after a comma. -/
def moreMembers : List (String × Value) → List Char
  | [] => []
  | m :: ms => ',' :: renderString m.1 ++ ':' :: m.2.chars ++ moreMembers ms
end

/-- The text of a document. -/
def Value.render (v : Value) : String :=
  String.ofList v.chars

end Json

end Qualifier
