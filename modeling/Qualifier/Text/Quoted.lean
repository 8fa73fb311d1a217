import Qualifier.Text.Hidden

/-!
# Quoted Text

How a text is shown between quotes inside a message or a debugging view: the two
quoting characters and the three common controls by a letter, other characters
that would not be visible by their code point, everything else as itself.

## Main definitions

* `escapeChar`: One character of the quoted form.
* `quoted`: The whole text between quotes.
-/

namespace Qualifier

namespace Text

/-- The digits of a number in base sixteen, in lower case and without leading
    zeros. -/
def hexDigits (n : Nat) : List Char :=
  Nat.toDigits 16 n

/-- One character as it is written between quotes. -/
def escapeChar (c : Char) : List Char :=
  match c with
  | '\x00' => ['\\', '0']
  | '\t' => ['\\', 't']
  | '\r' => ['\\', 'r']
  | '\n' => ['\\', 'n']
  | '\\' => ['\\', '\\']
  | '"' => ['\\', '"']
  | c => if isHidden c then ['\\', 'u', '\x7b'] ++ hexDigits c.toNat ++ ['\x7d'] else [c]

/-- A text between quotes, each character escaped where it has to be. -/
def quoted (s : String) : String :=
  String.ofList ('"' :: s.toList.flatMap escapeChar ++ ['"'])

end Text

end Qualifier
