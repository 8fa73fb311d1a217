import Qualifier.Config.Yaml.Lexer
import Qualifier.Config.Yaml.Schema

/-!
# Reading YAML

A file is cut into tokens, which make up a tree of nodes, whose meaning are the entries.

## Main definitions

* `Yaml.read`: The entries of a file.
-/

namespace Qualifier

namespace Yaml

/-- The characters of a text that count: not the mark of its byte order, and nothing
    from the first zero on. -/
def body (text : String) : List Char :=
  let cs :=
    match text.toList with
    | '\uFEFF' :: cs => cs
    | cs => cs
  cs.takeWhile (· != '\x00')

/-- The entries of a file. -/
def read (text : String) : Option Entries := do
  (← Node.ofTokens? (Token.scan (body text))).entries?

end Yaml

end Qualifier
