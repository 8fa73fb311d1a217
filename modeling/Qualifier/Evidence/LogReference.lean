import Qualifier.Text.Search

/-!
# References to Logs

Where the log of a failed case lies, as the console's address tells it. The group
stands between `group=` and the last semicolon of its line, the stream between
`stream=` and the end of its line. An address in which the first place that fits
is empty names no log.

## Main definitions

* `LogReference`: A group and a stream.
* `groupIn?`, `streamIn?`: Their text inside an address.
* `LogReference.parse?`: The reference an address holds.
-/

namespace Qualifier

/-- Where a log lies. -/
structure LogReference where
  group : String
  stream : String
deriving DecidableEq, Repr

/-- The text up to the end of the line. -/
def restOfLine (cs : List Char) : List Char :=
  cs.takeWhile (· ≠ '\n')

/-- The text after the first `group=` that has a semicolon behind it on its line, up
    to the last such semicolon. -/
def groupIn? : List Char → Option (List Char)
  | [] => none
  | c :: cs =>
    match "group=".toList.isPrefixOf? (c :: cs) with
    | some after =>
      match Text.beforeLast? ';' (restOfLine after) with
      | some group => some group
      -- No semicolon on this line: a later `group=` may have one.
      | none => groupIn? cs
    | none => groupIn? cs

/-- The text after the first `stream=`, up to the end of its line. -/
def streamIn? (cs : List Char) : Option (List Char) :=
  (Text.afterFirst? "stream=".toList cs).map restOfLine

/-- The reference an address holds, if it names a group and a stream. -/
def LogReference.parse? (url : String) : Option LogReference :=
  match groupIn? url.toList, streamIn? url.toList with
  | some (g :: gs), some (s :: ss) => some ⟨String.ofList (g :: gs), String.ofList (s :: ss)⟩
  | _, _ => none

end Qualifier
