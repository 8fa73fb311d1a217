/-!
# Configured Data

What a configuration file or an environment variable says, before anything is
known about the setting it is meant for. Only texts, whole numbers and the absence
of a value can become settings, but whether a file is well formed depends on all
of it.

## Main definitions

* `Datum`: A configured value of any kind.
* `Entries`: Values under keys, of which the last one under each key counts.
* `Entries.get?`: That last one.
-/

namespace Qualifier

/-- A configured value. Numbers that are not whole and moments in time are kept as
    they are written. -/
inductive Datum where
  | nothing
  | boolean (b : Bool)
  | integer (n : Int)
  | float (written : String)
  | text (s : String)
  | moment (written : String)
  | list (items : List Datum)
  | table (entries : List (String × Datum))
deriving Repr

/-- Values under keys. -/
abbrev Entries := List (String × Datum)

/-- The last value under a key. -/
def Entries.get? (entries : Entries) (key : String) : Option Datum :=
  (entries.reverse.find? fun e => e.1 = key).map Prod.snd

end Qualifier
