/-!
# Arguments

What the words on the command line ask for. The first word names a task, and the
words after it are options with one value each, which follows as a word of its own
or after an equals sign. Whatever cannot be understood is refused as a whole; a
request for help counts as soon as it is met.

## Main definitions

* `Task`: The tasks.
* `Demand`: What a command line asks for.
* `Options.read`: Options with their values.
* `Demand.ofWords`: The demand of a command line.
-/

namespace Qualifier

/-- A task with its options. -/
inductive Task where
  | run (suites : List String)
  | provision (thing : String) (group certificate key : Option String)
  | deprovision (thing : String)
deriving DecidableEq, Repr

/-- What a command line asks for. -/
inductive Demand where
  | perform (task : Task)
  | version
  | help
  | refused
deriving DecidableEq, Repr

/-- An option: its name, and whether it may be given more than once. -/
structure OptionRule where
  name : String
  repeatable : Bool
deriving DecidableEq, Repr

/-- Options that were given, in order, each with its value. -/
abbrev Options := List (String × String)

namespace Options

/-- The value of an option. -/
def get? (options : Options) (name : String) : Option String :=
  (options.find? fun o => o.1 = name).map Prod.snd

/-- All values of an option, in order. -/
def getAll (options : Options) (name : String) : List String :=
  (options.filter fun o => o.1 = name).map Prod.snd

/-- How the reading of options ends. -/
inductive Reading where
  | complete (options : Options)
  | help
  | refused
deriving DecidableEq, Repr

/-- A word taken for what it may be. -/
inductive Word where
  /-- Nothing but the mark that options end. -/
  | ending
  | long (name : String) (value : Option String)
  | short (letters : List Char)
  | plain
deriving DecidableEq, Repr

/-- The kind of a word. A single dash is a plain word. -/
def Word.ofText (word : String) : Word :=
  match word.toList with
  | ['-', '-'] => .ending
  | '-' :: '-' :: cs =>
    let name := String.ofList (cs.takeWhile (· != '='))
    match cs.dropWhile (· != '=') with
    | [] => .long name none
    | _ :: value => .long name (some (String.ofList value))
  | '-' :: c :: cs => .short (c :: cs)
  | _ => .plain

/-- Whether one more value for an option is accepted. -/
def accepts (given : Options) (rule : OptionRule) : Bool :=
  rule.repeatable || (given.get? rule.name).isNone

/-- Reads options after some were given. A value that is a word of its own may not
    look like an option. -/
def read (rules : List OptionRule) : Options → List String → Reading
  | given, [] => .complete given
  | given, word :: rest =>
    match Word.ofText word with
    | .plain => .refused
    -- No task takes words that are no options, so nothing may follow the mark.
    | .ending => if rest.isEmpty then .complete given else .refused
    | .short letters => if letters.head? = some 'h' then .help else .refused
    | .long name value =>
      if name = "help" then if value.isNone then .help else .refused
      else
        match rules.find? fun r => r.name = name with
        | none => .refused
        | some rule =>
          if !given.accepts rule then .refused
          else
            match value, rest with
            | some value, rest => read rules (given ++ [(name, value)]) rest
            | none, [] => .refused
            | none, value :: rest =>
              -- What looks like an option is one, and the value is missing.
              if Word.ofText value = .plain then read rules (given ++ [(name, value)]) rest
              else .refused

end Options

namespace Task

/-- The names of the tasks. -/
def names : List String :=
  ["run", "provision", "deprovision"]

/-- The options of each task. -/
def optionRules (name : String) : List OptionRule :=
  if name = "run" then [⟨"suite", true⟩]
  else if name = "provision" then
    [⟨"thing-name", false⟩, ⟨"thing-group", false⟩, ⟨"certificate", false⟩, ⟨"key", false⟩]
  else [⟨"thing-name", false⟩]

/-- The task of a name with these options, unless one is missing. -/
def ofOptions? (name : String) (options : Options) : Option Task :=
  if name = "run" then some (.run (options.getAll "suite"))
  else
    (options.get? "thing-name").map fun thing =>
      if name = "provision" then
        .provision thing (options.get? "thing-group") (options.get? "certificate")
          (options.get? "key")
      else .deprovision thing

end Task

namespace Demand

/-- The demand for a task with options. -/
def ofTask (name : String) (words : List String) : Demand :=
  match Options.read (Task.optionRules name) [] words with
  | .help => .help
  | .refused => .refused
  | .complete options =>
    match Task.ofOptions? name options with
    | some task => .perform task
    | none => .refused

/-- The demand for help on the things named: on nothing, on one task, or on help. -/
def ofHelp : List String → Demand
  | [] => .help
  | [topic] => if topic ∈ "help" :: Task.names then .help else .refused
  | _ => .refused

/-- The demand of a command line. -/
def ofWords : List String → Demand
  | [] => .refused
  | word :: rest =>
    match Options.Word.ofText word with
    | .ending => .refused
    | .long "help" none => .help
    | .long "version" none => .version
    | .long _ _ => .refused
    | .short letters =>
      if letters.head? = some 'h' then .help
      else if letters.head? = some 'V' then .version
      else .refused
    | .plain =>
      if word = "help" then ofHelp rest
      else if word ∈ Task.names then ofTask word rest
      else .refused

end Demand

end Qualifier
