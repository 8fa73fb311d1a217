import Qualifier.Evidence.LogReference
import Qualifier.Outside.Program

/-!
# Exporting Logs

How the log of a failed run is kept: fetched, written to a file named after the
thing, and uploaded where there is a bucket. Only after an upload that succeeded
is the local file removed.

## Main definitions

* `Exported`, `ExportError`: Where the log ended up, or why it did not.
* `renderLog`: The text of a log.
* `Archive`: Where logs are kept.
* `Archive.keep`, `Archive.keepUrl`: Keeping a log.
-/

namespace Qualifier

/-- Where a log ended up. -/
inductive Exported where
  | written (path : Path)
  | uploaded (bucket key : String)
deriving DecidableEq, Repr

/-- The place of a log as text. -/
def Exported.text : Exported → String
  | .written path => path.text
  | .uploaded bucket key => "s3://" ++ bucket ++ "/" ++ key

/-- Why a log was not kept as it should be. -/
inductive ExportError where
  | missingReference
  | unparsableReference (url : String)
  | fetch (reference : LogReference) (cause : ServiceError)
  | write (cause : Storage.FileError)
  | upload (path : Path) (bucket : String) (cause : ServiceError)
deriving DecidableEq, Repr

/-- The wording of an export error. -/
def ExportError.message : ExportError → String
  | .missingReference => "suite run reported no log location"
  | .unparsableReference url => "cannot find log group and stream in " ++ url
  | .fetch reference cause =>
    "failed to fetch log stream " ++ reference.group ++ "/" ++ reference.stream ++ ": " ++
      cause.message
  | .write cause => "failed to write log file: " ++ cause.message
  | .upload path bucket cause =>
    "failed to upload " ++ path.text ++ " to " ++ bucket ++ ": " ++ cause.message

/-- The name of the file for the log of a thing. -/
def logFileName (thing : String) : String :=
  "suite-log-" ++ thing ++ ".log"

/-- An event as it stands in a log: with a line end, which it may bring itself. -/
def logLine (event : String) : List Char :=
  if event.toList.getLast? = some '\n' then event.toList else event.toList ++ ['\n']

/-- The text of a log. -/
def renderLog (events : List String) : String :=
  String.ofList (events.flatMap logLine)

/-- Where logs are kept: a directory, and a bucket if they are to be uploaded. -/
structure Archive where
  directory : Path
  bucket : Option String
deriving DecidableEq, Repr

namespace Archive

/-- The file for the log of a thing. -/
def pathFor (a : Archive) (thing : String) : Path :=
  a.directory.join ⟨logFileName thing⟩

/-- Uploads a log that was written and removes the file. -/
def uploadTo (a : Archive) (bucket thing : String) : Program (Except ExportError Exported) := do
  let path := a.pathFor thing
  match ← Program.request (.upload path bucket (logFileName thing)) with
  | .error cause => pure (.error (.upload path bucket cause))
  | .ok _ =>
    -- The upload is what counts; a file that stays behind does no harm.
    let _ ← Program.question (.remove path)
    pure (.ok (.uploaded bucket (logFileName thing)))

/-- Keeps the log a reference leads to. -/
def keep (a : Archive) (reference : LogReference) (thing : String) :
    Program (Except ExportError Exported) := do
  match ← Program.request (.getLogEvents reference.group reference.stream) with
  | .error cause => pure (.error (.fetch reference cause))
  | .ok events =>
    match ← Program.question (.write (a.pathFor thing) (renderLog events)) with
    | .error cause => pure (.error (.write cause))
    | .ok _ =>
      match a.bucket with
      | none => pure (.ok (.written (a.pathFor thing)))
      | some bucket => a.uploadTo bucket thing

/-- Keeps the log an address leads to, if there is one. -/
def keepUrl (a : Archive) (url : Option String) (thing : String) :
    Program (Except ExportError Exported) :=
  match url with
  | none => pure (.error .missingReference)
  | some url =>
    match LogReference.parse? url with
    | none => pure (.error (.unparsableReference url))
    | some reference => a.keep reference thing

end Archive

end Qualifier
