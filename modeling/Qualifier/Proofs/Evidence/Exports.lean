import Mathlib.Data.List.Forall2
import Qualifier.Evidence.Export
import Qualifier.Proofs.Outside.Moments
import Qualifier.Proofs.Outside.Parts
import Qualifier.Proofs.Storage.Contents
import Qualifier.Proofs.Text.Segments

/-!
# What Becomes of a Log

A log is fetched, written to a file, uploaded if there is a bucket, and only then is the file
removed. Each of these may fail, and there is a way to end for each (`Archive.Ends`). In all ways
that come after the write the log is somewhere: in the file, or in an upload that was taken when
the file held the log.

The files are those of a workspace in which each call succeeds or does nothing
(`Workspace.fallible`); of the services nothing is assumed. What is sent is told from the moments
of the run, each with what the file held at that moment, and the simulated services record just
what was taken (`uploads_run`).

## Main definitions

* `linesOf`, `chomped`: A log taken apart again.
* `Workspace.fallible`: What a workspace does if a call may fail.
* `Sending`, `sendingsIn`: The uploads that are asked for in a run.
* `Archive.Ends`: The ways the export of a log may end.

## Theorems

* `linesOf_renderLog`: The lines of a log are its events.
* `uploads_run`: The services record what was taken.
* `keepUrl_ends`: An export ends in one of these ways.
-/

namespace Qualifier

/-! ## The text of a log -/

/-- The ways an event stands in a log: as it is if it ends in a line end, and with one behind it
    if it does not. -/
def Lined (event : String) (line : List Char) : Prop :=
  ['\n'] <:+ event.toList ∧ line = event.toList ∨
    ¬ ['\n'] <:+ event.toList ∧ line = event.toList ++ ['\n']

/-- The lines of a text in which each line has its end. -/
def linesOf (text : String) : List String :=
  (Text.segments '\n' text.toList).dropLast.map String.ofList

/-- An event without the line end that it may bring. -/
def chomped (event : String) : String :=
  if event.toList.getLast? = some '\n' then String.ofList event.toList.dropLast else event

theorem getLast?_eq_iff_suffix (c : Char) (cs : List Char) :
    cs.getLast? = some c ↔ [c] <:+ cs := by
  rw [List.getLast?_eq_some_iff]
  exact exists_congr fun before => eq_comm

theorem lined_logLine (event : String) : Lined event (logLine event) := by
  unfold Lined logLine
  rw [← getLast?_eq_iff_suffix]
  split
  · exact Or.inl ⟨‹_›, rfl⟩
  · exact Or.inr ⟨‹_›, rfl⟩

/-- A log is its events, each with one line end. -/
theorem toList_renderLog (events : List String) :
    ∃ lines, List.Forall₂ Lined events lines ∧ (renderLog events).toList = lines.flatten := by
  refine ⟨events.map logLine, ?_, ?_⟩
  · exact List.forall₂_map_right_iff.mpr (List.forall₂_same.mpr fun event _ => lined_logLine event)
  · rw [renderLog, String.toList_ofList, List.flatMap_def]

theorem logLine_eq (event : String) : logLine event = (chomped event).toList ++ ['\n'] := by
  unfold logLine chomped
  split
  next hlast =>
    obtain ⟨before, hbefore⟩ := List.getLast?_eq_some_iff.mp hlast
    rw [String.toList_ofList, hbefore, List.dropLast_concat]
  · rfl

theorem not_mem_chomped {event : String} (h : '\n' ∉ event.toList.dropLast) :
    '\n' ∉ (chomped event).toList := by
  unfold chomped
  split
  · rwa [String.toList_ofList]
  next hlast =>
    rcases List.eq_nil_or_concat event.toList with hnil | ⟨before, last, hsplit⟩
    · rw [hnil]
      exact List.not_mem_nil
    · rw [hsplit, List.concat_eq_append] at h hlast ⊢
      rw [List.dropLast_concat] at h
      rw [List.getLast?_concat] at hlast
      simp only [List.mem_append, List.mem_singleton, not_or]
      exact ⟨h, fun heq => hlast (congrArg some heq.symm)⟩

/-- The lines of a log are its events, if no event has a line end inside. -/
theorem linesOf_renderLog {events : List String}
    (h : ∀ event ∈ events, '\n' ∉ event.toList.dropLast) :
    linesOf (renderLog events) = events.map chomped := by
  -- Each line end cuts once, so nothing is left behind the last one.
  have hcut : Text.segments '\n' (renderLog events).toList =
      events.map (fun event => (chomped event).toList) ++ [[]] := by
    rw [renderLog, String.toList_ofList]
    induction events with
    | nil => rfl
    | cons event events ih =>
        rw [List.flatMap_cons, logLine_eq, List.append_assoc, List.singleton_append,
          Text.segments_append (not_mem_chomped (h event List.mem_cons_self)),
          ih fun other hother => h other (List.mem_cons_of_mem _ hother)]
        rfl
  rw [linesOf, hcut, List.dropLast_concat, List.map_map]
  exact List.map_congr_left fun event _ => String.ofList_toList

theorem chomped_eq_self {event : String} (h : '\n' ∉ event.toList) : chomped event = event := by
  have hlast : event.toList.getLast? ≠ some '\n' := fun hlast => h (List.mem_of_getLast? hlast)
  rw [chomped, if_neg hlast]

open Program Simulated Storage

/-! ## Files -/

/-- What a workspace does if a call about a file may fail: it does what is asked, or nothing. -/
def Storage.Workspace.fallible : Behaviour Workspace
  | .write path text, w, answer, w' =>
    (answer, w') = w.write path text ∨ (∃ e, answer = .error e) ∧ w' = w
  | .writePrivate path text, w, answer, w' =>
    (answer, w') = w.writePrivate path text ∨ (∃ e, answer = .error e) ∧ w' = w
  | .remove path, w, answer, w' =>
    (answer, w') = w.removeIfPresent path ∨ (∃ e, answer = .error e) ∧ w' = w
  | .service _, w, _, w' => w' = w
  | .read _, w, _, w' => w' = w
  | .fetch _, w, _, w' => w' = w
  | .launch _, w, _, w' => w' = w
  | .pause _, w, _, w' => w' = w
  | .freshName, w, _, w' => w' = w

theorem admits_fallible {σ : Type} (service : Service σ) :
    World.Admits (Bench.world service) Bench.files Workspace.fallible := by
  intro q b
  cases q with
  | freshName => cases hnames : b.names <;> simp [Bench.world, hnames, Workspace.fallible]
  | write path text => exact Or.inl rfl
  | writePrivate path text => exact Or.inl rfl
  | remove path => exact Or.inl rfl
  | _ => rfl

/-! ## Uploads -/

/-- An upload that was asked for: what was in the file then, and whether it was taken. -/
structure Sending where
  upload : Upload
  content : Except FileError String
  taken : Bool

/-- The upload that is asked for at a moment. -/
def sending? (m : Moment Workspace) : Option Sending :=
  match m.exchange with
  | ⟨.service (.upload path bucket key), .ok _⟩ =>
    some ⟨⟨path, bucket, key⟩, m.state.read path, true⟩
  | ⟨.service (.upload path bucket key), .error _⟩ =>
    some ⟨⟨path, bucket, key⟩, m.state.read path, false⟩
  | _ => none

/-- The uploads that are asked for in a run, in order. -/
def sendingsIn (film : List (Moment Workspace)) : List Sending :=
  film.filterMap sending?

/-- The uploads that are taken in a run. -/
def takenIn (film : List (Moment Workspace)) : List Upload :=
  ((sendingsIn film).filter Sending.taken).map Sending.upload

/-- The events of a log, if that is what is answered. -/
def fetched? : Exchange → Option (List String)
  | ⟨.service (.getLogEvents _ _), .ok events⟩ => some events
  | _ => none

/-- The logs that are fetched in a run. -/
def fetchedIn (film : List (Moment Workspace)) : List (List String) :=
  film.filterMap fun m => fetched? m.exchange

theorem takenIn_cons (m : Moment Workspace) (film : List (Moment Workspace)) :
    takenIn (m :: film) = takenIn [m] ++ takenIn film := by
  have hcons : sendingsIn (m :: film) = sendingsIn [m] ++ sendingsIn film :=
    List.filterMap_append (l := [m])
  rw [takenIn, hcons, List.filter_append, List.map_append]
  rfl

theorem takenIn_eq_nil {m : Moment Workspace} (h : sending? m = none) : takenIn [m] = [] := by
  rw [takenIn, sendingsIn, List.filterMap_cons_none h]
  rfl

/-- No other request has to do with uploads. -/
theorem uploads_perform (request : Request) (c : Cloud)
    (h : ∀ path bucket key, request ≠ .upload path bucket key) :
    (Cloud.perform request c).2.uploads = c.uploads := by
  have hthing : ∀ operation name f, (c.onThing operation name f).2.uploads = c.uploads := by
    intro operation name f
    unfold Cloud.onThing
    split <;> rfl
  have hcertificate : ∀ operation what id f,
      (c.onCertificate operation what id f).2.uploads = c.uploads := by
    intro operation what id f
    unfold Cloud.onCertificate
    split <;> rfl
  cases request with
  | upload path bucket key => exact absurd rfl (h path bucket key)
  | addThingToGroup group thing => exact hthing _ _ _
  | attachPolicy policy target => exact hcertificate _ _ _ _
  | attachPrincipal thing principal => exact hthing _ _ _
  | updateCertificate id status => exact hcertificate _ _ _ _
  | updateShadow thing document => exact hthing _ _ _
  | detachPrincipal thing principal =>
      simp only [Cloud.perform]
      split
      · rfl
      · split
        · exact hthing _ _ _
        · rfl
  | _ =>
      simp only [Cloud.perform]
      repeat' split
      all_goals rfl

/-- The services record the uploads that they take, and no others. -/
theorem uploads_service (request : Request) (c : Cloud) (files : Workspace) :
    (Cloud.service request c).2.uploads = c.uploads ++
      takenIn [⟨files, .service request, (Cloud.service request c).1⟩] := by
  have henter : (c.enter request.operation).2.uploads = c.uploads := by
    unfold Cloud.enter
    split <;> rfl
  -- A request may be turned away before anything is done, and then nothing is recorded either.
  unfold Cloud.service
  rcases hentered : c.enter request.operation with ⟨_ | e, d⟩ <;> rw [hentered] at henter
  · by_cases hupload : ∃ path bucket key, request = .upload path bucket key
    · obtain ⟨path, bucket, key, rfl⟩ := hupload
      exact congrArg (· ++ [_]) henter
    · have hother : ∀ path bucket key, request ≠ .upload path bucket key :=
        fun path bucket key heq => hupload ⟨path, bucket, key, heq⟩
      have hnone : ∀ answer, takenIn [⟨files, .service request, answer⟩] = [] := by
        intro answer
        refine takenIn_eq_nil ?_
        cases request with
        | upload path bucket key => exact absurd rfl (hother path bucket key)
        | _ => rfl
      rw [hnone, List.append_nil]
      exact (uploads_perform request d hother).trans henter
  · have hnone : takenIn [⟨files, .service request, .error e⟩] = [] := by
      cases request <;> rfl
    rw [hnone, List.append_nil]
    exact henter

variable {τ α : Type} {w : World τ} {files : τ → Workspace} {cloud : τ → Cloud}

/-- In any run the services have recorded just what they took. -/
theorem uploads_run (hcloud : w.Admits cloud Cloud.behaviour) (p : Program α) (s : τ) :
    (cloud (p.run w s).2).uploads =
      (cloud s).uploads ++ takenIn ((moments w p s).map (Moment.seen files)) := by
  induction p generalizing s with
  | done a => exact (List.append_nil _).symm
  | ask q next ih =>
      have hstep := hcloud q s
      have huploads : (cloud (w q s).2).uploads =
          (cloud s).uploads ++ takenIn [⟨files s, q, (w q s).1⟩] := by
        cases q with
        | service request =>
            have hservice : ((w (.service request) s).1, cloud (w (.service request) s).2) =
              Cloud.service request (cloud s) := hstep
            have hrecorded := uploads_service request (cloud s) (files s)
            rwa [← hservice] at hrecorded
        | _ =>
            rw [takenIn_eq_nil rfl, List.append_nil]
            exact congrArg Cloud.uploads hstep
      have hfilm := takenIn_cons (Moment.seen files ⟨s, q, (w q s).1⟩)
        ((moments w (next (w q s).1) (w q s).2).map (Moment.seen files))
      rw [run, ih, huploads, List.append_assoc, moments, List.map_cons, hfilm]
      rfl

/-! ## The ways to end -/

/-- The ways the export of a log may end: what has become of the files and what was sent, the
    answer, and where the log is reported to be. Where it is reported to be, it is: in the file, or
    in the bucket under the key. -/
inductive Archive.Ends (a : Archive) (url : Option String) (thing : String)
    (before after : Workspace) (film : List (Moment Workspace)) :
    Except ExportError Exported → Option String → Prop
  | missing (hurl : url = none) (hfiles : after = before) (hsent : sendingsIn film = []) :
      Ends a url thing before after film (.error .missingReference) none
  | unparsable {address : String} (hurl : url = some address)
      (hparse : LogReference.parse? address = none) (hfiles : after = before)
      (hsent : sendingsIn film = []) :
      Ends a url thing before after film (.error (.unparsableReference address)) none
  | unfetched {reference : LogReference} {cause : ServiceError}
      (hparse : url.bind LogReference.parse? = some reference) (hfiles : after = before)
      (hsent : sendingsIn film = []) :
      Ends a url thing before after film (.error (.fetch reference cause)) none
  | unwritten {cause : FileError} (hsent : sendingsIn film = []) :
      Ends a url thing before after film (.error (.write cause)) none
  | written {events : List String} (hbucket : a.bucket = none)
      (hfetched : fetchedIn film = [events])
      (hread : after.read (a.pathFor thing) = .ok (renderLog events))
      (hsent : sendingsIn film = []) :
      Ends a url thing before after film (.ok (.written (a.pathFor thing)))
        (some (a.pathFor thing).text)
  | refused {events : List String} {bucket : String} {cause : ServiceError}
      (hbucket : a.bucket = some bucket) (hfetched : fetchedIn film = [events])
      (hread : after.read (a.pathFor thing) = .ok (renderLog events))
      (hsent : sendingsIn film =
        [⟨⟨a.pathFor thing, bucket, logFileName thing⟩, .ok (renderLog events), false⟩]) :
      Ends a url thing before after film (.error (.upload (a.pathFor thing) bucket cause))
        (some (a.pathFor thing).text)
  | uploaded {events : List String} {bucket : String} (hbucket : a.bucket = some bucket)
      (hfetched : fetchedIn film = [events])
      (hsent : sendingsIn film =
        [⟨⟨a.pathFor thing, bucket, logFileName thing⟩, .ok (renderLog events), true⟩])
      (hgone : after.found? (a.pathFor thing) = none ∨
        ∃ m ∈ film, ∃ e, m.exchange = ⟨.remove (a.pathFor thing), .error e⟩) :
      Ends a url thing before after film (.ok (.uploaded bucket (logFileName thing)))
        (some ("s3://" ++ bucket ++ "/" ++ logFileName thing))

/-- A write that succeeded has left what the workspace leaves. -/
theorem write_of_fallible {path : Path} {text : String} {before after : Workspace}
    (h : Workspace.fallible (.write path text) before (.ok ()) after) :
    before.write path text = (.ok (), after) := by
  rcases h with hdone | ⟨⟨e, hanswer⟩, -⟩
  · exact hdone.symm
  · exact absurd hanswer (by simp)

/-- A file that was written is gone after a removal that did not fail. -/
theorem gone_of_fallible {path : Path} {text : String} {before written after : Workspace}
    {answer : Except FileError Bool} (hwrite : before.write path text = (.ok (), written))
    (h : Workspace.fallible (.remove path) written answer after) :
    after.found? path = none ∨ ∃ e, answer = .error e := by
  rcases h with hdone | ⟨hfailed, -⟩
  · have hclear := (Workspace.settled_of_write hwrite).clearable
    have hafter : (written.removeIfPresent path).2 = after := (congrArg Prod.snd hdone).symm
    exact Or.inl (hafter ▸ Workspace.found?_removeIfPresent hclear)
  · exact Or.inr hfailed

/-- An export ends in one of these ways. -/
theorem keepUrl_ends (a : Archive) (url : Option String) (thing : String) (before : Workspace) :
    Ensures (filmed Workspace.fallible) (a.keepUrl url thing) ([], before) fun result u =>
      ∃ log, a.Ends url thing before u.2 u.1 result log := by
  unfold Archive.keepUrl
  split
  · exact ⟨none, .missing rfl rfl rfl⟩
  next address =>
  split
  next hparse => exact ⟨none, .unparsable rfl hparse rfl rfl⟩
  next reference hparse =>
  refine (ensures_question_bind _ _ _ _ _).mpr ?_
  rintro fetched ⟨film, begun⟩ ⟨rfl, hsame⟩
  obtain rfl : begun = before := hsame
  split
  · exact ⟨none, .unfetched hparse rfl rfl⟩
  next events =>
  refine (ensures_question_bind _ _ _ _ _).mpr ?_
  rintro wrote ⟨film, written⟩ ⟨rfl, hstep⟩
  split
  · exact ⟨none, .unwritten rfl⟩
  -- From here on the file is there, whatever comes.
  have hwrite := write_of_fallible hstep
  have hread := Workspace.read_of_write hwrite
  split
  next hbucket => exact ⟨_, .written hbucket rfl hread rfl⟩
  next bucket hbucket =>
  refine (ensures_question_bind _ _ _ _ _).mpr ?_
  rintro sent ⟨film, kept⟩ ⟨rfl, hsame⟩
  obtain rfl : kept = written := hsame
  split
  · exact ⟨_, .refused hbucket rfl hread (by rw [← hread]; rfl)⟩
  refine (ensures_question_bind _ _ _ _ _).mpr ?_
  rintro removed ⟨film, after⟩ ⟨rfl, hremoved⟩
  refine ⟨_, .uploaded hbucket rfl (by rw [← hread]; rfl) ?_⟩
  rcases gone_of_fallible hwrite hremoved with hgone | ⟨e, rfl⟩
  · exact Or.inl hgone
  · exact Or.inr ⟨_, List.mem_concat_self, e, rfl⟩

end Qualifier
