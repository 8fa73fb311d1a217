import Qualifier.Identity.Teardown
import Qualifier.Outside.Bench
import Qualifier.Proofs.Service.Calls
import Qualifier.Proofs.Text.Occurrences

/-!
# What a Refusal Is Taken For

A call that the provider refuses comes back as one line with a code, the name of the action
and a message. The code says what is wrong; the message is for people, and it quotes the names
that the caller chose. A failure is classified by words that are looked for in the whole line,
so what it is taken for is the strongest of what its three parts would be taken for on their
own: no marker reaches from one part into another, and the fixed words between them hold none.

Of two refusals that differ in the message the class is the same as long as no message brings
in a marker. It is the same for all messages only if the code, or the name of the action,
already says that the resource is not there, since nothing is stronger. With every other code
a message can turn a refusal into an absence, and a teardown takes an absence for a resource
that was removed before.

## Main definitions

* `ServiceError.Kind`, `ServiceError.Kind.join`: The class of a failure, and the stronger of two.
* `refusal`: The line that a refused call comes back with.
* `kindIn`: What a text on its own is taken for.

## Theorems

* `kind_classify`: A failure is classified by all that was said.
* `apart_of_mem`: Markers do not mix with what is around them in a refusal.
* `mentions_refusal`: A refusal mentions what its parts mention.
* `kindIn_refusal`: A refusal is taken for the strongest of what its parts are taken for.
* `absentOk_error_iff`, `deprovision_of_refused_listing`: What a teardown takes for an absence.
* `refusal_classified`: What a refusal is taken for, and when the message does not matter.
-/

namespace Qualifier

namespace ServiceError

/-- The class of a failure, without what was said about it. -/
inductive Kind where
  | rejected
  | transient
  | notFound
  | malformedResponse
  | invocation
deriving DecidableEq, Repr

/-- The class that a failure belongs to. -/
def kind : ServiceError → Kind
  | .rejected _ _ => .rejected
  | .transient _ _ => .transient
  | .notFound _ _ => .notFound
  | .malformedResponse _ _ => .malformedResponse
  | .invocation _ _ => .invocation

/-- The stronger of two classes that a text can stand for: an absence before a failure that may
    pass, and this before a rejection. -/
def Kind.join : Kind → Kind → Kind
  | .notFound, _ => .notFound
  | _, .notFound => .notFound
  | .transient, _ => .transient
  | _, .transient => .transient
  | k, _ => k

theorem isNotFound_iff (e : ServiceError) : e.isNotFound = true ↔ e.kind = .notFound := by
  cases e <;> simp [isNotFound, kind]

end ServiceError

open ServiceError (Kind)

namespace Client

/-- What is printed about a call that was refused. -/
def refusal (code action detail : String) : String :=
  "An error occurred (" ++ code ++ ") when calling the " ++ action ++ " operation: " ++ detail

/-- The class that goes with the kinds of markers that were found. -/
def kindOf (absent passing : Bool) : Kind :=
  if absent then .notFound else if passing then .transient else .rejected

/-- What a text is taken for. -/
def kindIn (text : String) : Kind :=
  kindOf (mentions notFoundMarkers text) (mentions transientMarkers text)

theorem kindOf_join (absent passing absent' passing' : Bool) :
    (kindOf absent passing).join (kindOf absent' passing')
      = kindOf (absent || absent') (passing || passing') := by
  cases absent <;> cases passing <;> cases absent' <;> cases passing' <;> rfl

theorem kindIn_eq_notFound_iff (text : String) :
    kindIn text = .notFound ↔ Mentions notFoundMarkers text := by
  rw [← mentions_iff, kindIn, kindOf]
  cases mentions notFoundMarkers text <;> cases mentions transientMarkers text <;> decide

/-! ## Markers and what is around them -/

/-- The fixed words of a refusal, cut at the characters that no marker holds. -/
def frame : List String :=
  ["An error occurred ", " when calling the", "operation:"]

/-- A word that cannot reach from one part of a refusal into another, and that is not found in
    the fixed words. -/
structure Apart (word : List Char) : Prop where
  unbroken : ∀ c ∈ word, Text.isBlank c = false ∧ c ≠ '(' ∧ c ≠ ')'
  unframed : ∀ part ∈ frame, ¬word <:+: part.toList

/-- No marker holds a blank or a parenthesis. -/
theorem unbroken_of_mem {marker : String} (h : marker ∈ notFoundMarkers ++ transientMarkers)
    {c : Char} (hc : c ∈ marker.toList) : Text.isBlank c = false ∧ c ≠ '(' ∧ c ≠ ')' := by
  have hall : ((notFoundMarkers ++ transientMarkers).all fun marker => marker.toList.all fun c =>
      !Text.isBlank c && c != '(' && c != ')') = true := by
    decide +kernel
  have hone := List.all_eq_true.mp (List.all_eq_true.mp hall marker h) c hc
  simpa [and_assoc] using hone

/-- No marker is found in the fixed words. -/
theorem unframed_of_mem {marker : String} (h : marker ∈ notFoundMarkers ++ transientMarkers)
    {part : String} (hpart : part ∈ frame) : ¬marker.toList <:+: part.toList := by
  have hall : ((notFoundMarkers ++ transientMarkers).all fun marker => frame.all fun part =>
      !Text.occursIn marker.toList part.toList) = true := by
    decide +kernel
  have hone := List.all_eq_true.mp (List.all_eq_true.mp hall marker h) part hpart
  rw [← Text.occursIn_iff]
  simpa using hone

/-- All markers are words of this kind. -/
theorem apart_of_mem {marker : String} (h : marker ∈ notFoundMarkers ++ transientMarkers) :
    Apart marker.toList where
  unbroken := fun _ => unbroken_of_mem h
  unframed := fun _ => unframed_of_mem h

theorem toList_refusal (code action detail : String) :
    (refusal code action detail).toList =
      "An error occurred ".toList ++ '(' :: (code.toList ++ ')' ::
        (" when calling the".toList ++ ' ' :: (action.toList ++ ' ' ::
          ("operation:".toList ++ ' ' :: detail.toList)))) := by
  have hopen : "An error occurred (".toList = "An error occurred ".toList ++ ['('] := by
    decide +kernel
  have hclose : ") when calling the ".toList = ')' :: " when calling the".toList ++ [' '] := by
    decide +kernel
  have hspace : " operation: ".toList = ' ' :: "operation:".toList ++ [' '] := by
    decide +kernel
  unfold refusal
  simp only [String.toList_append, hopen, hclose, hspace, List.append_assoc, List.cons_append,
    List.nil_append]

/-- A word that keeps apart is found in a refusal where it is found in one of its parts. -/
theorem Apart.infix_refusal_iff {word : List Char} (h : Apart word) (code action detail : String) :
    word <:+: (refusal code action detail).toList ↔
      word <:+: code.toList ∨ word <:+: action.toList ∨ word <:+: detail.toList := by
  have hopen : '(' ∉ word := fun hmem => (h.unbroken _ hmem).2.1 rfl
  have hclose : ')' ∉ word := fun hmem => (h.unbroken _ hmem).2.2 rfl
  have hspace : ' ' ∉ word := by
    intro hmem
    have hblank : Text.isBlank ' ' = true := by decide
    rw [(h.unbroken _ hmem).1] at hblank
    exact Bool.false_ne_true hblank
  have hfirst : ¬word <:+: "An error occurred ".toList := h.unframed _ (by simp [frame])
  have hsecond : ¬word <:+: " when calling the".toList := h.unframed _ (by simp [frame])
  have hthird : ¬word <:+: "operation:".toList := h.unframed _ (by simp [frame])
  rw [toList_refusal, Text.infix_append_cons_iff hopen, Text.infix_append_cons_iff hclose,
    Text.infix_append_cons_iff hspace, Text.infix_append_cons_iff hspace,
    Text.infix_append_cons_iff hspace]
  simp only [hfirst, hsecond, hthird, false_or]

/-- A refusal mentions the markers that its code, its action and its message mention. -/
theorem mentions_refusal {markers : List String}
    (h : ∀ marker ∈ markers, Apart marker.toList) (code action detail : String) :
    mentions markers (refusal code action detail) =
      (mentions markers code || mentions markers action || mentions markers detail) := by
  rw [Bool.eq_iff_iff, Bool.or_eq_true, Bool.or_eq_true]
  simp only [mentions_iff, Mentions]
  constructor
  · rintro ⟨marker, hmem, hinfix⟩
    rcases ((h marker hmem).infix_refusal_iff code action detail).mp hinfix with
      hcode | haction | hdetail
    · exact Or.inl (Or.inl ⟨marker, hmem, hcode⟩)
    · exact Or.inl (Or.inr ⟨marker, hmem, haction⟩)
    · exact Or.inr ⟨marker, hmem, hdetail⟩
  · have hwhole := fun marker hmem => ((h marker hmem).infix_refusal_iff code action detail).mpr
    rintro ((⟨marker, hmem, hcode⟩ | ⟨marker, hmem, haction⟩) | ⟨marker, hmem, hdetail⟩)
    · exact ⟨marker, hmem, hwhole marker hmem (Or.inl hcode)⟩
    · exact ⟨marker, hmem, hwhole marker hmem (Or.inr (Or.inl haction))⟩
    · exact ⟨marker, hmem, hwhole marker hmem (Or.inr (Or.inr hdetail))⟩

/-- Trimming a text does not change what it mentions. -/
theorem mentions_trim {markers : List String} (h : ∀ marker ∈ markers, Apart marker.toList)
    (text : String) : mentions markers (Text.trim text) = mentions markers text := by
  rw [Bool.eq_iff_iff, mentions_iff, mentions_iff]
  refine exists_congr fun marker => and_congr_right fun hmem => ?_
  rw [Text.trim, String.toList_ofList]
  exact Text.infix_trimChars_iff (fun c hc => ((h marker hmem).unbroken c hc).1) _

/-! ## Classes -/

/-- A failure is classified by all that was said, and by nothing else. -/
theorem kind_classify (label : String) (output : CommandOutput) :
    (classify label output).kind = kindIn output.stderr := by
  have habsent : ∀ marker ∈ notFoundMarkers, Apart marker.toList :=
    fun marker hmem => apart_of_mem (List.mem_append_left _ hmem)
  have hpassing : ∀ marker ∈ transientMarkers, Apart marker.toList :=
    fun marker hmem => apart_of_mem (List.mem_append_right _ hmem)
  rw [kindIn, ← mentions_trim habsent, ← mentions_trim hpassing]
  unfold classify kindOf
  dsimp only
  split
  · rfl
  · split <;> rfl

/-- A refusal is taken for the strongest of what its parts are taken for. -/
theorem kindIn_refusal (code action detail : String) :
    kindIn (refusal code action detail)
      = ((kindIn code).join (kindIn action)).join (kindIn detail) := by
  have habsent : ∀ marker ∈ notFoundMarkers, Apart marker.toList :=
    fun marker hmem => apart_of_mem (List.mem_append_left _ hmem)
  have hpassing : ∀ marker ∈ transientMarkers, Apart marker.toList :=
    fun marker hmem => apart_of_mem (List.mem_append_right _ hmem)
  simp only [kindIn, kindOf_join]
  rw [mentions_refusal habsent, mentions_refusal hpassing]

/-- A call that was refused fails, and its class is that of the refusal. -/
theorem service_refusal {σ : Type} (client : Client) (wordings : Wordings) (run : Runner σ)
    (r : Request) (s : σ)
    {exit : Option Int} {stdout code action detail : String} (hexit : exit ≠ some 0)
    (hrun : (run (client.command (Call.ofRequest r)) s).1
      = .ok ⟨exit, stdout, refusal code action detail⟩) :
    ∃ e, (client.serviceIn wordings run r s).1 = .error e ∧
      e.kind = ((kindIn code).join (kindIn action)).join (kindIn detail) := by
  have hfailed : CommandOutput.isSuccess ⟨exit, stdout, refusal code action detail⟩ = false := by
    simpa [CommandOutput.isSuccess] using hexit
  refine ⟨classify (Call.ofRequest r).label ⟨exit, stdout, refusal code action detail⟩, ?_, ?_⟩
  · rw [serviceIn_eq, hrun]
    simp only [respond, hfailed, Bool.false_eq_true, if_false]
  · rw [kind_classify, kindIn_refusal]

/-- A class is the strongest one of three exactly if one of the three is. -/
theorem join_eq_notFound_iff (a b c : Kind) :
    (a.join b).join c = .notFound ↔ a = .notFound ∨ b = .notFound ∨ c = .notFound := by
  cases a <;> cases b <;> cases c <;> decide

theorem join_rejected (a : Kind) : a.join .rejected = a := by
  cases a <;> rfl

/-- Only an absence is so strong that nothing said in addition can matter. -/
theorem join_absorbs_iff (a b : Kind) :
    (a.join b).join .rejected = (a.join b).join .notFound ↔ a = .notFound ∨ b = .notFound := by
  cases a <;> cases b <;> decide

end Client

/-! ## Teardowns -/

/-- A removal counts as done before exactly if its failure is an absence. -/
theorem absentOk_error_iff (step : Step) (thing : String) (cause : ServiceError) :
    absentOk step thing (.error cause) = .ok false ↔ cause.kind = .notFound := by
  rw [← ServiceError.isNotFound_iff, absentOk]
  by_cases habsent : cause.isNotFound = true
  · simp [habsent]
  · simp [habsent]

/-- A teardown that cannot list the principals has nothing to take down exactly if that failure
    is an absence. -/
theorem deprovision_of_refused_listing {τ : Type} (w : World τ) (thing : String) (start : τ)
    {cause : ServiceError} (h : (w (.service (.listPrincipals thing)) start).1 = .error cause) :
    ((deprovision thing).run w start).1 = .ok ⟨0, false⟩ ↔ cause.kind = .notFound := by
  have hrun : ((deprovision thing).run w start).1 =
      if cause.isNotFound then .ok ⟨0, false⟩
      else .error (.service .listPrincipals thing cause) := by
    rw [deprovision, Program.run_bind, Program.request, Program.run_question, h]
    dsimp only
    split <;> rfl
  rw [← ServiceError.isNotFound_iff, hrun]
  by_cases habsent : cause.isNotFound = true
  · simp [habsent]
  · simp [habsent]

namespace Client

/-- What a refusal is taken for. For every code, action and message it is the strongest of what
    the three are taken for on their own, whatever the request, the client and the exit code; so
    a message without markers leaves it to the code and the action. It is the same for all
    messages exactly if the code or the action already names an absence. A refusal is taken for
    an absence exactly if one of the three has a marker of absence, also by a removal, and by a
    whole teardown. -/
theorem refusal_classified (code action : String) :
    let refused (exit : Option Int) (stdout detail : String) : CommandOutput :=
      ⟨exit, stdout, refusal code action detail⟩
    let known := (kindIn code).join (kindIn action)
    let absent (detail : String) := Mentions notFoundMarkers code ∨
      Mentions notFoundMarkers action ∨ Mentions notFoundMarkers detail
    (∀ (σ : Type) (client : Client) (wordings : Wordings) (run : Runner σ) (r : Request) (s : σ)
        exit stdout detail,
      exit ≠ some 0 →
      (run (client.command (Call.ofRequest r)) s).1 = .ok (refused exit stdout detail) →
      ∃ e, (client.serviceIn wordings run r s).1 = .error e ∧ e.kind = known.join (kindIn detail) ∧
        (e.isNotFound = true ↔ absent detail)) ∧
    (∀ label exit stdout detail, kindIn detail = .rejected →
      (classify label (refused exit stdout detail)).kind = known) ∧
    ((∀ label label' exit exit' stdout stdout' detail detail',
      (classify label (refused exit stdout detail)).kind
        = (classify label' (refused exit' stdout' detail')).kind) ↔
      Mentions notFoundMarkers code ∨ Mentions notFoundMarkers action) ∧
    (∀ step thing label exit stdout detail,
      absentOk step thing (.error (classify label (refused exit stdout detail))) = .ok false ↔
        absent detail) ∧
    ∀ (τ : Type) (w : World τ) (start : τ) thing label exit stdout detail,
      (w (.service (.listPrincipals thing)) start).1
        = .error (classify label (refused exit stdout detail)) →
      (((deprovision thing).run w start).1 = .ok ⟨0, false⟩ ↔ absent detail) := by
  intro refused known absent
  have hkind : ∀ label exit stdout detail,
      (classify label (refused exit stdout detail)).kind = known.join (kindIn detail) := by
    intro label exit stdout detail
    rw [kind_classify, kindIn_refusal]
  have habsent : ∀ detail, known.join (kindIn detail) = .notFound ↔ absent detail := by
    intro detail
    rw [join_eq_notFound_iff, kindIn_eq_notFound_iff, kindIn_eq_notFound_iff,
      kindIn_eq_notFound_iff]
  refine ⟨?_, ?_, ?_, ?_, ?_⟩
  · intro σ client wordings run r s exit stdout detail hexit hrun
    rcases service_refusal client wordings run r s hexit hrun with ⟨e, he, hclass⟩
    refine ⟨e, he, hclass, ?_⟩
    rw [ServiceError.isNotFound_iff, hclass, habsent]
  · intro label exit stdout detail hdetail
    rw [hkind, hdetail, join_rejected]
  · constructor
    · intro hsame
      -- A message without markers and one that names an absence tell all classes apart.
      have hpair := hsame "" "" none none "" "" "" "NotFoundException"
      have hblank : kindIn "" = .rejected := by decide +kernel
      have hnamed : kindIn "NotFoundException" = .notFound := by decide +kernel
      rw [hkind, hkind, hblank, hnamed, join_absorbs_iff, kindIn_eq_notFound_iff,
        kindIn_eq_notFound_iff] at hpair
      exact hpair
    · intro hknown label label' exit exit' stdout stdout' detail detail'
      rw [hkind, hkind, (habsent detail).mpr, (habsent detail').mpr]
      · exact hknown.elim Or.inl fun h => Or.inr (Or.inl h)
      · exact hknown.elim Or.inl fun h => Or.inr (Or.inl h)
  · intro step thing label exit stdout detail
    rw [absentOk_error_iff, hkind, habsent]
  · intro τ w start thing label exit stdout detail hlisting
    rw [deprovision_of_refused_listing w thing start hlisting, hkind, habsent]

/-- What comes back if the principals of a thing may not be listed. -/
def deniedListing (thing : String) : String :=
  refusal "AccessDeniedException" "ListThingPrincipals" ("access to thing/" ++ thing ++ " denied")

/-- A test bench on which the principals of a thing may not be listed. -/
def deniedBench (thing : String) : Bench Script where
  service := ⟨[⟨some 254, "", deniedListing thing⟩], []⟩
  files := ⟨.empty, []⟩
  companions := ⟨[], []⟩
  clock := ⟨[], []⟩
  names := []

/-- The teardown of a thing with an unlucky name finds nothing to take down, although all it
    was told is that it has no access. -/
theorem refusal_classified_teardown :
    ¬Mentions notFoundMarkers "AccessDeniedException" ∧
      ((deprovision "NotFoundException").run
        (Bench.world (service ⟨"aws", "eu-west-1"⟩ Script.runner))
        (deniedBench "NotFoundException")).1 = .ok ⟨0, false⟩ := by
  have hcode : ¬Mentions notFoundMarkers "AccessDeniedException" := by
    rw [← mentions_iff]
    decide +kernel
  have hdetail : Mentions notFoundMarkers "access to thing/NotFoundException denied" := by
    rw [← mentions_iff]
    decide +kernel
  have hrefusal := refusal_classified "AccessDeniedException" "ListThingPrincipals"
  refine ⟨hcode, (hrefusal.2.2.2.2 _ _ _ "NotFoundException" "iot list-thing-principals"
    (some 254) "" "access to thing/NotFoundException denied" ?_).mpr (Or.inr (Or.inr hdetail))⟩
  rfl

/-- Two refusals with the same code and the same action that differ in the thing they name:
    one is a rejection and the other an absence. -/
theorem class_differs_by_message :
    (classify "iot delete-thing" ⟨some 254, "", refusal "AccessDeniedException" "DeleteThing"
      "access to thing/device denied"⟩).kind = .rejected ∧
    (classify "iot delete-thing" ⟨some 254, "", refusal "AccessDeniedException" "DeleteThing"
      "access to thing/NotFoundException denied"⟩).kind = .notFound := by
  have hcode : kindIn "AccessDeniedException" = .rejected := by decide +kernel
  have haction : kindIn "DeleteThing" = .rejected := by decide +kernel
  have hdevice : kindIn "access to thing/device denied" = .rejected := by decide +kernel
  have hmarker : kindIn "access to thing/NotFoundException denied" = .notFound := by
    decide +kernel
  rw [kind_classify, kind_classify, kindIn_refusal, kindIn_refusal, hcode, haction, hdevice,
    hmarker]
  exact ⟨rfl, rfl⟩

end Client

end Qualifier
