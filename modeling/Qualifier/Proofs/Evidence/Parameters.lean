import Qualifier.Evidence.Export
import Qualifier.Proofs.Evidence.Patterns
import Qualifier.Proofs.Outside.Conversation

/-!
# Parameters Behind an Address

The console may append parameters to the address of a log, each of which begins with a
semicolon. The group of an address ends at a semicolon too, and it is the last one on the line
that counts. So with the first parameter the group no longer ends where the stream begins: the
stream and all parameters but the last one become part of the group, and the log that is fetched
is that of a group with such a name. The group is read as the address names it exactly if nothing
is appended.

The argument needs nothing of the parameters. Where a name or a value holds a semicolon or ends
the line, the group ends accordingly earlier or later, but never where it should.

## Main definitions

* `Parameter`, `appended`: Parameters as the console writes them.
* `Parameter.Plain`: A parameter that brings no further semicolon and stays on the line.

## Theorems

* `beforeLast?_appended`: Where the group ends once there is a parameter.
* `restOfLine_appended`, `appended_concat`: Plain parameters are on one line, the last one last.
* `trace_keepUrl`: Which log is fetched.
* `group_with_parameters`: What an address with parameters names.
-/

namespace Qualifier

open Program

/-- A parameter of an address. -/
structure Parameter where
  name : String
  value : String
deriving DecidableEq, Repr

/-- A parameter as it stands in an address. -/
def Parameter.text (p : Parameter) : String :=
  ";" ++ p.name ++ "=" ++ p.value

/-- Parameters as they are appended to an address, one behind the other. -/
def appended : List Parameter → String
  | [] => ""
  | p :: ps => p.text ++ appended ps

/-- A parameter has no semicolon but its first character, and does not end the line. -/
structure Parameter.Plain (p : Parameter) : Prop where
  name_mark : ';' ∉ p.name.toList
  name_line : '\n' ∉ p.name.toList
  value_mark : ';' ∉ p.value.toList
  value_line : '\n' ∉ p.value.toList

variable {before group stream : String}

theorem Parameter.toList_text (p : Parameter) :
    p.text.toList = ';' :: (p.name.toList ++ '=' :: p.value.toList) := by
  simp [text]

theorem toList_appended_cons (p : Parameter) (ps : List Parameter) :
    (appended (p :: ps)).toList = ';' :: (p.name.toList ++ '=' :: p.value.toList ++
      (appended ps).toList) := by
  rw [appended, String.toList_append, p.toList_text, List.cons_append]

/-- With a parameter there is a semicolon on the line behind the stream, and the group ends at
    the last one there. -/
theorem beforeLast?_appended (front : List Char) {parameters : List Parameter}
    (h : parameters ≠ []) :
    ∃ cut last, restOfLine (appended parameters).toList = cut ++ ';' :: last ∧ ';' ∉ last ∧
      Text.beforeLast? ';' (front ++ restOfLine (appended parameters).toList)
        = some (front ++ cut) := by
  have hmem : ';' ∈ restOfLine (appended parameters).toList := by
    cases parameters with
    | nil => exact absurd rfl h
    | cons p ps =>
        have hline : '\n' ∉ [';'] := by decide
        rw [toList_appended_cons, ← List.singleton_append, restOfLine_append hline]
        exact List.mem_append_left _ List.mem_cons_self
  cases hlast : Text.beforeLast? ';' (restOfLine (appended parameters).toList) with
  | none => exact absurd hmem ((Text.beforeLast?_eq_none_iff _ _).mp hlast)
  | some cut =>
      rcases (Text.beforeLast?_eq_some_iff _ _ _).mp hlast with ⟨last, hline, hnot⟩
      refine ⟨cut, last, hline, hnot, (Text.beforeLast?_eq_some_iff _ _ _).mpr ⟨last, ?_, hnot⟩⟩
      rw [hline, List.append_assoc]

/-- Plain parameters are all on one line. -/
theorem restOfLine_appended {parameters : List Parameter} (h : ∀ p ∈ parameters, p.Plain) :
    restOfLine (appended parameters).toList = (appended parameters).toList := by
  refine restOfLine_of_not_mem ?_
  induction parameters with
  | nil => exact List.not_mem_nil
  | cons p ps ih =>
      have hp : p.Plain := h p List.mem_cons_self
      have hps := ih fun q hq => h q (List.mem_cons_of_mem _ hq)
      rw [toList_appended_cons]
      simp only [List.mem_cons, List.mem_append, not_or]
      exact ⟨by decide, ⟨hp.name_line, by decide, hp.value_line⟩, hps⟩

/-- The last parameter is what is behind the others. -/
theorem appended_concat (ps : List Parameter) (p : Parameter) :
    appended (ps ++ [p]) = appended ps ++ p.text := by
  induction ps with
  | nil =>
      simp only [List.nil_append, appended, String.append_empty, String.empty_append]
  | cons q ps ih =>
      rw [List.cons_append, appended, appended, ih, String.append_assoc]

/-- Of plain parameters the last one holds the last semicolon. -/
theorem cut_of_plain {parameters : List Parameter} (hne : parameters ≠ [])
    (h : ∀ p ∈ parameters, p.Plain) {cut last : List Char}
    (hline : restOfLine (appended parameters).toList = cut ++ ';' :: last) (hlast : ';' ∉ last) :
    cut = (appended parameters.dropLast).toList := by
  have hp : (parameters.getLast hne).Plain := h _ (List.getLast_mem hne)
  have hnot : ';' ∉ (parameters.getLast hne).name.toList ++
      '=' :: (parameters.getLast hne).value.toList := by
    simp only [List.mem_append, List.mem_cons, not_or]
    exact ⟨hp.name_mark, by decide, hp.value_mark⟩
  have hsplit : (appended parameters).toList = (appended parameters.dropLast).toList ++
      ';' :: ((parameters.getLast hne).name.toList ++
        '=' :: (parameters.getLast hne).value.toList) := by
    conv_lhs => rw [← List.dropLast_append_getLast hne]
    rw [appended_concat, String.toList_append, Parameter.toList_text]
  -- Both are what is before the last semicolon.
  have hcut := (Text.beforeLast?_eq_some_iff ';' _ cut).mpr ⟨last, hline, hlast⟩
  have hdrop := (Text.beforeLast?_eq_some_iff ';' _ (appended parameters.dropLast).toList).mpr
    ⟨_, hsplit, hnot⟩
  rw [restOfLine_appended h, hdrop, Option.some.injEq] at hcut
  exact hcut.symm

/-- The log that is fetched is the one that the address is read as. -/
theorem trace_keepUrl (a : Archive) {url : String} {r : LogReference}
    (hurl : LogReference.parse? url = some r) (thing : String) {talk : List Exchange}
    {result : Except ExportError Exported} (h : Trace (a.keepUrl (some url) thing) talk result) :
    ∃ answer rest, talk = ⟨.service (.getLogEvents r.group r.stream), answer⟩ :: rest := by
  have hkeep : a.keepUrl (some url) thing = a.keep r thing := by
    simp only [Archive.keepUrl, hurl]
  rw [hkeep, Archive.keep, trace_request_bind_iff] at h
  rcases h with ⟨answer, rest, rfl, -⟩
  exact ⟨answer, rest, rfl⟩

/-- What an address with parameters names, and which log is fetched for it. Every such address is
    read, and its group is the one it was made with exactly if there are no parameters. With
    parameters the group goes on past its semicolon, with the stream and whatever is before the
    last semicolon on the line; if the parameters are plain, these are all parameters but the
    last. -/
theorem group_with_parameters (h : Address before group stream) (parameters : List Parameter) :
    let url := before ++ "group=" ++ group ++ ";stream=" ++ stream ++ appended parameters
    ∃ r, LogReference.parse? url = some r ∧
      (r.group = group ↔ parameters = []) ∧
      (parameters ≠ [] → ∃ cut last,
        restOfLine (appended parameters).toList = cut ++ ';' :: last ∧ ';' ∉ last ∧
          r.group = group ++ ";stream=" ++ stream ++ String.ofList cut) ∧
      (parameters ≠ [] → (∀ p ∈ parameters, p.Plain) →
        r.group = group ++ ";stream=" ++ stream ++ appended parameters.dropLast) ∧
      r.stream = stream ++ String.ofList (restOfLine (appended parameters).toList) ∧
      ∀ (a : Archive) (thing : String) (talk : List Exchange)
        (result : Except ExportError Exported), Trace (a.keepUrl (some url) thing) talk result →
        ∃ answer rest, talk = ⟨.service (.getLogEvents r.group r.stream), answer⟩ :: rest := by
  intro url
  by_cases hnone : parameters = []
  · have hparse : LogReference.parse? url = some ⟨group, stream⟩ := by
      have hread := parse?_console h
      simpa only [url, hnone, appended, String.append_empty] using hread
    refine ⟨⟨group, stream⟩, hparse, ⟨fun _ => hnone, fun _ => rfl⟩, fun hne => absurd hnone hne,
      fun hne => absurd hnone hne, ?_, fun a thing talk result => trace_keepUrl a hparse thing⟩
    rw [hnone, appended, String.toList_empty, show restOfLine [] = [] from rfl, String.ofList_nil,
      String.append_empty]
  · rcases beforeLast?_appended (group.toList ++ ";stream=".toList ++ stream.toList) hnone with
      ⟨cut, last, hline, hlast, hfound⟩
    have hstrings : String.ofList (group.toList ++ ";stream=".toList ++ stream.toList ++ cut)
        = group ++ ";stream=" ++ stream ++ String.ofList cut := by
      simp only [String.ofList_append, String.ofList_toList]
    have hne : group.toList ++ ";stream=".toList ++ stream.toList ++ cut ≠ [] := by
      simp
    have hparse := parse?_address h (appended parameters) hfound hne
    rw [hstrings] at hparse
    refine ⟨_, hparse, ⟨fun hgroup => ?_, fun hnil => absurd hnil hnone⟩,
      fun _ => ⟨cut, last, hline, hlast, rfl⟩, fun _ hplain => ?_, rfl,
      fun a thing talk result => trace_keepUrl a hparse thing⟩
    · -- The group has become longer.
      have hlength := congrArg (List.length ∘ String.toList) hgroup
      simp at hlength
    · rw [cut_of_plain hnone hplain hline hlast, String.ofList_toList]

/-- With a time range appended, as the console does, another group is named. -/
theorem group_with_parameters_appended :
    ∃ r, LogReference.parse? ("https://console.example/home#logEventViewer:" ++ "group=" ++
        "/aws/device" ++ ";stream=" ++ "run-1" ++
        appended [⟨"start", "PT3H"⟩, ⟨"end", "PT0H"⟩]) = some r ∧
      r.group = "/aws/device" ++ ";stream=" ++ "run-1" ++ appended [⟨"start", "PT3H"⟩] := by
  have haddress : Address "https://console.example/home#logEventViewer:" "/aws/device" "run-1" := by
    constructor <;> decide +kernel
  have hplain : ∀ p ∈ ([⟨"start", "PT3H"⟩, ⟨"end", "PT0H"⟩] : List Parameter), p.Plain := by
    intro p hp
    simp only [List.mem_cons, List.not_mem_nil, or_false] at hp
    rcases hp with rfl | rfl <;> constructor <;> decide +kernel
  rcases group_with_parameters haddress [⟨"start", "PT3H"⟩, ⟨"end", "PT0H"⟩] with
    ⟨r, hparse, -, -, hgroup, -⟩
  exact ⟨r, hparse, hgroup (by simp) hplain⟩

/-- One parameter is enough for the stream to become part of the group. -/
theorem group_runs_into_stream :
    LogReference.parse?
        "https://console.example/home#viewer:group=/aws/device;stream=run-1;start=PT3H"
      = some ⟨"/aws/device;stream=run-1", "run-1;start=PT3H"⟩ := by
  decide +kernel

end Qualifier
