import Qualifier.Proofs.Json.Arrangement
import Qualifier.Proofs.Json.Writing
import Qualifier.Suite.Definition

/-!
# Suite Files as They Are Written

A suite file is three records inside each other: the file, its suites and their companions. The
first two pass over members they do not know, the third refuses them. `ShowsFile` says which nodes
show a list of suites, with the strangers among the members of each companion.

A file is looked at twice. First its shape is read, and a stranger ends the reading wherever it
stands, since all that is read before it is accepted. Only then are the suites looked through for
blank fields, from the first suite to the last and from the first field to the last.

## Main definitions

* `ShowsCompanion`, `ShowsSuite`, `ShowsFile`: The nodes that show a file and its parts.
* `Suite.Spoken`, `Suite.FirstBlank`: No field of a suite is blank, or which one is the first.

## Theorems

* `suiteFileShape_of_showsFile`: A file without strangers is read as its suites.
* `suiteFileShape_halts`: A stranger is what the reading ends with.
* `firstBlank?_append`, `exists_firstBlank`: The search for a blank field.
* `parse_shown_file`: What becomes of a file.
-/

namespace Qualifier

open Json

/-! ## The nodes that show a file -/

/-- The names of the members of a companion. -/
def companionFields : List String :=
  ["program", "args", "working_dir"]

/-- The nodes that show a companion, with certain strangers among its members. The arguments may
    be left out if there are none, and a directory that is not given may be null. -/
def ShowsCompanion (c : CompanionSpec) (strangers : Members) (node : Node) : Prop :=
  ∃ program arguments directory, IsText c.program program ∧
    OrAbsent [] (IsList IsText) c.arguments arguments ∧
    OrAbsent none (OrNull fun p : Path => IsText p.text) c.workingDirectory directory ∧
    Arranged [("program", some program), ("args", arguments), ("working_dir", directory)] strangers
      node

/-- A suite, and the strangers among the members of its companion. -/
abbrev ListedSuite := Suite × Members

/-- The nodes that show a suite. It may be left out that it is not disabled. -/
def ShowsSuite (s : ListedSuite) (node : Node) : Prop :=
  ∃ name suiteId disabled companion, IsText s.1.name name ∧ IsText s.1.suiteId suiteId ∧
    OrAbsent false IsFlag s.1.disabled disabled ∧ ShowsCompanion s.1.companion s.2 companion ∧
    Recorded [("test_name", some name), ("test_suite_id", some suiteId), ("disabled", disabled),
      ("companion", some companion)] node

/-- The nodes that show a file. -/
def ShowsFile (suites : List ListedSuite) (node : Node) : Prop :=
  ∃ listed, IsList ShowsSuite suites listed ∧ Recorded [("test_suites", some listed)] node

/-! ## Reading a file -/

theorem reads_path : Reads pathShape id fun p : Path => IsText p.text := by
  rintro p node h
  obtain rfl : node = .string ⟨p.text, true⟩ := h
  rfl

theorem reads_directory : Reads (nullable pathShape) (Option.map id)
    (OrNull fun p : Path => IsText p.text) :=
  reads_path.nullable fun p => not_isText_null p.text

theorem reads_arguments : Reads (list string) (List.map id) (IsList IsText) :=
  reads_string.list

variable {complaint : ShapeError → Prop}

/-- The fields of a companion opposite what shows them. -/
theorem suits_companion {c : CompanionSpec} {program : Node} {arguments directory : Option Node}
    (hprogram : IsText c.program program)
    (harguments : OrAbsent [] (IsList IsText) c.arguments arguments)
    (hdirectory : OrAbsent none (OrNull fun p : Path => IsText p.text) c.workingDirectory
      directory) :
    List.Forall₂ (Suits complaint)
      [.of "program" string, .withDefault "args" (list string),
        .withDefault "working_dir" (nullable pathShape)]
      [("program", some program), ("args", arguments), ("working_dir", directory)] :=
  .cons (reads_string.suits hprogram) (.cons (reads_arguments.suits_default harguments)
    (.cons (reads_directory.suits_default hdirectory) .nil))

theorem companionShape_of_showsCompanion {c : CompanionSpec} {node : Node}
    (h : ShowsCompanion c [] node) : companionShape node = .ok c := by
  obtain ⟨program, arguments, directory, hprogram, harguments, hdirectory, harranged⟩ := h
  refine harranged.bind_ok (suits_companion hprogram harguments hdirectory) (by decide)
    (fun m hm => absurd hm List.not_mem_nil) fun ms hget => ?_
  simp only [List.forall_mem_cons] at hget
  have hfirst := reads_string.required hget.1 hprogram
  have hsecond := reads_arguments.getD hget.2.1 harguments
  have hthird := reads_directory.getD hget.2.2.1 hdirectory
  rw [List.map_id, List.map_id] at hsecond
  rw [Option.map_id, id, id] at hthird
  rw [hfirst, hsecond, hthird]
  rfl

/-- A stranger among the members of a companion is complained about, wherever it stands. -/
theorem companionShape_halts {c : CompanionSpec} {strangers : Members} {node : Node}
    (h : ShowsCompanion c strangers node) (hstrangers : ∀ m ∈ strangers,
      m.1 ∉ companionFields ∧ complaint (.unknownField m.1 companionFields))
    (hsome : strangers ≠ []) : Halts complaint (companionShape node) := by
  obtain ⟨program, arguments, directory, hprogram, harguments, hdirectory, harranged⟩ := h
  obtain ⟨m, hm⟩ := List.exists_mem_of_ne_nil _ hsome
  refine harranged.bind_halts (suits_companion hprogram harguments hdirectory) (by decide)
    (fun m hm => ⟨(hstrangers m hm).1, Or.inr ?_⟩) ⟨m, List.mem_append_right _ hm, ?_⟩
  · exact ⟨_, (hstrangers m hm).2, verdict_unknown (hstrangers m hm).1⟩
  · exact ⟨_, (hstrangers m hm).2, verdict_unknown (hstrangers m hm).1⟩

/-- The fields of a suite opposite what shows them, whatever becomes of the companion. -/
theorem suits_suite {s : Suite} {name suiteId companion : Node} {disabled : Option Node}
    (hname : IsText s.name name) (hid : IsText s.suiteId suiteId)
    (hdisabled : OrAbsent false IsFlag s.disabled disabled)
    (hcompanion : Suits complaint (.of "companion" companionShape) ("companion", some companion)) :
    List.Forall₂ (Suits complaint)
      [.of "test_name" string, .of "test_suite_id" string, .withDefault "disabled" boolean,
        .of "companion" companionShape]
      [("test_name", some name), ("test_suite_id", some suiteId), ("disabled", disabled),
        ("companion", some companion)] :=
  .cons (reads_string.suits hname) (.cons (reads_string.suits hid)
    (.cons (reads_boolean.suits_default hdisabled) (.cons hcompanion .nil)))

theorem suiteShape_of_showsSuite {s : ListedSuite} {node : Node} (h : ShowsSuite s node)
    (hnone : s.2 = []) : suiteShape node = .ok s.1 := by
  obtain ⟨name, suiteId, disabled, companion, hname, hid, hdisabled, hcompanion, hrecorded⟩ := h
  rw [hnone] at hcompanion
  have hreads : Reads companionShape id fun c => ShowsCompanion c [] :=
    fun c node => companionShape_of_showsCompanion
  refine hrecorded.bind_ok rfl (suits_suite hname hid hdisabled (hreads.suits hcompanion))
    (by decide) fun ms hget => ?_
  simp only [List.forall_mem_cons] at hget
  have hfirst := reads_string.required hget.1 hname
  have hsecond := reads_string.required hget.2.1 hid
  have hthird := reads_boolean.getD hget.2.2.1 hdisabled
  have hfourth := hreads.required hget.2.2.2.1 hcompanion
  rw [id, id] at hthird
  rw [hfirst, hsecond, hthird, hfourth]
  rfl

theorem suiteShape_halts {s : ListedSuite} {node : Node} (h : ShowsSuite s node)
    (hstrangers : ∀ m ∈ s.2, m.1 ∉ companionFields ∧ complaint (.unknownField m.1 companionFields))
    (hsome : s.2 ≠ []) : Halts complaint (suiteShape node) := by
  obtain ⟨name, suiteId, disabled, companion, hname, hid, hdisabled, hcompanion, hrecorded⟩ := h
  have hhalts : Halts complaint (companionShape companion) :=
    companionShape_halts hcompanion hstrangers hsome
  exact hrecorded.bind_halts rfl (suits_suite hname hid hdisabled hhalts.suits) (by decide)
    ⟨.of "companion" companionShape, by simp, companion, by simp [Field.of], hhalts.map _⟩

/-- A file without strangers is read as its suites. -/
theorem suiteFileShape_of_showsFile {suites : List Suite} {node : Node}
    (h : ShowsFile (suites.map fun s => (s, [])) node) : suiteFileShape node = .ok ⟨suites⟩ := by
  obtain ⟨listed, ⟨items, hitems, rfl⟩, hrecorded⟩ := h
  have hsuite : Reads suiteShape id fun s => ShowsSuite (s, []) :=
    fun s node hshows => suiteShape_of_showsSuite hshows rfl
  have hlisted : IsList (fun s => ShowsSuite (s, [])) suites (.array items true) :=
    ⟨items, List.forall₂_map_left_iff.mp hitems, rfl⟩
  refine hrecorded.bind_ok rfl (.cons (hsuite.list.suits hlisted) .nil) (by decide)
    fun ms hget => ?_
  have hread := hsuite.list.required (hget _ List.mem_cons_self) hlisted
  rw [List.map_id] at hread
  rw [hread]
  rfl

/-- A stranger is what the reading of a file ends with. -/
theorem suiteFileShape_halts {suites : List ListedSuite} {node : Node} (h : ShowsFile suites node)
    (hstrangers : ∀ s ∈ suites, ∀ m ∈ s.2,
      m.1 ∉ companionFields ∧ complaint (.unknownField m.1 companionFields))
    (hsome : ∃ s ∈ suites, s.2 ≠ []) : Halts complaint (suiteFileShape node) := by
  obtain ⟨listed, ⟨items, hitems, rfl⟩, hrecorded⟩ := h
  have hhalts : Halts complaint (list suiteShape (.array items true)) := by
    refine list_halts (fun item hitem => ?_) ?_
    · obtain ⟨s, hs, hshows⟩ := exists_opposite hitems item hitem
      by_cases hnone : s.2 = []
      · exact Or.inl ⟨_, suiteShape_of_showsSuite hshows hnone⟩
      · exact Or.inr (suiteShape_halts hshows (hstrangers s hs) hnone)
    · obtain ⟨s, hs, hstranger⟩ := hsome
      obtain ⟨item, hitem, hshows⟩ := exists_opposite hitems.flip s hs
      exact ⟨item, hitem, suiteShape_halts hshows (hstrangers s hs) hstranger⟩
  exact hrecorded.bind_halts rfl (.cons hhalts.suits .nil) (by decide)
    ⟨.of "test_suites" (list suiteShape), by simp, _, by simp [Field.of], hhalts.map _⟩

/-! ## Blank fields -/

/-- A suite in which no field is blank that has to say something. -/
structure Suite.Spoken (s : Suite) : Prop where
  name : Text.trim s.name ≠ ""
  suiteId : Text.trim s.suiteId ≠ ""
  program : Text.trim s.companion.program ≠ ""

instance (s : Suite) : Decidable s.Spoken :=
  decidable_of_iff (Text.trim s.name ≠ "" ∧ Text.trim s.suiteId ≠ "" ∧
    Text.trim s.companion.program ≠ "") ⟨fun h => ⟨h.1, h.2.1, h.2.2⟩, fun h => ⟨h.1, h.2, h.3⟩⟩

/-- The first field of a suite that is blank though it has to say something. -/
inductive Suite.FirstBlank (s : Suite) : String → Prop
  | name (hname : Text.trim s.name = "") : s.FirstBlank "test_name"
  | suiteId (hname : Text.trim s.name ≠ "") (hid : Text.trim s.suiteId = "") :
      s.FirstBlank "test_suite_id"
  | program (hname : Text.trim s.name ≠ "") (hid : Text.trim s.suiteId ≠ "")
      (hprogram : Text.trim s.companion.program = "") : s.FirstBlank "companion.program"

theorem Suite.FirstBlank.blankField? {s : Suite} {field : String} (h : s.FirstBlank field) :
    s.blankField? = some field := by
  cases h with
  | name hname => simp [Suite.blankField?, spokenFields, hname]
  | suiteId hname hid => simp [Suite.blankField?, spokenFields, hname, hid]
  | program hname hid hprogram => simp [Suite.blankField?, spokenFields, hname, hid, hprogram]

theorem Suite.Spoken.blankField? {s : Suite} (h : s.Spoken) : s.blankField? = none := by
  simp [Suite.blankField?, spokenFields, h.name, h.suiteId, h.program]

theorem Suite.spoken_or_firstBlank (s : Suite) : s.Spoken ∨ ∃ field, s.FirstBlank field := by
  by_cases hname : Text.trim s.name = ""
  · exact Or.inr ⟨_, .name hname⟩
  by_cases hid : Text.trim s.suiteId = ""
  · exact Or.inr ⟨_, .suiteId hname hid⟩
  by_cases hprogram : Text.trim s.companion.program = ""
  · exact Or.inr ⟨_, .program hname hid hprogram⟩
  · exact Or.inl ⟨hname, hid, hprogram⟩

/-- Suites that come before the first one with a blank field are only counted. -/
theorem firstBlank?_append {before : List Suite} (hbefore : ∀ s ∈ before, s.Spoken) (index : Nat)
    (after : List Suite) :
    firstBlank? index (before ++ after) = firstBlank? (index + before.length) after := by
  induction before generalizing index with
  | nil => rfl
  | cons s before ih =>
      have hrest := ih (fun b hb => hbefore b (List.mem_cons_of_mem _ hb)) (index + 1)
      rw [List.cons_append, firstBlank?, (hbefore s List.mem_cons_self).blankField?, hrest,
        List.length_cons, Nat.add_right_comm, Nat.add_assoc]

theorem firstBlank?_of_spoken {suites : List Suite} (h : ∀ s ∈ suites, s.Spoken) (index : Nat) :
    firstBlank? index suites = none := by
  have hcounted := firstBlank?_append h index []
  rwa [List.append_nil] at hcounted

/-- A list in which not all suites are spoken has a first one that is not. -/
theorem exists_firstBlank {suites : List Suite} (h : ¬ ∀ s ∈ suites, s.Spoken) :
    ∃ before s after field, suites = before ++ s :: after ∧ (∀ b ∈ before, b.Spoken) ∧
      s.FirstBlank field := by
  induction suites with
  | nil => exact absurd (fun s hs => absurd hs List.not_mem_nil) h
  | cons s suites ih =>
      rcases s.spoken_or_firstBlank with hspoken | ⟨field, hblank⟩
      · have hrest : ¬ ∀ s ∈ suites, s.Spoken := fun hall =>
          h (List.forall_mem_cons.mpr ⟨hspoken, hall⟩)
        obtain ⟨before, t, after, field, rfl, hbefore, hblank⟩ := ih hrest
        exact ⟨s :: before, t, after, field, rfl, List.forall_mem_cons.mpr ⟨hspoken, hbefore⟩,
          hblank⟩
      · exact ⟨[], s, suites, field, rfl, fun b hb => absurd hb List.not_mem_nil, hblank⟩

namespace SuiteFile

/-- A file that is accepted has no blank field. -/
theorem spoken_of_parse {origin : Path} {text : String} {wording : Wording} {file : SuiteFile}
    (h : parse origin text wording = .ok file) : ∀ s ∈ file.suites, s.Spoken := by
  rw [parse] at h
  rcases hread : decode suiteFileShape text with e | found <;> rw [hread] at h
  · exact absurd h (by simp)
  rcases hblank : firstBlank? 0 found.suites with _ | ⟨index, field⟩ <;>
    simp only [hblank] at h
  · obtain rfl : found = file := Except.ok.inj h
    -- A blank field would have been found.
    by_contra hspoken
    obtain ⟨before, s, after, field, hsplit, hbefore, hfield⟩ := exists_firstBlank hspoken
    rw [hsplit, firstBlank?_append hbefore, firstBlank?, hfield.blankField?] at hblank
    exact absurd hblank (by simp)
  · exact absurd h (by simp)

/-- What becomes of a file. One that shows certain suites is accepted as these suites, in order,
    if every field says something that has to, and otherwise refused for the first suite with a
    blank field and the first such field in it. A stranger in a companion makes it another kind of
    refusal, whatever is blank: the text cannot be read, because of the name of a stranger, however
    this is worded. And no file is accepted with a blank field. -/
theorem parse_shown_file (origin : Path) (text : String) (wording : Wording) :
    (∀ (suites : List Suite) (node : Node), ShowsFile (suites.map fun s => (s, [])) node →
      node.WrittenAs text →
        ((∀ s ∈ suites, s.Spoken) → parse origin text wording = .ok ⟨suites⟩) ∧
        ((¬ ∀ s ∈ suites, s.Spoken) → ∃ before s after field, suites = before ++ s :: after ∧
          (∀ b ∈ before, b.Spoken) ∧ s.FirstBlank field ∧
          parse origin text wording = .error (.blankField origin before.length field))) ∧
    (∀ (suites : List ListedSuite) (node : Node), ShowsFile suites node → node.WrittenAs text →
      (∀ s ∈ suites, ∀ m ∈ s.2, m.1 ∉ companionFields) → (∃ s ∈ suites, s.2 ≠ []) →
        ∃ name, (∃ s ∈ suites, name ∈ s.2.map Prod.fst) ∧ parse origin text wording =
          .error (.parse origin (wording text (.unknownField name companionFields)))) ∧
    (∀ file, parse origin text wording = .ok file → ∀ s ∈ file.suites, s.Spoken) := by
  refine ⟨fun suites node hshows hwritten => ?_, ?_, fun file => spoken_of_parse⟩
  · have hread : decode suiteFileShape text = .ok ⟨suites⟩ := by
      simp only [decode, hwritten.read, suiteFileShape_of_showsFile hshows]
      rfl
    refine ⟨fun hspoken => ?_, fun hspoken => ?_⟩
    · simp only [parse, hread, firstBlank?_of_spoken hspoken]
    · obtain ⟨before, s, after, field, rfl, hbefore, hblank⟩ := exists_firstBlank hspoken
      refine ⟨before, s, after, field, rfl, hbefore, hblank, ?_⟩
      simp only [parse, hread, firstBlank?_append hbefore, firstBlank?, hblank.blankField?,
        Nat.zero_add]
  · intro suites node hshows hwritten hnames hsome
    -- Nothing but the strangers is complained about, and one of them is the first.
    let complaint : ShapeError → Prop := fun e =>
      ∃ s ∈ suites, ∃ m ∈ s.2, e = .unknownField m.1 companionFields
    have hhalts : Halts complaint (suiteFileShape node) := suiteFileShape_halts hshows
      (fun s hs m hm => ⟨hnames s hs m hm, s, hs, m, hm, rfl⟩) hsome
    obtain ⟨e, ⟨s, hs, m, hm, rfl⟩, hread⟩ := hhalts
    refine ⟨m.1, ⟨s, hs, List.mem_map_of_mem hm⟩, ?_⟩
    have hdecode : decode suiteFileShape text = .error (.unknownField m.1 companionFields) := by
      simp only [decode, hwritten.read, hread]
      rfl
    simp only [parse, hdecode]

/-- A companion that runs one program, with certain strangers among its members. -/
def companionNode (strangers : Members) : Node :=
  .object (List.map member (("program", .string ⟨"sim", true⟩) :: strangers)) true

/-- A suite of that companion. Its members are not in the order in which they are expected. -/
def suiteNode (suiteId : String) (strangers : Members) : Node :=
  .object (List.map member [("test_suite_id", .string ⟨suiteId, true⟩),
    ("companion", companionNode strangers), ("test_name", .string ⟨"shadow", true⟩)]) true

/-- A file of two such suites. -/
def fileNode (suiteId : String) (strangers : Members) : Node :=
  .object (List.map member [("test_suites",
    .array [suiteNode "s-1" [], suiteNode suiteId strangers] true), ("note", .null)]) true

/-- The suite itself. -/
def shadowSuite (suiteId : String) : Suite :=
  ⟨"shadow", suiteId, false, ⟨"sim", [], none⟩⟩

theorem showsSuite_suiteNode (suiteId : String) (strangers : Members) :
    ShowsSuite (shadowSuite suiteId, strangers) (suiteNode suiteId strangers) := by
  have hcompanion : ShowsCompanion ⟨"sim", [], none⟩ strangers (companionNode strangers) :=
    ⟨_, none, none, rfl, rfl, rfl, _, .refl _, rfl⟩
  have hperm : [("test_suite_id", .string ⟨suiteId, true⟩),
      ("companion", companionNode strangers), ("test_name", .string ⟨"shadow", true⟩)].Perm
        (present [("test_name", some (.string ⟨"shadow", true⟩)),
          ("test_suite_id", some (.string ⟨suiteId, true⟩)), ("disabled", none),
          ("companion", some (companionNode strangers))]) :=
    (List.Perm.cons _ (.swap _ _ _)).trans (.swap _ _ _)
  exact ⟨_, _, none, _, rfl, rfl, rfl, hcompanion, [], by simp, _, hperm, rfl⟩

theorem showsFile_pair (suiteId : String) (strangers : Members) :
    ShowsFile [(shadowSuite "s-1", []), (shadowSuite suiteId, strangers)]
      (fileNode suiteId strangers) := by
  have hlisted := List.Forall₂.cons (showsSuite_suiteNode "s-1" [])
    (.cons (showsSuite_suiteNode suiteId strangers) .nil)
  exact ⟨_, ⟨_, hlisted, rfl⟩, [("note", .null)], by simp [IsPlain.null], _, .refl _, rfl⟩

/-- A wording that tells which member was not known. -/
def naming : Wording
  | _, .unknownField name _ => name
  | _, _ => "something else"

/-- A file with two suites in three ways: as it should be, with an identifier of blanks in the
    second one, and with a stranger in the companion of that one besides. -/
theorem parse_shown_file_pair :
    let text := fun (suiteId more : String) =>
      "\x7b\"test_suites\":[\x7b\"test_suite_id\":\"s-1\",\"companion\":\x7b\"program\":\"sim\"" ++
        "\x7d,\"test_name\":\"shadow\"\x7d,\x7b\"test_suite_id\":\"" ++ suiteId ++
        "\",\"companion\":\x7b\"program\":\"sim\"" ++ more ++
        "\x7d,\"test_name\":\"shadow\"\x7d],\"note\": null\x7d"
    parse ⟨"suites.json"⟩ (text "s-2" "") naming =
        .ok ⟨[⟨"shadow", "s-1", false, ⟨"sim", [], none⟩⟩,
          ⟨"shadow", "s-2", false, ⟨"sim", [], none⟩⟩]⟩ ∧
      parse ⟨"suites.json"⟩ (text " " "") naming =
        .error (.blankField ⟨"suites.json"⟩ 1 "test_suite_id") ∧
      parse ⟨"suites.json"⟩ (text " " ",\"cwd\":true") naming =
        .error (.parse ⟨"suites.json"⟩ "cwd") := by
  intro text
  have hspelledSuite := fun suiteId strangers (cs : List Char)
      (h : (companionNode strangers).Spelled cs) =>
    Node.Spelled.object (.tight_cons "test_suite_id" (.string (textSpelled_renderString suiteId))
      (.tight_cons "companion" h
        (.tight "test_name" (.string (textSpelled_renderString "shadow")))))
  have hprogram := Node.Spelled.string (textSpelled_renderString "sim")
  have hplain := Node.Spelled.object (.tight "program" hprogram)
  have hstrange := Node.Spelled.object (.tight_cons "program" hprogram (.tight "cwd" .yes))
  have hspelled := fun suiteId strangers (cs : List Char)
      (h : (companionNode strangers).Spelled cs) =>
    have hblank : Blanks [' '] := by simp [Blanks]
    Node.Spelled.object (.tight_cons "test_suites"
      (.array (.more (hspelledSuite "s-1" [] _ hplain) (padded_self _)
        (.last (hspelledSuite suiteId strangers cs h) (padded_self _))))
      (.last (textSpelled_renderString "note") (padded_self _) .null (.mk hblank blanks_nil)))
  refine ⟨?_, ?_, ?_⟩
  · have hwritten : (fileNode "s-2" []).WrittenAs (text "s-2" "") :=
      (hspelled "s-2" [] _ hplain).writtenAs blanks_nil blanks_nil (by decide +kernel)
    exact ((parse_shown_file ⟨"suites.json"⟩ (text "s-2" "") naming).1
      [shadowSuite "s-1", shadowSuite "s-2"] _ (showsFile_pair "s-2" []) hwritten).1
        (by decide +kernel)
  · have hwritten : (fileNode " " []).WrittenAs (text " " "") :=
      (hspelled " " [] _ hplain).writtenAs blanks_nil blanks_nil (by decide +kernel)
    obtain ⟨before, s, after, field, hsplit, hbefore, hfield, hparse⟩ :=
      ((parse_shown_file ⟨"suites.json"⟩ (text " " "") naming).1
        [shadowSuite "s-1", shadowSuite " "] _ (showsFile_pair " " []) hwritten).2
          (by decide +kernel)
    have hfirst : (shadowSuite "s-1").blankField? = none := by decide +kernel
    have hsecond : (shadowSuite " ").blankField? = some "test_suite_id" := by decide +kernel
    -- The first suite says all it has to, so the blank field is in the second one.
    rcases before with _ | ⟨b, _ | ⟨b', before⟩⟩
    · obtain rfl : shadowSuite "s-1" = s := (List.cons.inj hsplit).1
      exact absurd (hfirst.symm.trans hfield.blankField?) (by simp)
    · obtain rfl : shadowSuite " " = s := (List.cons.inj (List.cons.inj hsplit).2).1
      obtain rfl : field = "test_suite_id" :=
        Option.some.inj (hfield.blankField?.symm.trans hsecond)
      exact hparse
    · exact absurd (congrArg List.length hsplit) (by simp)
  · have hwritten : (fileNode " " [("cwd", .bool true)]).WrittenAs (text " " ",\"cwd\":true") :=
      (hspelled " " [("cwd", .bool true)] _ hstrange).writtenAs blanks_nil blanks_nil
        (by decide +kernel)
    obtain ⟨other, ⟨s, hs, hmem⟩, hparse⟩ :=
      (parse_shown_file ⟨"suites.json"⟩ (text " " ",\"cwd\":true") naming).2.1
        [(shadowSuite "s-1", []), (shadowSuite " ", [("cwd", .bool true)])] _
        (showsFile_pair " " _) hwritten (by simp [companionFields]) (by simp)
    rcases List.mem_cons.mp hs with rfl | hs
    · exact absurd hmem (by simp)
    · obtain rfl := List.mem_singleton.mp hs
      obtain rfl := List.mem_singleton.mp hmem
      exact hparse

end SuiteFile

end Qualifier
