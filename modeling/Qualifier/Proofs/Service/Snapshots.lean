import Qualifier.Proofs.Json.Arrangement
import Qualifier.Proofs.Json.Writing
import Qualifier.Service.Client

/-!
# Suite Runs as They Are Shown

What the client prints about a suite run is four records inside each other: the run, its result,
the groups and the cases. Each leaves out what it has nothing to say about, each may hold members
that nobody asked for, and the members of each come in any order. `ShowsRun` says which nodes show
a run of given states, groups and cases, level by level, and a decoder at each level is shown to
read every one of them.

The states stay words up to the end. They are told apart by the states they are read as, so the
snapshot has lost nothing.

## Main definitions

* `WordedCase`: A case as it is worded.
* `ShowsCase`, `ShowsGroup`, `ShowsResult`, `ShowsRun`: The nodes that show a run and its parts.

## Theorems

* `reads_testCase`, `reads_testGroup`, `reads_testResult`: One level of a document each.
* `snapshot_of_showsRun`: Every node that shows a run is read as that run.
* `shown_run_decoded`: What the service answers when a text shows a run.
-/

namespace Qualifier

open Json

namespace Response

/-- A case as it is worded: its state, and the address of its log if it has one. -/
abbrev WordedCase := String × Option String

/-- The case that is worded so. -/
def WordedCase.case (c : WordedCase) : TestCase :=
  ⟨RunStatus.ofText c.1, c.2⟩

/-- The nodes that show a case. Where it has no log, the member is left out or null. -/
def ShowsCase (c : WordedCase) (node : Node) : Prop :=
  ∃ status url, IsText c.1 status ∧ OrAbsent none (OrNull IsText) c.2 url ∧
    Recorded [("status", some status), ("logUrl", url)] node

/-- The nodes that show a group of cases. The list may be left out if it is empty. -/
def ShowsGroup (cases : List WordedCase) (node : Node) : Prop :=
  ∃ tests, OrAbsent [] (IsList ShowsCase) cases tests ∧ Recorded [("tests", tests)] node

/-- The nodes that show the groups of a run. The list may be left out if it is empty. -/
def ShowsResult (groups : List (List WordedCase)) (node : Node) : Prop :=
  ∃ listed, OrAbsent [] (IsList ShowsGroup) groups listed ∧ Recorded [("groups", listed)] node

/-- The nodes that show a run: its overall state, and its groups. Where there is no group, the
    whole result may be left out or null. -/
def ShowsRun (word : String) (groups : List (List WordedCase)) (node : Node) : Prop :=
  ∃ status result found, IsText word status ∧ OrAbsent none (OrNull ShowsResult) found result ∧
    found.getD [] = groups ∧ Recorded [("status", some status), ("testResult", result)] node

theorem reads_status : Reads status RunStatus.ofText IsText := by
  rintro word node rfl
  rfl

theorem not_showsResult_null (groups : List (List WordedCase)) : ¬ ShowsResult groups .null := by
  rintro ⟨listed, -, hrecorded⟩
  exact hrecorded.ne_null rfl

theorem reads_testCase : Reads testCase WordedCase.case ShowsCase := by
  rintro c node ⟨status, url, hstatus, hurl, hrecorded⟩
  have hreads := reads_string.nullable not_isText_null
  refine hrecorded.bind_ok rfl
    (.cons (reads_status.suits hstatus) (.cons (hreads.suits_default hurl) .nil)) (by decide)
    fun ms hget => ?_
  simp only [List.forall_mem_cons] at hget
  have hword := reads_status.required hget.1 hstatus
  have hfound := hreads.getD hget.2.1 hurl
  rw [Option.map_id, id, id] at hfound
  rw [hword, hfound]
  rfl

theorem reads_testGroup : Reads testGroup (List.map WordedCase.case) ShowsGroup := by
  rintro cases node ⟨tests, htests, hrecorded⟩
  have hreads := reads_testCase.list
  refine hrecorded.bind_ok rfl (.cons (hreads.suits_default htests) .nil) (by decide)
    fun ms hget => ?_
  exact hreads.getD (hget _ List.mem_cons_self) htests

theorem reads_testResult :
    Reads testResult (List.map (List.map WordedCase.case)) ShowsResult := by
  rintro groups node ⟨listed, hlisted, hrecorded⟩
  have hreads := reads_testGroup.list
  refine hrecorded.bind_ok rfl (.cons (hreads.suits_default hlisted) .nil) (by decide)
    fun ms hget => ?_
  exact hreads.getD (hget _ List.mem_cons_self) hlisted

/-- Every node that shows a run is read as that run. -/
theorem snapshot_of_showsRun {word : String} {groups : List (List WordedCase)} {node : Node}
    (h : ShowsRun word groups node) :
    snapshot node = .ok ⟨RunStatus.ofText word, groups.map (List.map WordedCase.case)⟩ := by
  obtain ⟨status, result, found, hstatus, hresult, rfl, hrecorded⟩ := h
  have hreads := reads_testResult.nullable not_showsResult_null
  refine hrecorded.bind_ok rfl
    (.cons (reads_status.suits hstatus) (.cons (hreads.suits_default hresult) .nil)) (by decide)
    fun ms hget => ?_
  simp only [List.forall_mem_cons] at hget
  have hword := reads_status.required hget.1 hstatus
  have hfound := hreads.getD hget.2.1 hresult
  rw [Option.map_none] at hfound
  rw [hword, hfound]
  cases found <;> rfl

/-- A state is read off one word only. -/
theorem ofText_injective : Function.Injective RunStatus.ofText :=
  Function.LeftInverse.injective RunStatus.text_ofText

theorem case_injective : Function.Injective WordedCase.case := by
  rintro ⟨word, url⟩ ⟨word', url'⟩ h
  obtain ⟨hstatus, hurl⟩ := TestCase.mk.inj h
  exact Prod.ext (ofText_injective hstatus) hurl

end Response

namespace Client

open Response

/-- A command that succeeds and prints a text which shows a run is answered with that run: its
    state, and its groups and cases in order, each with the state its word stands for. No two runs
    are answered alike, since every word can be had back from the state it is read as. -/
theorem shown_run_decoded :
    (∀ {σ : Type} (client : Client) (wordings : Wordings) (run : Runner σ) (job : Job) (s s' : σ)
        (output : CommandOutput) (word : String) (groups : List (List WordedCase)) (node : Node),
      ShowsRun word groups node → node.WrittenAs output.stdout → output.isSuccess = true →
      run (client.command (Call.ofRequest (.getSuiteRun job))) s = (.ok output, s') →
      client.serviceIn wordings run (.getSuiteRun job) s =
        (.ok ⟨RunStatus.ofText word,
          groups.map fun cases => cases.map fun c => ⟨RunStatus.ofText c.1, c.2⟩⟩, s')) ∧
    (∀ word, (RunStatus.ofText word).text = word) ∧
    Function.Injective2 fun (word : String) (groups : List (List WordedCase)) =>
      (⟨RunStatus.ofText word,
        groups.map fun cases => cases.map fun c => ⟨RunStatus.ofText c.1, c.2⟩⟩ : Snapshot) := by
  refine ⟨?_, RunStatus.text_ofText, ?_⟩
  · intro σ client wordings run job s s' output word groups node hshows hwritten hsuccess hrun
    have hread : Json.decode snapshot output.stdout = .ok ⟨RunStatus.ofText word,
        groups.map (List.map WordedCase.case)⟩ := by
      simp only [Json.decode, hwritten.read, snapshot_of_showsRun hshows]
      rfl
    simp only [serviceIn, hrun, hsuccess, answer, reading, hread]
    rfl
  · intro word word' groups groups' h
    obtain ⟨hstatus, hgroups⟩ := Snapshot.mk.inj h
    exact ⟨ofText_injective hstatus,
      List.map_injective_iff.mpr (List.map_injective_iff.mpr case_injective) hgroups⟩

/-- A case without a log, its members in the other order. -/
def caseNode : Node :=
  .object (List.map member [("logUrl", .null), ("status", .string ⟨"PASS", true⟩)]) true

/-- A group of that case, and a member that is not expected. -/
def groupNode : Node :=
  .object (List.map member [("tests", .array [caseNode] true), ("open", .bool true)]) true

/-- That group, and one without cases. -/
def resultNode : Node :=
  .object (List.map member [("groups", .array [groupNode, .object [] true] true)]) true

/-- A run of these groups. Its members are not in the order in which they are expected. -/
def runNode : Node :=
  .object (List.map member [("next", .null), ("testResult", resultNode),
    ("status", .string ⟨"RUNNING", true⟩)]) true

theorem showsRun_runNode : ShowsRun "RUNNING" [[("PASS", none)], []] runNode := by
  have hcase : ShowsCase ("PASS", none) caseNode :=
    ⟨_, some .null, rfl, rfl, [], by simp, _, .swap _ _ _, rfl⟩
  have hgroup : ShowsGroup [("PASS", none)] groupNode :=
    ⟨some (.array [caseNode] true), ⟨_, .cons hcase .nil, rfl⟩, [("open", .bool true)],
      by simp [IsPlain.flag], _, .refl _, rfl⟩
  have hempty : ShowsGroup [] (.object [] true) := ⟨none, rfl, [], by simp, [], .refl _, rfl⟩
  have hresult : ShowsResult [[("PASS", none)], []] resultNode :=
    ⟨some (.array [groupNode, .object [] true] true), ⟨_, .cons hgroup (.cons hempty .nil), rfl⟩,
      [], by simp, _, .refl _, rfl⟩
  have hperm : [("next", .null), ("testResult", resultNode),
      ("status", .string ⟨"RUNNING", true⟩)].Perm
        (present [("status", some (.string ⟨"RUNNING", true⟩)), ("testResult", some resultNode)] ++
          [("next", .null)]) :=
    (List.Perm.swap _ _ _).trans ((List.Perm.cons _ (.swap _ _ _)).trans (.swap _ _ _))
  exact ⟨_, some resultNode, some [[("PASS", none)], []], rfl, hresult, rfl, [("next", .null)],
    by simp [IsPlain.null], _, hperm, rfl⟩

/-- A text of the run, with blanks, and with an escape in one of the names. -/
def runText : String :=
  "\x7b\"next\": null,\"testResult\":\x7b\"groups\":[\x7b\"tests\":[" ++
    "\x7b\"logUrl\":null,\"status\":\"PASS\"\x7d],\"open\":true\x7d,\x7b\x7d]\x7d," ++
    "\"\\u0073tatus\":\"RUNNING\"\x7d\n"

theorem runNode_writtenAs : runNode.WrittenAs runText := by
  have hunit : IsUnit ['0', '0', '7', '3'] 's'.toNat :=
    ⟨_, _, _, _, 0, 0, 7, 3, rfl, .inl rfl, .inl rfl, .inl rfl, .inl rfl, rfl⟩
  have hkey : TextSpelled "status" "\"\\u0073tatus\"".toList :=
    ⟨_, .cons (.unit hunit) (bodySpelled_flatMap "tatus".toList), rfl⟩
  have hcase := Node.Spelled.object (.tight_cons "logUrl" .null
    (.tight "status" (.string (textSpelled_renderString "PASS"))))
  have hgroup := Node.Spelled.object (.tight_cons "tests" (.array (.last hcase (padded_self _)))
    (.tight "open" .yes))
  have hresult := Node.Spelled.object (.tight "groups" (.array (.more hgroup (padded_self _)
    (.last (.emptyObject blanks_nil) (padded_self _)))))
  have hblank : Blanks [' '] := by simp [Blanks]
  have hroot := Node.Spelled.object (.more (textSpelled_renderString "next") (padded_self _) .null
    (.mk hblank blanks_nil) (.tight_cons "testResult" hresult
      (.last hkey (padded_self _) (.string (textSpelled_renderString "RUNNING")) (padded_self _))))
  have hend : Blanks ['\n'] := by simp [Blanks]
  exact hroot.writtenAs blanks_nil hend (by decide +kernel)

/-- A run with a case without a log and a group without cases, as it comes from a command. -/
theorem shown_run_decoded_scripted :
    let client : Client := ⟨"aws", "eu-west-1"⟩
    let command := client.command (Call.ofRequest (.getSuiteRun ⟨"suite", "run"⟩))
    client.serviceIn (fun _ => .brief) Script.runner (.getSuiteRun ⟨"suite", "run"⟩)
        ⟨[⟨some 0, runText, ""⟩], []⟩ =
      (.ok ⟨.running, [[⟨.pass, none⟩], []]⟩, ⟨[], [command]⟩) := by
  intro client command
  have hanswer := shown_run_decoded.1 client (fun _ => .brief) Script.runner ⟨"suite", "run"⟩
    ⟨[⟨some 0, runText, ""⟩], []⟩ ⟨[], [command]⟩ ⟨some 0, runText, ""⟩ "RUNNING"
    [[("PASS", none)], []] runNode showsRun_runNode runNode_writtenAs rfl rfl
  simpa [RunStatus.ofText] using hanswer

end Client

end Qualifier
