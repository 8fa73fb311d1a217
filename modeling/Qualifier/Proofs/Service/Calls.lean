import Qualifier.Proofs.Json.Writing
import Qualifier.Proofs.Text.Occurrences
import Qualifier.Service.Client

/-!
# The Calls of the Command-Line Client

What a request to the services comes to when they stand behind a command-line client. Each
request is one command, whatever its values and whatever the runner does with the command: the
form of the words is fixed by the operation, the values fill its blanks one by one, and the
region and the output format come last. Nothing of a value is read as anything else: it is a
word of its own, or, of the two requests that put a value inside a longer word, it stands in a
document from which it reads back, or in an address.

The answer depends on how the command came out. One that could not be started or that did not
succeed is a failure of a kind that its error stream and its code alone decide, and one that
succeeded can only be answered, unless there is a value to be read from what it printed.

## Main definitions

* `Form`, `Form.of`, `Form.fill`: The words of a command with blanks for the values.
* `given`, `passed`: The values of a request, and the words they become.
* `Mentions`, `complaint`: What the error stream of a failed command says.
* `Answered`: The answers that an outcome of the command can lead to.
* `respond`: The answer to a request by the outcome of its command.
* `recording`: A runner that keeps a record of its commands.

## Theorems

* `ofRequest_eq`: A request fills the form of its operation.
* `answered_classify`: The failure that a command stands for.
* `answered_answer`: The answer to a command that succeeded.
* `serviceIn_eq`: A request is one command, and its outcome decides the answer.
* `service_contract`: The contract of every call.
-/

namespace Qualifier

namespace Client

/-! ## Words and values -/

/-- The words of a command: the area and the action, and the flags with a blank for each
    value. -/
structure Form where
  area : String
  action : String
  flags : List (Option String)

/-- The words with the values in the blanks, in order. -/
def fill : List (Option String) → List String → List String
  | [], _ => []
  | some word :: words, values => word :: fill words values
  | none :: words, value :: values => value :: fill words values
  | none :: words, [] => fill words []

/-- The form of each operation. -/
def Form.of : Operation → Form
  | .createThing => ⟨"iot", "create-thing", [some "--thing-name", none]⟩
  | .addThingToGroup =>
    ⟨"iot", "add-thing-to-thing-group",
      [some "--thing-group-name", none, some "--thing-name", none]⟩
  | .createCertificate => ⟨"iot", "create-keys-and-certificate", [some "--set-as-active"]⟩
  | .attachPolicy =>
    ⟨"iot", "attach-policy", [some "--policy-name", none, some "--target", none]⟩
  | .attachPrincipal =>
    ⟨"iot", "attach-thing-principal", [some "--thing-name", none, some "--principal", none]⟩
  | .listPrincipals => ⟨"iot", "list-thing-principals", [some "--thing-name", none]⟩
  | .detachPrincipal =>
    ⟨"iot", "detach-thing-principal", [some "--thing-name", none, some "--principal", none]⟩
  | .updateCertificate =>
    ⟨"iot", "update-certificate", [some "--certificate-id", none, some "--new-status", none]⟩
  | .deleteCertificate =>
    ⟨"iot", "delete-certificate", [some "--certificate-id", none, some "--force-delete"]⟩
  | .deleteThing => ⟨"iot", "delete-thing", [some "--thing-name", none]⟩
  | .updateShadow =>
    ⟨"iot-data", "update-thing-shadow",
      [some "--thing-name", none, some "--cli-binary-format", some "raw-in-base64-out",
        some "--payload", none, some "/dev/null"]⟩
  | .startSuiteRun =>
    ⟨"iotdeviceadvisor", "start-suite-run",
      [some "--suite-definition-id", none, some "--suite-run-configuration", none]⟩
  | .getSuiteRun =>
    ⟨"iotdeviceadvisor", "get-suite-run",
      [some "--suite-definition-id", none, some "--suite-run-id", none]⟩
  | .getEndpoint => ⟨"iotdeviceadvisor", "get-endpoint", [some "--thing-arn", none]⟩
  | .getLogEvents =>
    ⟨"logs", "get-log-events",
      [some "--log-group-name", none, some "--log-stream-name", none, some "--start-from-head"]⟩
  | .upload => ⟨"s3", "cp", [none, none]⟩
  | .getSecret => ⟨"secretsmanager", "get-secret-value", [some "--secret-id", none]⟩

/-- The values a request is made with, in the order of the command line. -/
def given : Request → List String
  | .createThing name | .listPrincipals name | .deleteThing name => [name]
  | .addThingToGroup group thing => [group, thing]
  | .createCertificate => []
  | .attachPolicy policy target => [policy, target]
  | .attachPrincipal thing principal | .detachPrincipal thing principal => [thing, principal]
  | .updateCertificate id status => [id, status.text]
  | .deleteCertificate id | .getSecret id => [id]
  | .updateShadow thing document => [thing, document]
  | .startSuiteRun suiteId thingArn => [suiteId, thingArn]
  | .getSuiteRun job => [job.suiteId, job.runId]
  | .getEndpoint thingArn => [thingArn]
  | .getLogEvents group stream => [group, stream]
  | .upload path bucket key => [path.text, bucket, key]

/-- The words that the values of a request become. For all requests but two these are the
    values themselves. -/
def passed : Request → List String
  | .startSuiteRun suiteId thingArn => [suiteId, (runConfiguration thingArn).render]
  | .upload path bucket key => [path.text, "s3://" ++ bucket ++ "/" ++ key]
  | r => given r

/-- Taken word by word, a value that is put inside a longer one is not passed on. -/
theorem given_not_in_command : ¬∀ (client : Client) (r : Request), ∀ value ∈ given r,
    value ∈ (client.command (Call.ofRequest r)).arguments := by
  intro h
  have hthing := h ⟨"aws", "eu-west-1"⟩ (.startSuiteRun "suite-1" "arn:thing") "arn:thing"
    (by decide)
  exact absurd hthing (by decide +kernel)

/-- A request fills the form of its operation with its values. -/
theorem ofRequest_eq (r : Request) :
    Call.ofRequest r =
      ⟨(Form.of r.operation).area, (Form.of r.operation).action,
        fill (Form.of r.operation).flags (passed r)⟩ := by
  cases r <;> rfl

/-- There is one blank for each value. -/
theorem count_blanks (r : Request) :
    (Form.of r.operation).flags.count none = (passed r).length := by
  cases r <;> rfl

/-- What a document says about the device that is to be tested. -/
def deviceNode (thingArn : String) : Json.Node :=
  .object [(⟨"parallelRun", true⟩, .bool true),
    (⟨"primaryDevice", true⟩, .object [(⟨"thingArn", true⟩, .string ⟨thingArn, true⟩)] true)] true

/-- The document that a suite run is started with reads back, whatever the name of the device
    is made of. -/
theorem read_runConfiguration (thingArn : String) :
    Json.read (runConfiguration thingArn).render = ⟨deviceNode thingArn, true⟩ :=
  Json.read_render (runConfiguration thingArn)

/-! ## Outcomes and answers -/

/-- One of the words occurs somewhere in a text. -/
def Mentions (markers : List String) (text : String) : Prop :=
  ∃ marker ∈ markers, marker.toList <:+: text.toList

theorem mentions_iff (markers : List String) (text : String) :
    mentions markers text = true ↔ Mentions markers text := by
  simp only [mentions, List.any_eq_true, Text.occursIn_iff, Mentions]

/-- What is told of a command that did not succeed: what it said, or its code if it said
    nothing. -/
def complaint (code : Option Int) (said : String) : String :=
  if said = "" then
    "exit status " ++ (match code with | some code => toString code | none => "unknown")
  else said

/-- The answers that an outcome of the command can lead to. A command that did not succeed is
    judged by its code and by what it said, trimmed; one that succeeded fails to answer only
    if there is a value to be answered with. -/
inductive Answered {α : Type} (label : String) :
    Except SpawnFailure CommandOutput → Except ServiceError α → Prop
  | notStarted (failure : SpawnFailure) :
      Answered label (.error failure) (.error (.invocation label failure))
  | notFound {code : Option Int} (stdout : String) {stderr : String} (hcode : code ≠ some 0)
      (hsaid : Mentions notFoundMarkers (Text.trim stderr)) :
      Answered label (.ok ⟨code, stdout, stderr⟩)
        (.error (.notFound label (complaint code (Text.trim stderr))))
  | transient {code : Option Int} (stdout : String) {stderr : String} (hcode : code ≠ some 0)
      (hnot : ¬Mentions notFoundMarkers (Text.trim stderr))
      (hsaid : Mentions transientMarkers (Text.trim stderr)) :
      Answered label (.ok ⟨code, stdout, stderr⟩)
        (.error (.transient label (complaint code (Text.trim stderr))))
  | rejected {code : Option Int} (stdout : String) {stderr : String} (hcode : code ≠ some 0)
      (hnot : ¬Mentions notFoundMarkers (Text.trim stderr))
      (hneither : ¬Mentions transientMarkers (Text.trim stderr)) :
      Answered label (.ok ⟨code, stdout, stderr⟩)
        (.error (.rejected label (complaint code (Text.trim stderr))))
  | done (stdout stderr : String) (value : α) :
      Answered label (.ok ⟨some 0, stdout, stderr⟩) (.ok value)
  | malformed (stdout stderr detail : String) (hvalue : α ≠ Unit) :
      Answered label (.ok ⟨some 0, stdout, stderr⟩) (.error (.malformedResponse label detail))

/-- The failure that a command which did not succeed stands for. -/
theorem answered_classify {α : Type} (label : String) {output : CommandOutput}
    (hcode : output.code ≠ some 0) :
    Answered (α := α) label (.ok output) (.error (classify label output)) := by
  rcases output with ⟨code, stdout, stderr⟩
  have hdetail : (if Text.trim stderr = "" then
      "exit status " ++ CommandOutput.statusText ⟨code, stdout, stderr⟩ else Text.trim stderr) =
      complaint code (Text.trim stderr) := rfl
  simp only [classify, hdetail]
  split
  · rename_i hsaid
    exact .notFound stdout hcode ((mentions_iff _ _).mp hsaid)
  · rename_i hnot
    rw [mentions_iff] at hnot
    split
    · rename_i hsaid
      exact .transient stdout hcode hnot ((mentions_iff _ _).mp hsaid)
    · rename_i hneither
      rw [mentions_iff] at hneither
      exact .rejected stdout hcode hnot hneither

/-- A kind of answer with more than one value is not the answer of a call that just succeeds. -/
theorem ne_unit {α : Type} (a b : α) (h : a ≠ b) : α ≠ Unit := by
  rintro rfl
  exact h rfl

/-- What is printed is read, or is not what was expected. -/
theorem reading_cases {α : Type} (wordings : Wordings) (label : String) (d : Json.Decoder α)
    (stdout : String) :
    (∃ value, reading wordings label d stdout = .ok value) ∨
      ∃ detail, reading wordings label d stdout = .error (.malformedResponse label detail) := by
  unfold reading
  cases Json.decode d stdout with
  | ok value => exact Or.inl ⟨value, rfl⟩
  | error e => exact Or.inr ⟨wordings label stdout e, rfl⟩

/-- A value that is read from what was printed is answered, or the failure to read it. -/
theorem answered_reading {α : Type} (wordings : Wordings) (label : String) (d : Json.Decoder α)
    (stdout stderr : String) (hvalue : α ≠ Unit) :
    Answered label (.ok ⟨some 0, stdout, stderr⟩) (reading wordings label d stdout) := by
  rcases reading_cases wordings label d stdout with ⟨value, heq⟩ | ⟨detail, heq⟩
  · rw [heq]
    exact .done stdout stderr value
  · rw [heq]
    exact .malformed stdout stderr detail hvalue

/-- The answer to a command that succeeded. -/
theorem answered_answer (wordings : Wordings) (r : Request) (label stdout stderr : String) :
    Answered label (.ok ⟨some 0, stdout, stderr⟩) (answer wordings r label stdout) := by
  have hthing : Thing ≠ Unit := ne_unit ⟨"", ""⟩ ⟨"", "0"⟩ (by decide)
  have hcertificate : Certificate ≠ Unit := ne_unit ⟨"", "", "", ""⟩ ⟨"", "", "", "0"⟩ (by decide)
  have hjob : Job ≠ Unit := ne_unit ⟨"", ""⟩ ⟨"", "0"⟩ (by decide)
  have hsnapshot : Snapshot ≠ Unit := ne_unit ⟨.pass, []⟩ ⟨.pass, [[]]⟩ (by decide)
  have hlist : List String ≠ Unit := ne_unit [] [""] (by decide)
  have htext : String ≠ Unit := ne_unit "" "0" (by decide)
  cases r with
  | createThing name => exact answered_reading wordings label _ stdout stderr hthing
  | createCertificate => exact answered_reading wordings label _ stdout stderr hcertificate
  | listPrincipals thing => exact answered_reading wordings label _ stdout stderr hlist
  | getSuiteRun job => exact answered_reading wordings label _ stdout stderr hsnapshot
  | getEndpoint thingArn => exact answered_reading wordings label _ stdout stderr htext
  | getLogEvents group stream => exact answered_reading wordings label _ stdout stderr hlist
  | startSuiteRun suiteId thingArn =>
      simp only [answer]
      rcases reading_cases wordings label Response.runId stdout with ⟨value, heq⟩ | ⟨detail, heq⟩
      · rw [heq]
        exact .done stdout stderr _
      · rw [heq]
        exact .malformed stdout stderr detail hjob
  | getSecret id =>
      simp only [answer]
      rcases reading_cases wordings label Response.secret stdout with ⟨value, heq⟩ | ⟨detail, heq⟩
      · rw [heq]
        -- A secret without text is a response that cannot be used either.
        cases value with
        | some secret => exact .done stdout stderr secret
        | none => exact .malformed stdout stderr _ htext
      · rw [heq]
        exact .malformed stdout stderr detail htext
  | _ => exact .done stdout stderr ()

/-- The answer to a request by the outcome of its command. -/
def respond (wordings : Wordings) (r : Request) :
    Except SpawnFailure CommandOutput → Except ServiceError r.Answer
  | .error failure => .error (.invocation (Call.ofRequest r).label failure)
  | .ok output =>
    if output.isSuccess then answer wordings r (Call.ofRequest r).label output.stdout
    else .error (classify (Call.ofRequest r).label output)

theorem answered_respond (wordings : Wordings) (r : Request)
    (outcome : Except SpawnFailure CommandOutput) :
    Answered (Call.ofRequest r).label outcome (respond wordings r outcome) := by
  rcases outcome with failure | ⟨code, stdout, stderr⟩
  · exact .notStarted failure
  · by_cases hcode : code = some 0
    · subst hcode
      exact answered_answer wordings r _ stdout stderr
    · have hfailed : CommandOutput.isSuccess ⟨code, stdout, stderr⟩ = false := by
        simpa [CommandOutput.isSuccess] using hcode
      simp only [respond, hfailed, Bool.false_eq_true, if_false]
      exact answered_classify _ hcode

/-! ## Calls -/

/-- A runner that keeps a record of its commands. -/
def recording {σ : Type} (run : Runner σ) : Runner (σ × List Command) := fun command s =>
  ((run command s.1).1, (run command s.1).2, s.2 ++ [command])

/-- A request is one command, and its outcome decides the answer. -/
theorem serviceIn_eq {σ : Type} (client : Client) (wordings : Wordings) (run : Runner σ)
    (r : Request) (s : σ) :
    client.serviceIn wordings run r s =
      (respond wordings r (run (client.command (Call.ofRequest r)) s).1,
        (run (client.command (Call.ofRequest r)) s).2) := by
  simp only [serviceIn, respond]
  rcases run (client.command (Call.ofRequest r)) s with ⟨failure | output, t⟩
  · rfl
  · by_cases hsuccess : output.isSuccess = true
    · simp only [if_pos hsuccess]
    · simp only [if_neg hsuccess]

/-- The contract of every call, for every client, every runner and every request: exactly one
    command is run, which fills the form of the operation with the values of the request, and
    the outcome of that command decides the answer, in whatever words it is told that an output
    cannot be read. -/
theorem service_contract {σ : Type} (client : Client) (wordings : Wordings) (run : Runner σ)
    (r : Request) (s : σ) (log : List Command) :
    let form := Form.of r.operation
    let command : Command := ⟨client.program,
      form.area :: form.action :: fill form.flags (passed r) ++
        ["--region", client.region, "--output", "json"]⟩
    form.flags.count none = (passed r).length ∧
    (r.operation ≠ .startSuiteRun → r.operation ≠ .upload → passed r = given r) ∧
    (∀ suiteId thingArn, r = .startSuiteRun suiteId thingArn → ∃ document,
      passed r = [suiteId, document] ∧ Json.read document = ⟨deviceNode thingArn, true⟩) ∧
    (∀ path bucket key, r = .upload path bucket key →
      passed r = [path.text, "s3://" ++ bucket ++ "/" ++ key]) ∧
    client.serviceIn wordings (recording run) r (s, log) =
      ((client.serviceIn wordings run r s).1, (run command s).2, log ++ [command]) ∧
    (client.serviceIn wordings run r s).2 = (run command s).2 ∧
    Answered (form.area ++ " " ++ form.action) (run command s).1
      (client.serviceIn wordings run r s).1 := by
  intro form command
  have hcommand : client.command (Call.ofRequest r) = command := by
    rw [ofRequest_eq]
    rfl
  have hlabel : (Call.ofRequest r).label = form.area ++ " " ++ form.action := by
    rw [ofRequest_eq]
    rfl
  rw [serviceIn_eq, serviceIn_eq, hcommand, ← hlabel]
  refine ⟨count_blanks r, ?_, ?_, ?_, rfl, rfl, answered_respond wordings r _⟩
  · intro hrun hupload
    cases r with
    | startSuiteRun suiteId thingArn => exact absurd rfl hrun
    | upload path bucket key => exact absurd rfl hupload
    | _ => rfl
  · rintro suiteId thingArn rfl
    exact ⟨_, rfl, read_runConfiguration thingArn⟩
  · rintro path bucket key rfl
    rfl

end Client

end Qualifier
