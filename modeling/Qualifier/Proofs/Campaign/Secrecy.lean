import Qualifier.Proofs.Campaign.Leftovers
import Qualifier.Proofs.Identity.Secrecy
import Qualifier.Proofs.Json.Writing
import Qualifier.Proofs.Service.Secrets

/-!
# Private Keys in a Campaign

Between the setup of a suite and the removal of its credentials nobody is told the private key:
not the services, not the companion, which gets the path of the file in its environment, and
not the log that may be written. So the suites of a campaign are veiled, and at the end of each
of them the key is removed.

Together with what is true of a setup this is the flow of a private key as a whole: from the
answer that it is issued in to the file at the key path, and no further
(`private_keys_kept_secret`). Two runs in which different keys are issued have the same result
and the same conversation, launch the same companions and describe their certificates in the
same way; they leave the same files, except that after a setup the bytes at the key path
differ. The services may be any two that differ in the keys they issue, and in particular the
client run by two scripts that differ in them.

There are two traces of a key (`private_keys_leave_traces`). If the client prints a document that
is no certificate for the want of another member, the words on what is wrong name the place where
the reader noticed, and this tells how long the key in the document is. And a key whose path does
not lead to it from the start is not removed.

## Main definitions

* `issuedIn`: The certificates of a conversation.
* `Bench.run`, `Bench.talk`, `Bench.film`: A run on a test bench, its conversation and its moments.
* `Indistinct`: Two runs that differ in nothing but private keys.
* `KeepsKeysSecret`: Setups and campaigns are indistinct with two services.

## Theorems

* `veiled_runSuites`: A campaign does with one key what it does with another.
* `runSuite_same`, `runSuites_same`: At the end of each suite the key is gone.
* `indistinct_of_veiled`: Veiled programs run indistinctly.
* `private_keys_kept_secret`: The flow of a private key.
* `private_keys_leave_traces`: Where two keys can be told apart.
-/

namespace Qualifier

open Program Storage Simulated

variable {key : Path} {paths : List Path} {t : Reel} {view : ServiceError → ServiceError}

/-! ## Programs -/

theorem keyless_exercise (s : RunSettings) (suite : Suite) (identity : Identity) :
    Only Ask.keyless (exercise s suite identity) :=
  exercise_asks (fun r hr => ⟨rfl, fun h => hr (Ask.service.inj h)⟩) (fun _ => ⟨rfl, by simp⟩)
    (fun _ => ⟨rfl, by simp⟩) s suite identity

theorem keyless_settle (s : RunSettings) (identity : Identity)
    (outcome : Except SuiteFailure PollReport) : Only Ask.keyless (settle s identity outcome) := by
  have hdown : ∀ result : SuiteResult,
      Only Ask.keyless (do let _ ← deprovision identity.thingName; pure result) :=
    fun _ => (keyless_deprovision _).bind fun _ => trivial
  cases outcome with
  | error failure => exact hdown failure.result
  | ok report =>
      rw [settle, conclude]
      cases Verdict.ofStatus report.status with
      | passed => exact hdown (.passed report.status)
      | failed =>
          refine Only.bind ?_ fun _ => trivial
          exact keepUrl_asks (fun _ _ => ⟨rfl, by simp⟩) (fun _ _ => ⟨rfl, by simp⟩)
            (fun _ _ _ => ⟨rfl, by simp⟩) (fun _ => ⟨rfl, by simp⟩) _ _ _

/-- A suite does with one key what it does with another. -/
theorem veiled_runSuite (s : RunSettings) (suite : Suite) :
    Veiled view s.keyPath (Except.mapError (ProvisionError.viewed view)) (runSuite s suite)
      (runSuite s suite) := by
  refine veiled_question_bind ⟨rfl, by simp⟩ fun fresh => ?_
  refine (veiled_provision (s.specification (s.thingNamePrefix ++ fresh))).attempt ?_ ?_
  · exact fun e e' hsame => .done (congrArg Except.error hsame)
  · intro identity
    refine veiled_of_only ((keyless_exercise s suite identity).bind fun outcome => ?_)
    refine (keyless_settle s identity outcome).bind fun result => ?_
    exact (removeCredentials_asks (fun _ => ⟨rfl, by simp⟩) _ _).bind fun _ => trivial

/-- The failure of a campaign, with a view of its cause. -/
def SetupFailure.viewed (view : ServiceError → ServiceError) (failure : SetupFailure) :
    SetupFailure :=
  { failure with cause := failure.cause.viewed view }

theorem veiled_runSuites (s : RunSettings) (suites : List Suite) (reports : List SuiteReport) :
    Veiled view s.keyPath (Except.mapError (SetupFailure.viewed view))
      (runSuites s reports suites) (runSuites s reports suites) := by
  induction suites generalizing reports with
  | nil => exact .done rfl
  | cons suite rest ih =>
      unfold runSuites
      split
      · exact ih _
      · refine (veiled_runSuite s suite).attempt ?_ fun report => ih _
        intro cause cause' hsame
        refine .done (congrArg Except.error ?_)
        simp only [SetupFailure.viewed, hsame]

/-! ## Two workspaces -/

/-- A log may be written and removed before the key is. -/
theorem keepUrl_fleeting (h : Lasting key paths t) (a : Archive) (url : Option String)
    (thing : String) :
    Ensures (filmed (twofold key)) (a.keepUrl url thing) t fun _ u => Fleeting key paths u := by
  unfold Archive.keepUrl
  split
  · exact h.fleeting
  split
  · exact h.fleeting
  refine (still_request _ t).bind fun events u hu => ?_
  cases events with
  | error cause => exact (h.still hu).fleeting
  | ok events =>
      refine ((h.still hu).write (a.pathFor thing) (renderLog events)).bind ?_
      rintro written v ⟨hlasting, hfirm, -⟩
      cases written with
      | error cause => exact hlasting.fleeting
      | ok _ =>
          rcases a.bucket with _ | bucket
          · exact hlasting.fleeting
          refine (still_request _ v).bind fun uploaded x hx => ?_
          cases uploaded with
          | error cause => exact (hlasting.still hx).fleeting
          | ok _ =>
              -- The log is one more path that can be removed.
              have hlog : Fleeting key (a.pathFor thing :: paths) v :=
                ⟨hlasting.apart, List.forall_mem_cons.mpr
                  ⟨(hfirm rfl).harmless, hlasting.fleeting.harmless⟩⟩
              refine ((hlog.still hx).remove List.mem_cons_self).bind ?_
              rintro _ y ⟨hfleeting, -⟩
              exact ⟨hfleeting.apart, (List.forall_mem_cons.mp hfleeting.harmless).2⟩

theorem settle_fleeting (h : Lasting key paths t) (s : RunSettings) (identity : Identity)
    (outcome : Except SuiteFailure PollReport) :
    Ensures (filmed (twofold key)) (settle s identity outcome) t fun _ u =>
      Fleeting key paths u := by
  have hdown : ∀ result : SuiteResult,
      Ensures (filmed (twofold key)) (do let _ ← deprovision identity.thingName; pure result) t
        fun _ u => Fleeting key paths u := by
    intro result
    refine (still_aside (aside_deprovision _) t).bind fun _ u hu => ?_
    exact (h.still hu).fleeting
  cases outcome with
  | error failure => exact hdown failure.result
  | ok report =>
      rw [settle, conclude]
      cases Verdict.ofStatus report.status with
      | passed => exact hdown (.passed report.status)
      | failed => exact (keepUrl_fleeting h _ _ _).bind fun _ u hu => hu

/-- With the credentials the key is removed. -/
theorem removeCredentials_same {certificatePath : Path}
    (h : Fleeting key [certificatePath, key] t) :
    Ensures (filmed (twofold key)) (removeCredentials certificatePath key) t
      fun _ (u : Reel) => Same key u.first u.2 := by
  refine (h.remove List.mem_cons_self).bind ?_
  rintro certificate u ⟨hu, -⟩
  refine (hu.remove (List.mem_cons_of_mem _ List.mem_cons_self)).bind ?_
  rintro answer v ⟨-, hsame⟩
  rcases certificate with e | _
  · exact hsame (Or.inl rfl)
  · rcases answer with e | _ <;> exact hsame (Or.inl rfl)

/-- At the end of a suite the key is gone, whatever has become of the suite. -/
theorem runSuite_same (s : RunSettings) (suite : Suite) (h : Same s.keyPath t.first t.2) :
    Ensures (filmed (twofold s.keyPath)) (runSuite s suite) t
      fun _ (u : Reel) => Same s.keyPath u.first u.2 := by
  have hname : Only Aside (question .freshName) := only_question trivial
  refine (still_aside hname t).bind fun fresh u hu => ?_
  refine (provision_apart (s.specification (s.thingNamePrefix ++ fresh))
    (h.still hu)).attempt ?_ ?_
  · intro cause v hv
    exact hv
  · rintro identity v ⟨hlasting, hkey⟩
    refine (still_aside (exercise_aside s suite identity) v).bind fun outcome x hx => ?_
    refine (settle_fleeting (hlasting.still hx) s identity outcome).bind fun result y hy => ?_
    have hpath : identity.keyPath = s.keyPath := hkey
    rw [hpath] at hy ⊢
    exact (removeCredentials_same hy).bind fun _ z hz => hz

theorem runSuites_same (s : RunSettings) (suites : List Suite) (reports : List SuiteReport)
    (h : Same s.keyPath t.first t.2) :
    Ensures (filmed (twofold s.keyPath)) (runSuites s reports suites) t
      fun _ (u : Reel) => Same s.keyPath u.first u.2 := by
  induction suites generalizing reports t with
  | nil => exact h
  | cons suite rest ih =>
      unfold runSuites
      split
      · exact ih _ h
      · refine (runSuite_same s suite h).bind fun answer u hu => ?_
        cases answer with
        | error cause => exact hu
        | ok report => exact ih _ hu

/-! ## Two runs -/

/-- The certificates that are issued in a conversation, in order. -/
def issuedIn (talk : List Exchange) : List Certificate :=
  talk.filterMap issuedAt?

theorem launched?_veiled (e : Exchange) : launched? (veiled view e) = launched? e := by
  rcases e with ⟨q, answer⟩
  cases q <;> rfl

/-- What is shown of a certificate has nothing to do with its key. -/
theorem describe_issuedAt?_veiled (e : Exchange) :
    (issuedAt? (veiled view e)).map Certificate.describe
      = (issuedAt? e).map Certificate.describe := by
  rcases e with ⟨q, answer⟩
  cases q with
  | service r =>
      cases r with
      | createCertificate => cases answer <;> rfl
      | _ => rfl
  | _ => rfl

/-- What is read off exchanges without keys is the same in two conversations that differ in
    keys. -/
theorem filterMap_of_veiled {β : Type} {f : Exchange → Option β}
    (hf : ∀ e, f (veiled view e) = f e) {talk talk' : List Exchange}
    (h : talk'.map (veiled view) = talk.map (veiled view)) :
    talk'.filterMap f = talk.filterMap f := by
  have hcompose : f ∘ veiled view = f := funext hf
  rw [← hcompose, ← List.filterMap_map, ← List.filterMap_map, h]

theorem requestsIn_veiled (talk : List Exchange) :
    requestsIn (talk.map (veiled view)) = requestsIn talk := by
  have hrequests : ∀ e, (veiled view e).1.requests = e.1.requests := by
    rintro ⟨q, answer⟩
    cases q <;> rfl
  simp only [requestsIn, List.flatMap_map, hrequests]

variable {σ σ' α : Type}

/-- A run on a test bench on which file calls may fail: its result, and the bench afterwards. -/
def Bench.run (view : ServiceError → ServiceError) (service : Service σ) (lapses : Lapses)
    (p : Program α) (b : Bench σ) : α × Bench σ :=
  let done := p.run (Bench.faltering view service lapses) ([], b)
  (done.1, done.2.2)

/-- The conversation of the run. -/
def Bench.talk (view : ServiceError → ServiceError) (service : Service σ) (lapses : Lapses)
    (p : Program α) (b : Bench σ) : List Exchange :=
  (moments (Bench.faltering view service lapses) p ([], b)).map Moment.exchange

/-- Its moments, with the files at each of them. -/
def Bench.film (view : ServiceError → ServiceError) (service : Service σ) (lapses : Lapses)
    (p : Program α) (b : Bench σ) : List (Moment Workspace) :=
  (moments (Bench.faltering view service lapses) p ([], b)).map (Moment.seen fun t => t.2.files)

/-- Two runs on two test benches differ in nothing but private keys: they have the same result
    and the same conversation but for these and for what a view hides, and so the same requests,
    the same launches and certificates that look the same; the benches are alike afterwards, and
    the files are as `leaves` has it. -/
structure Indistinct (view : ServiceError → ServiceError) (service : Service σ)
    (service' : Service σ') (rel : σ → σ' → Prop) (lapses : Lapses) (p : Program α)
    (blur : α → α) (b : Bench σ) (b' : Bench σ')
    (leaves : α → List (Moment Workspace) × (Workspace × Workspace) → Prop) : Prop where
  result : blur (b'.run view service' lapses p).1 = blur (b.run view service lapses p).1
  talk : (b'.talk view service' lapses p).map (veiled view)
    = (b.talk view service lapses p).map (veiled view)
  requests : requestsIn (b'.talk view service' lapses p)
    = requestsIn (b.talk view service lapses p)
  launches : launchesIn (b'.talk view service' lapses p)
    = launchesIn (b.talk view service lapses p)
  certificates : (issuedIn (b'.talk view service' lapses p)).map Certificate.describe
    = (issuedIn (b.talk view service lapses p)).map Certificate.describe
  bench : (b.run view service lapses p).2.Alike rel (b'.run view service' lapses p).2
  files : leaves (b.run view service lapses p).1 (b.film view service lapses p,
    (b.run view service lapses p).2.files, (b'.run view service' lapses p).2.files)

variable {service : Service σ} {service' : Service σ'} {rel : List Request → σ → σ' → Prop}
  {lapses : Lapses} {blur : α → α}

/-- Programs that are veiled run indistinctly. -/
theorem indistinct_of_veiled (hmirror : service.Mirrors view service' rel) {p : Program α}
    (hp : Veiled view key blur p p) {b : Bench σ} {b' : Bench σ'}
    (hbench : b.Alike (rel (requestsIn (b.talk view service lapses p))) b')
    (hfiles : b'.files = b.files) (hspares : SparesWritten lapses key)
    {leaves : α → List (Moment Workspace) × (Workspace × Workspace) → Prop}
    (hleaves : ∀ t : Reel, Same key t.first t.2 →
      Ensures (filmed (twofold key)) p t fun a (u : Reel) => leaves a (u.first, u.2)) :
    Indistinct view service service' (rel []) lapses p blur b b' leaves := by
  have hsame : b.files.Resembles (fun _ => False) b'.files := hfiles ▸ Workspace.Resembles.refl _
  have hcoupled : Coupled (rel (requestsIn (b.talk view service lapses p))) key
      (([], b) : Faltering σ) (([], b') : Faltering σ') := ⟨rfl, hbench, ⟨_, hsame⟩, fun _ => hsame⟩
  have hstart : Ensures (filmed (twofold key)) p ([], b.files, b'.files) fun a (u : Reel) =>
      leaves a (u.first, u.2) := hleaves ([], b.files, b'.files) (hsame.mono fun _ => False.elim)
  rcases veiled_run hmirror hspares hp hcoupled hstart with
    ⟨hresult, htalk, hends, reel, hreel, hleft⟩
  rw [← List.map_map, ← List.map_map] at htalk
  refine ⟨hresult, htalk, ?_, filterMap_of_veiled launched?_veiled htalk, ?_, hends.bench, ?_⟩
  · rw [← requestsIn_veiled (b'.talk view service' lapses p),
      ← requestsIn_veiled (b.talk view service lapses p)]
    exact congrArg requestsIn htalk
  · unfold issuedIn
    rw [List.map_filterMap, List.map_filterMap]
    exact filterMap_of_veiled describe_issuedAt?_veiled htalk
  · unfold Bench.film
    rw [← hreel]
    exact hleft

/-- With two services setups and campaigns run indistinctly from the same files, whatever files
    these are and whichever file calls fail, as long as a key that was written can be removed.
    After a setup nothing but the bytes of the key can differ, and nothing at all if it failed;
    nor is there anything that differs after a campaign. The one exception is where keys went
    astray in the first run. -/
def KeepsKeysSecret (view : ServiceError → ServiceError) (service : Service σ)
    (service' : Service σ') (rel : List Request → σ → σ' → Prop) : Prop :=
  ∀ (lapses : Lapses) (b : Bench σ) (b' : Bench σ'), b'.files = b.files →
    (∀ spec : Specification, SparesWritten lapses spec.keyPath →
      b.Alike (rel (requestsIn (b.talk view service lapses (provision spec)))) b' →
      Indistinct view service service' (rel []) lapses (provision spec)
        (Except.mapError (ProvisionError.viewed view)) b b'
        (Attempt (fun _ t => Same spec.keyPath t.1 t.2) fun _ t => Apart spec.keyPath t.1 t.2)) ∧
    ∀ (s : RunSettings) (file : SuiteFile), SparesWritten lapses s.keyPath →
      b.Alike (rel (requestsIn (b.talk view service lapses (runCampaign s file)))) b' →
      Indistinct view service service' (rel []) lapses (runCampaign s file)
        (Except.mapError (SetupFailure.viewed view)) b b' fun _ t => Same s.keyPath t.1 t.2

theorem keepsKeysSecret_of_mirrors (hmirror : service.Mirrors view service' rel) :
    KeepsKeysSecret view service service' rel := by
  intro lapses b b' hfiles
  constructor
  · intro spec hspares hbench
    refine indistinct_of_veiled hmirror (veiled_provision spec) hbench hfiles hspares ?_
    intro t ht
    refine (provision_apart spec ht).mono fun answer u hu => ?_
    cases answer with
    | error e => exact hu
    | ok identity => exact hu.lasting.apart
  · intro s file hspares hbench
    refine indistinct_of_veiled hmirror (veiled_runSuites s file.suites []) hbench hfiles hspares ?_
    intro t ht
    exact runSuites_same s file.suites [] ht

/-- A private key goes into the file at the key path and nowhere else, as far as can be told
    from two runs in which different keys are issued: with any two services that differ in
    these alone, and with the client if what is printed for a certificate differs in these alone.
    With a view that hides nothing (`id`) the results are equal. Only if the client cannot read a
    certificate the words of that failure are hidden, and not even these if they are the same for
    both outputs. -/
theorem private_keys_kept_secret :
    (∀ (view : ServiceError → ServiceError) (σ σ' : Type) (service : Service σ)
      (service' : Service σ') (rel : List Request → σ → σ' → Prop),
      service.Mirrors view service' rel → KeepsKeysSecret view service service' rel) ∧
    ∀ (client : Client) (wordings : Client.Wordings),
      KeepsKeysSecret ServiceError.hushed (client.serviceIn wordings Script.runner)
        (client.serviceIn wordings Script.runner) (Script.Comparable CommandOutput.Rekeyed) ∧
      KeepsKeysSecret id (client.serviceIn wordings Script.runner)
        (client.serviceIn wordings Script.runner)
        (Script.Comparable fun o o' => o.Rekeyed o' ∧ o.WordedAlike wordings o') := by
  refine ⟨fun _ _ _ _ _ _ => keepsKeysSecret_of_mirrors, fun client wordings => ⟨?_, ?_⟩⟩
  · refine keepsKeysSecret_of_mirrors (client.mirrors_rekeyed (fun _ _ h => h) ?_)
    intros
    rfl
  · refine keepsKeysSecret_of_mirrors (client.mirrors_rekeyed (fun _ _ h => h.1) ?_)
    rintro o o' ⟨-, hworded⟩ label e
    rw [hworded]

/-- A command that succeeds and prints a document. -/
def CommandOutput.printing (document : Json.Value) : CommandOutput :=
  ⟨some 0, document.render, ""⟩

/-- The certificate that is printed in a setup, with other members before its key. -/
def printedCertificate (others : List (String × Json.Value)) (privateKey : String) : Json.Value :=
  .object (others ++ [("keyPair", .object [("PrivateKey", .string privateKey)])])

/-- What the client is given to read in a setup in which a key is issued. -/
def setupScript (others : List (String × Json.Value)) (privateKey : String) : Script where
  responses :=
    [.printing (.object [("thingName", .string "thing"), ("thingArn", .string "arn:thing")]),
      .printing (printedCertificate others privateKey), ⟨some 0, "", ""⟩, ⟨some 0, "", ""⟩]
  invocations := []

/-- A test bench on which the client runs by such a script. -/
def setupBench (others : List (String × Json.Value)) (privateKey : String) : Bench Script where
  service := setupScript others privateKey
  files := ⟨.empty, []⟩
  companions := ⟨[], []⟩
  clock := ⟨[], []⟩
  names := []

/-- Words that name the place where a document in one line ends, as the reader does if a member
    of its object is missing. -/
def Json.Wording.ending : Json.Wording := fun text e =>
  e.message ++ " at line 1 column " ++ toString text.utf8ByteSize

/-- The client in such a setup. -/
def setupService : Service Script :=
  Client.serviceIn ⟨"aws", "eu-west-1"⟩ (fun _ => .ending) Script.runner

def setupSpecification : Specification :=
  ⟨"thing", "policy", none, ⟨"cert"⟩, ⟨"key"⟩⟩

theorem rekeyed_printedCertificate (others : List (String × Json.Value))
    (privateKey other : String) :
    (CommandOutput.printing (printedCertificate others privateKey)).Rekeyed
      (.printing (printedCertificate others other)) := by
  refine ⟨rfl, rfl, ?_, ?_⟩ <;> simp only [CommandOutput.printing, Json.read_render]
  simp only [printedCertificate, Json.Value.node, Json.memberNodes_append, Json.memberNodes]
  exact .object _ [] true rfl (.object [] [] true rfl rfl)

/-- Whatever comes after the first two requests, only the second may be for a certificate. -/
theorem comparable_setupScript (others : List (String × Json.Value)) (privateKey other : String)
    (first : Request) {rest : List Request} (hrest : rest.length ≤ 2) :
    (setupScript others privateKey).Comparable CommandOutput.Rekeyed
      (first :: .createCertificate :: rest) (setupScript others other) := by
  refine ⟨.same _ _ (.certificate (rekeyed_printedCertificate others privateKey other) ?_), rfl⟩
  rcases rest with _ | ⟨r, _ | ⟨r', _ | ⟨r'', rest⟩⟩⟩
  · exact .done _ _
  · exact .same _ _ (.done _ _)
  · exact .same _ _ (.same _ _ (.done _ _))
  · exact absurd hrest (by simp)

/-- The simulated services, with one private key for all certificates. -/
def Cloud.keyed (privateKey : String) : Service Cloud
  | .createCertificate, c =>
    let (answer, c) := Cloud.service .createCertificate c
    (answer.map fun certificate => { certificate with privateKey := privateKey }, c)
  | r, c => Cloud.service r c

theorem mirrors_keyed (privateKey other : String) :
    (Cloud.keyed privateKey).Mirrors view (Cloud.keyed other) fun _ c c' => c' = c := by
  rintro r rest _ c rfl
  cases r with
  | createCertificate =>
      refine ⟨?_, rfl⟩
      simp only [Cloud.keyed, Request.veil]
      rcases (Cloud.service .createCertificate c).1 with e | certificate <;> rfl
  | _ => exact ⟨rfl, rfl⟩

/-- The members of a certificate beside its keys. -/
def certificateMembers : List (String × Json.Value) :=
  [("certificateArn", .string "arn:cert/1"), ("certificateId", .string "1"),
    ("certificatePem", .string "pem")]

/-- Two setups write two keys, and are the same in everything else. So are two campaigns, after
    which no key is left. -/
theorem private_keys_kept_secret_scripted :
    let setup := provision setupSpecification
    let b := setupBench certificateMembers "first"
    let b' := setupBench certificateMembers "second"
    ((b.run .hushed setupService (fun _ _ => none) setup).2.files.tree.get? ["key"]).bind
        Entry.file? = some ("first".toUTF8, privateMode) ∧
      ((b'.run .hushed setupService (fun _ _ => none) setup).2.files.tree.get? ["key"]).bind
        Entry.file? = some ("second".toUTF8, privateMode) ∧
      Indistinct .hushed setupService setupService (Script.Comparable CommandOutput.Rekeyed [])
        (fun _ _ => none) setup (Except.mapError (ProvisionError.viewed .hushed)) b b'
        (Attempt (fun _ t => Same ⟨"key"⟩ t.1 t.2) fun _ t => Apart ⟨"key"⟩ t.1 t.2) ∧
      Indistinct id (Cloud.keyed "first") (Cloud.keyed "second") (fun c c' => c' = c)
        (fun _ _ => none) (runCampaign briefSettings twoSuites)
        (Except.mapError (SetupFailure.viewed id)) runningBench runningBench
        fun _ t => Same ⟨"key"⟩ t.1 t.2 := by
  refine ⟨by decide +kernel, by decide +kernel, ?_, ?_⟩
  · have hrequests : requestsIn ((setupBench certificateMembers "first").talk .hushed setupService
        (fun _ _ => none) (provision setupSpecification)) = [.createThing "thing",
          .createCertificate, .attachPolicy "policy" "arn:cert/1",
          .attachPrincipal "thing" "arn:cert/1"] := by
      decide +kernel
    refine ((private_keys_kept_secret.2 ⟨"aws", "eu-west-1"⟩ fun _ => .ending).1 (fun _ _ => none)
      (setupBench certificateMembers "first") (setupBench certificateMembers "second") rfl).1
      setupSpecification (fun _ _ => rfl) ⟨?_, rfl, rfl, rfl⟩
    change (setupScript certificateMembers "first").Comparable CommandOutput.Rekeyed (requestsIn
      ((setupBench certificateMembers "first").talk .hushed setupService (fun _ _ => none)
        (provision setupSpecification))) (setupScript certificateMembers "second")
    rw [hrequests]
    exact comparable_setupScript certificateMembers "first" "second" _ (by decide)
  · exact (private_keys_kept_secret.1 id Cloud Cloud (Cloud.keyed "first") (Cloud.keyed "second")
      (fun _ c c' => c' = c) (mirrors_keyed "first" "second") (fun _ _ => none) runningBench
      runningBench rfl).2 briefSettings twoSuites (fun _ _ => rfl) ⟨rfl, rfl, rfl, rfl⟩

/-- The words of a failure, if there is one. -/
def failureWords {α : Type} : Except ProvisionError α → String
  | .error e => e.message
  | .ok _ => ""

/-- Two keys can be told apart in two cases. If the document with the key lacks another member,
    the setups fail with different errors for a shorter and a longer key. And if a key takes the
    place of a link that its own path leads through, campaigns with different keys leave
    different files. -/
theorem private_keys_leave_traces :
    (let setup := provision setupSpecification
      let b := setupBench [("certificateArn", .string "arn:cert/1")] "short"
      let b' := setupBench [("certificateArn", .string "arn:cert/1")] "longer"
      b.Alike (Script.Comparable CommandOutput.Rekeyed
          (requestsIn (b.talk id setupService (fun _ _ => none) setup))) b' ∧
        (b'.run id setupService (fun _ _ => none) setup).1
          ≠ (b.run id setupService (fun _ _ => none) setup).1) ∧
      (Cloud.keyed "first").Mirrors id (Cloud.keyed "second") (fun _ c c' => c' = c) ∧
      let campaign := runCampaign strandingSettings oneSuite
      ((strandingBench.run id (Cloud.keyed "first") (fun _ _ => none) campaign).2.files.tree.get?
          ["x"]).bind Entry.file? = some ("first".toUTF8, privateMode) ∧
        ((strandingBench.run id (Cloud.keyed "second") (fun _ _ => none) campaign).2.files.tree.get?
          ["x"]).bind Entry.file? = some ("second".toUTF8, privateMode) := by
  refine ⟨⟨⟨?_, rfl, rfl, rfl⟩, fun hsame => ?_⟩, mirrors_keyed "first" "second", ?_⟩
  · have hrequests : requestsIn ((setupBench [("certificateArn", .string "arn:cert/1")]
        "short").talk id setupService (fun _ _ => none) (provision setupSpecification)) =
          [.createThing "thing", .createCertificate, .listPrincipals "thing"] := by
      decide +kernel
    rw [hrequests]
    exact comparable_setupScript _ "short" "longer" _ (by decide)
  · have hwords := congrArg failureWords hsame
    revert hwords
    decide +kernel
  · exact ⟨by decide +kernel, by decide +kernel⟩

end Qualifier
