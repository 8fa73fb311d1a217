import Qualifier.Config.Settings
import Qualifier.Proofs.Identity.Provided
import Qualifier.Proofs.Identity.Rollback
import Qualifier.Proofs.Storage.Severance

/-!
# The Credentials of a Completed Setup

Whether the files that a completed setup has written can be used: the certificate is read
under its path, and the key is in a file of its owner only under the other one. Nothing is
assumed of the services; the certificate that matters is the one that was issued.

What comes of the files is `Lodged`, so it is the two paths that matter, and what lies there
before. No check of a configuration compares the paths: it may name one path twice, or a
link to the key as the place of the certificate. In the second case the certificate is
written through the link, and the key takes its place.

## Main definitions

* `Supplied`: An identity with its certificate and its files.
* `readsIssued`: Whether a part of the certificate is read where the certificate should be.

## Theorems

* `supplied_attach`, `supplied_deliver`, `supplied_certify`, `supplied_complete`: The stages.
* `provision_usable`: A completed setup has lodged the credentials it was issued.
* `provision_reads_key_as_certificate`: Where the certificate's path is a link to the key.
-/

namespace Qualifier

open Program Storage Simulated

/-- An identity that was set up has the certificate that was issued, and its files are
    lodged where it says. -/
def Supplied (spec : Specification) (begun : Workspace) (identity : Identity)
    (t : List Exchange × Workspace) : Prop :=
  ∃ thing certificate, identity = spec.identity thing certificate ∧
    certificateIn t.1 = some certificate ∧
    begun.Lodged identity.certificatePath identity.keyPath certificate.pem certificate.privateKey
      t.2

theorem certificateIn_concat (talk : List Exchange) (x : Exchange) :
    certificateIn (talk ++ [x]) = (certificateIn talk).or (issuedAt? x) := by
  unfold certificateIn
  rw [List.findSome?_append, List.findSome?_singleton]

variable {s : List Exchange × Workspace} {spec : Specification} {thing : Thing}
  {certificate : Certificate} {begun : Workspace}

/-- A request is written down, and the files stay as they are. -/
theorem ensures_said (r : Request) (s : List Exchange × Workspace) :
    Ensures Workspace.behaviour.recorded (request r) s fun answer t =>
      t = (s.1 ++ [⟨.service r, answer⟩], s.2) := by
  rintro answer ⟨talk, w⟩ ⟨htalk, hfiles⟩
  exact Prod.ext htalk hfiles

theorem supplied_attach (hissued : certificateIn s.1 = some certificate)
    (hfiles : begun.Lodged spec.certificatePath spec.keyPath certificate.pem
      certificate.privateKey s.2) :
    Ensures Workspace.behaviour.recorded (attach spec thing certificate) s
      (Attempt (fun _ _ => True) (Supplied spec begun)) := by
  refine (ensures_said _ s).bind ?_
  rintro policy _ rfl
  cases policy with
  | error cause => trivial
  | ok _ =>
      refine (ensures_said _ _).bind ?_
      rintro principal _ rfl
      cases principal with
      | error cause => trivial
      | ok _ =>
          refine ⟨thing, certificate, rfl, ?_, hfiles⟩
          rw [certificateIn_concat, certificateIn_concat, hissued]
          rfl

theorem supplied_deliver (hissued : certificateIn s.1 = some certificate) :
    Ensures Workspace.behaviour.recorded (deliver spec thing certificate) s
      (Attempt (fun _ _ => True) (Supplied spec s.2)) := by
  refine (ensures_question_bind _ _ _ _ _).mpr ?_
  rintro first ⟨talk, w⟩ ⟨htalk, hfirst⟩
  cases first with
  | error cause => trivial
  | ok _ =>
      refine (ensures_question_bind _ _ _ _ _).mpr ?_
      rintro second ⟨talk', w'⟩ ⟨htalk', hsecond⟩
      cases second with
      | error cause => trivial
      | ok _ =>
          have hwritten := Workspace.done_of_ok hfirst
          have hwritten' := Workspace.done_of_ok hsecond
          refine supplied_attach ?_ (Workspace.lodged_of_writes hwritten hwritten')
          rw [show talk' = _ from htalk', certificateIn_concat, show talk = _ from htalk,
            certificateIn_concat, hissued]
          rfl

theorem supplied_certify (hbefore : certificateIn s.1 = none) :
    Ensures Workspace.behaviour.recorded (certify spec thing) s
      (Attempt (fun _ _ => True) (Supplied spec s.2)) := by
  refine (ensures_said _ s).bind ?_
  rintro issued _ rfl
  cases issued with
  | error cause => trivial
  | ok certificate =>
      refine supplied_deliver ?_
      rw [certificateIn_concat, hbefore]
      rfl

theorem supplied_complete (hbefore : certificateIn s.1 = none) :
    Ensures Workspace.behaviour.recorded (complete spec thing) s
      (Attempt (fun _ _ => True) (Supplied spec s.2)) := by
  unfold complete
  cases spec.group with
  | none => exact supplied_certify hbefore
  | some group =>
      refine (ensures_said _ s).bind ?_
      rintro grouped _ rfl
      cases grouped with
      | error cause => trivial
      | ok _ =>
          refine supplied_certify ?_
          rw [certificateIn_concat, hbefore]
          rfl

/-- A completed setup is supplied with the certificate that was issued in it. -/
theorem ensures_supplied (spec : Specification) (s : List Exchange × Workspace)
    (hbefore : certificateIn s.1 = none) :
    Ensures Workspace.behaviour.recorded (provision spec) s
      (Attempt (fun _ _ => True) (Supplied spec s.2)) := by
  refine (ensures_said _ s).bind ?_
  rintro registered _ rfl
  cases registered with
  | error cause => trivial
  | ok thing =>
      have hissued : certificateIn (s.1 ++ [⟨.service (.createThing spec.thing), .ok thing⟩])
          = none := by
        rw [certificateIn_concat, hbefore]
        rfl
      refine (supplied_complete hissued).attempt ?_ ?_
      · intro setback t _
        exact (ensures_true _ (rollback spec.thing setback) t).bind fun _ _ _ => trivial
      · exact fun identity t hsupplied => hsupplied

/-- When a setup is completed, the certificate that was issued is read under the path the
    identity gives for it, and its key is in a file of its owner only under the other path.
    There are two exceptions. If both paths lead to one file, this holds the key; and a path
    that went through a link whose place the key has taken leads nowhere any more. -/
theorem provision_usable {τ : Type} (w : World τ) (files : τ → Workspace)
    (hfiles : w.Admits files Workspace.behaviour) (spec : Specification) (start : τ) :
    let run := (provision spec).run (recording w) ([], start)
    ∀ identity, run.1 = .ok identity →
      ∃ certificate, certificateIn run.2.1 = some certificate ∧
        identity.certificateId = certificate.id ∧
        identity.certificatePath = spec.certificatePath ∧ identity.keyPath = spec.keyPath ∧
        (files start).Lodged identity.certificatePath identity.keyPath certificate.pem
          certificate.privateKey (files run.2.2) := by
  intro run identity hok
  have hsupplied := run_of_ensures (s := ([], start)) (admits_recording hfiles)
    (ensures_supplied spec ([], files start) rfl)
  rw [show ((provision spec).run (recording w) ([], start)).1 = .ok identity from hok]
    at hsupplied
  rcases hsupplied with ⟨thing, certificate, rfl, hissued, hlodged⟩
  exact ⟨certificate, hissued, rfl, rfl, rfl, hlodged⟩

/-- Whether a setup was completed and one part of the certificate that was issued is read
    under the path of the certificate. -/
def readsIssued (part : Certificate → String)
    (done : Except ProvisionError Identity × List Exchange × Bench Cloud) : Bool :=
  match done.1, certificateIn done.2.1 with
  | .ok identity, some certificate =>
    (done.2.2.files.read identity.certificatePath).toOption = some (part certificate)
  | _, _ => false

theorem of_readsIssued {part : Certificate → String}
    {done : Except ProvisionError Identity × List Exchange × Bench Cloud}
    (h : readsIssued part done = true) :
    ∃ identity certificate, done.1 = .ok identity ∧ certificateIn done.2.1 = some certificate ∧
      done.2.2.files.read identity.certificatePath = .ok (part certificate) := by
  unfold readsIssued at h
  rcases hdone : done.1 with failure | identity
  · rw [hdone] at h
    exact absurd h (by simp)
  rcases hissued : certificateIn done.2.1 with _ | certificate
  · rw [hdone, hissued] at h
    exact absurd h (by simp)
  rw [hdone, hissued] at h
  refine ⟨identity, certificate, rfl, rfl, ?_⟩
  rcases hread : done.2.2.files.read identity.certificatePath with fault | text
  · simp [hread, Except.toOption] at h
  · simp only [hread, Except.toOption, decide_eq_true_eq, Option.some.injEq] at h
    rw [h]

/-- A configuration in which the certificate is to lie beside its key. -/
def besideConfig : Config :=
  { policyName := some "policy", certificatePath := "cert", keyPath := "key" }

/-- The identity that is wanted under such a configuration. -/
def besideSpecification : Specification :=
  ⟨"thing", "policy", none, ⟨besideConfig.certificatePath⟩, ⟨besideConfig.keyPath⟩⟩

/-- A test bench without things or certificates, and with some files. -/
def benchOver (tree : Tree) : Bench Cloud where
  service := Cloud.new
  files := ⟨tree, []⟩
  companions := ⟨[], []⟩
  clock := ⟨[], []⟩
  names := []

/-- A test bench on which the key is to lie where there is a link to another file. -/
def linkedKeyBench : Bench Cloud :=
  benchOver ((Tree.empty.put ["old"] (.file "old".toUTF8 ordinaryMode)).put ["key"] (.link "old"))

/-- There the key takes the place of the link, and the certificate is read all the same. -/
theorem provision_usable_over_link :
    let done := (provision besideSpecification).run (recording (Bench.world Cloud.service))
      ([], linkedKeyBench)
    ∃ identity certificate, done.1 = .ok identity ∧ certificateIn done.2.1 = some certificate ∧
      identity.certificateId = certificate.id ∧
      linkedKeyBench.files.Lodged identity.certificatePath identity.keyPath certificate.pem
        certificate.privateKey done.2.2.files ∧
      done.2.2.files.read identity.certificatePath = .ok certificate.pem ∧
      done.2.2.files.found? identity.keyPath
        = some (.file certificate.privateKey.toUTF8 privateMode) := by
  have hread : readsIssued Certificate.pem ((provision besideSpecification).run
      (recording (Bench.world Cloud.service)) ([], linkedKeyBench)) = true := by
    decide +kernel
  have hfound : (((provision besideSpecification).run (recording (Bench.world Cloud.service))
      ([], linkedKeyBench)).2.2.files.found? besideSpecification.keyPath).isSome = true := by
    decide +kernel
  have husable := provision_usable (Bench.world Cloud.service) Bench.files
    (Workspace.admits_files Cloud.service) besideSpecification linkedKeyBench
  generalize (provision besideSpecification).run (recording (Bench.world Cloud.service))
    ([], linkedKeyBench) = done at hread hfound husable ⊢
  rcases of_readsIssued hread with ⟨identity, certificate, hidentity, hissued, hpem⟩
  rcases husable identity hidentity with ⟨other, hother, hid, -, hkeyPath, hlodged⟩
  obtain rfl : certificate = other := Option.some.inj (hissued.symm.trans hother)
  refine ⟨identity, certificate, hidentity, hissued, hid, hlodged, hpem, ?_⟩
  rcases hlodged with ⟨loc, hat⟩
  rcases hat.second with hkey | ⟨-, hnone⟩
  · exact hkey
  · rw [← hkeyPath, hnone] at hfound
    exact absurd hfound (by simp)

/-- A test bench on which there is a key already, and a link to it where the certificate is
    to lie. -/
def linkedPairBench : Bench Cloud :=
  benchOver ((Tree.empty.put ["key"] (.file "old".toUTF8 ordinaryMode)).put ["cert"] (.link "key"))

/-- There the certificate is written through the link, and the key takes its place. -/
theorem provision_reads_key_as_certificate :
    besideConfig.validate = .ok () ∧
      let done := (provision besideSpecification).run (recording (Bench.world Cloud.service))
        ([], linkedPairBench)
      ∃ identity certificate, done.1 = .ok identity ∧
        certificateIn done.2.1 = some certificate ∧
        done.2.2.files.read identity.certificatePath = .ok certificate.privateKey ∧
        certificate.privateKey ≠ certificate.pem := by
  have hread : readsIssued Certificate.privateKey ((provision besideSpecification).run
      (recording (Bench.world Cloud.service)) ([], linkedPairBench)) = true := by
    decide +kernel
  have hdistinct : (certificateIn ((provision besideSpecification).run
      (recording (Bench.world Cloud.service)) ([], linkedPairBench)).2.1).all
        (fun certificate => certificate.privateKey ≠ certificate.pem) = true := by
    decide +kernel
  refine ⟨by decide +kernel, ?_⟩
  generalize (provision besideSpecification).run (recording (Bench.world Cloud.service))
    ([], linkedPairBench) = done at hread hdistinct ⊢
  rcases of_readsIssued hread with ⟨identity, certificate, hidentity, hissued, hkey⟩
  rw [hissued] at hdistinct
  exact ⟨identity, certificate, hidentity, hissued, hkey, of_decide_eq_true hdistinct⟩

end Qualifier
