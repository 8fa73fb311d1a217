import Qualifier.Proofs.Campaign.Disposition
import Qualifier.Proofs.Outside.Together
import Qualifier.Proofs.Registry.Alike

/-!
# Clean-Up Makes No Difference

Two runs of one campaign, on test benches that differ in nothing but what is queued for
the operations that clear up. A teardown may fail in one run and not in the other, and
from then on the clouds are different. The reports are the same all the same, and so are
the launches.

Up to its teardown a suite does the same in both runs. It works on a thing of its own,
registered under a name that was not used before, and the clouds are alike but for the
names that were (`Abreast`). The teardown is done in each run as far as it goes, and its
outcome is not looked at. After it the clouds are alike but for one more name, and this
is where the next suite begins. The names have to be different for this, since a thing
that was left behind is in the way of another one under its name.

## Main definitions

* `BenchesAlike`: Two test benches alike but for some names.
* `Abreast`: The same in the middle of a suite.

## Theorems

* `BenchesAlike.teardown`: A teardown in each of two runs.
* `BenchesAlike.provision`: Setting an identity up in both.
* `BenchesAlike.runSuite`, `BenchesAlike.runSuites`: Suites in both.
* `runCampaign_independent`: The reports and the launches are the same.
-/

namespace Qualifier

open Program Simulated Cloud

/-- Two test benches with the same names to come, alike but for the names that were
    taken. -/
structure BenchesAlike (taken names : List String) (b b' : Bench Cloud) : Prop where
  names : b.names = names
  service : Alike taken b.service b'.service
  rest : b' = { b with service := b'.service }

/-- Two such test benches in the middle of a suite, which is equipped in both. -/
structure Abreast (taken names : List String) (name : String) (ids : List String)
    (b b' : Bench Cloud) : Prop extends BenchesAlike taken names b b' where
  fresh : name ∉ taken
  left : b.service.Equips name ids
  right : b'.service.Equips name ids

variable {taken taken' names : List String} {name : String} {ids : List String}
  {b b' : Bench Cloud}

theorem BenchesAlike.symm (h : BenchesAlike taken names b b') : BenchesAlike taken names b' b where
  names := by
    rw [h.rest]
    exact h.names
  service := h.service.symm
  rest := by
    rw [h.rest]

theorem BenchesAlike.trans {b'' : Bench Cloud} (h : BenchesAlike taken names b b')
    (h' : BenchesAlike taken names b' b'') : BenchesAlike taken names b b'' where
  names := h.names
  service := h.service.trans h'.service
  rest := by
    rw [h'.rest, h.rest]

theorem BenchesAlike.mono (h : BenchesAlike taken names b b') (hsub : taken ⊆ taken') :
    BenchesAlike taken' names b b' :=
  ⟨h.names, h.service.mono hsub, h.rest⟩

/-- A request that is answered alike in both runs. -/
theorem BenchesAlike.request (h : BenchesAlike taken names b b') {r : Request}
    (hsame : SameAt taken r (Cloud.service r b.service) (Cloud.service r b'.service)) :
    Together (Bench.world Cloud.service) (request r) b b' fun answer t t' =>
      BenchesAlike taken names t t' ∧ answer = (Cloud.service r b.service).1 ∧
        t.service = (Cloud.service r b.service).2 ∧
        t'.service = (Cloud.service r b'.service).2 := by
  refine ⟨hsame.1.symm, ⟨h.names, hsame.2, ?_⟩, rfl, rfl, rfl⟩
  exact congrArg (fun x : Bench Cloud => { x with service := (Cloud.service r b'.service).2 }) h.rest

theorem BenchesAlike.blind (h : BenchesAlike taken names b b') {q : Ask} (hq : blind q = true) :
    Together (Bench.world Cloud.service) (question q) b b' fun _ => BenchesAlike taken names := by
  cases q with
  | service r => exact (h.request (h.service.service_blind hq)).mono fun _ _ _ hdone => hdone.1
  | freshName => exact absurd hq Bool.false_ne_true
  | _ =>
      obtain ⟨c', rfl⟩ : ∃ c', b' = { b with service := c' } := ⟨_, h.rest⟩
      exact ⟨rfl, h.names, h.service, rfl⟩

theorem BenchesAlike.of_blind {α : Type} {p : Program α} (h : BenchesAlike taken names b b')
    (hp : Blind p) :
    Together (Bench.world Cloud.service) p b b' fun _ => BenchesAlike taken names :=
  together_of_only (fun _ hq _ _ hs => hs.blind hq) hp h

theorem Abreast.inStep (h : Abreast taken names name ids b b') {q : Ask}
    (hq : InStep name ids q) :
    Together (Bench.world Cloud.service) (question q) b b' fun _ =>
      Abreast taken names name ids := by
  cases q with
  | service r =>
      have hsame := h.service.service_inStep h.fresh h.left h.right hq
      refine (h.toBenchesAlike.request hsame).mono ?_
      rintro answer t t' ⟨hbenches, -, hleft, hright⟩
      refine ⟨hbenches, h.fresh, ?_, ?_⟩
      · rw [hleft]
        exact h.left.service (clearsUp_of_inStep hq)
      · rw [hright]
        exact h.right.service (clearsUp_of_inStep hq)
  | freshName => exact absurd hq Bool.false_ne_true
  | _ =>
      obtain ⟨c', rfl⟩ : ∃ c', b' = { b with service := c' } := ⟨_, h.rest⟩
      exact ⟨rfl, ⟨h.names, h.service, rfl⟩, h.fresh, h.left, h.right⟩

theorem Abreast.of_only {α : Type} {p : Program α} (h : Abreast taken names name ids b b')
    (hp : Only (InStep name ids) p) :
    Together (Bench.world Cloud.service) p b b' fun _ => Abreast taken names name ids :=
  together_of_only (fun _ hq _ _ hs => hs.inStep hq) hp h

/-- A teardown goes its own way in each run. -/
theorem BenchesAlike.teardown {α : Type} {about : String → Prop} {p : Program α}
    (h : BenchesAlike taken names b b') (hmem : name ∈ taken)
    (hp : Only (TearsDown name about) p) :
    BenchesAlike taken names (p.run (Bench.world Cloud.service) b).2
      (p.run (Bench.world Cloud.service) b').2 := by
  have halone : ∀ start : Bench Cloud, start.names = names →
      BenchesAlike taken names start (p.run (Bench.world Cloud.service) start).2 := by
    intro start hnames
    refine run_of_only (fun q hq s hs => hs.trans ?_) hp ⟨hnames, Alike.refl taken _, rfl⟩
    cases q with
    | service r =>
        refine ⟨?_, alike_of_tearsDown hq hmem s.service, rfl⟩
        rw [← hs.names, hs.rest]
    | _ => exact hq.elim
  exact ((halone b h.names).symm.trans h).trans (halone b' h.symm.names)

/-- After a teardown the runs are alike, and its outcome is lost. -/
theorem BenchesAlike.aside {α β : Type} {about : String → Prop} {p : Program α}
    {q : Program β} {post : β → Bench Cloud → Bench Cloud → Prop}
    (h : BenchesAlike taken names b b') (hmem : name ∈ taken)
    (hp : Only (TearsDown name about) p)
    (hq : ∀ t t', BenchesAlike taken names t t' →
      Together (Bench.world Cloud.service) q t t' post) :
    Together (Bench.world Cloud.service) (p >>= fun _ => q) b b' post :=
  .aside (hq _ _ (h.teardown hmem hp))

theorem BenchesAlike.rollback (h : BenchesAlike taken names b b') (hmem : name ∈ taken)
    (setback : Setback) :
    Together (Bench.world Cloud.service) (rollback name setback) b b' fun _ =>
      BenchesAlike taken names := by
  have hclear : ∀ t t', BenchesAlike taken names t t' →
      Together (Bench.world Cloud.service)
        (do removeAll setback.written; let _ ← deprovision name; pure ()) t t' fun _ =>
          BenchesAlike taken names := by
    intro t t' ht
    have hremove : Blind (removeAll setback.written) := by
      induction setback.written with
      | nil => trivial
      | cons path rest ih => exact only_question_bind rfl fun _ => ih
    refine (ht.of_blind hremove).bind fun _ u u' hu => ?_
    exact hu.aside hmem (only_deprovision name) fun _ _ hdone => together_pure hdone
  unfold Qualifier.rollback
  rcases setback.certificate with _ | id
  · exact hclear b b' h
  · have honly : Only (TearsDown name fun _ => True) (retire name id) := only_retire name trivial
    exact h.aside hmem honly hclear

/-- A thing is registered in both runs or in none. -/
theorem BenchesAlike.createThing (h : BenchesAlike taken names b b') (hfresh : name ∉ taken) :
    Together (Bench.world Cloud.service) (Program.request (.createThing name)) b b'
      fun answer t t' => BenchesAlike taken names t t' ∧ ∀ thing, answer = .ok thing →
        thing = ⟨name, thingArn name⟩ ∧ Abreast taken names name [] t t' := by
  have hsame := h.service.service_createThing hfresh
  refine (h.request hsame).mono ?_
  rintro answer t t' ⟨hbenches, hanswer, hleft, hright⟩
  refine ⟨hbenches, fun thing hok => ?_⟩
  rw [hok] at hanswer
  rcases equips_of_createThing hanswer.symm with ⟨hthing, hequips⟩
  rcases equips_of_createThing (hsame.1.trans hanswer.symm) with ⟨-, hequips'⟩
  exact ⟨hthing, hbenches, hfresh, hleft ▸ hequips, hright ▸ hequips'⟩

/-- The certificate that is issued is in store in both runs. -/
theorem Abreast.createCertificate (h : Abreast taken names name [] b b') :
    Together (Bench.world Cloud.service) (Program.request .createCertificate) b b'
      fun answer t t' => Abreast taken names name [] t t' ∧ ∀ certificate,
        answer = .ok certificate →
          Abreast taken names name [storedUnder certificate.arn] t t' := by
  have hsame := h.service.service_inStep h.fresh h.left h.right
    (show InStep name [] (.service .createCertificate) from trivial)
  refine (h.toBenchesAlike.request hsame).mono ?_
  rintro answer t t' ⟨hbenches, hanswer, hleft, hright⟩
  have hequips : t.service.Equips name [] := hleft ▸ h.left.service rfl
  have hequips' : t'.service.Equips name [] := hright ▸ h.right.service rfl
  refine ⟨⟨hbenches, h.fresh, hequips, hequips'⟩, fun certificate hok => ?_⟩
  rw [hok] at hanswer
  have hstores := stores_of_createCertificate hanswer.symm
  have hstores' := stores_of_createCertificate (hsame.1.trans hanswer.symm)
  rw [← hleft] at hstores
  rw [← hright] at hstores'
  refine ⟨hbenches, h.fresh, ⟨hequips.thing, fun id hid => ?_⟩, hequips'.thing, fun id hid => ?_⟩
  · rw [List.mem_singleton.mp hid]
    exact hstores
  · rw [List.mem_singleton.mp hid]
    exact hstores'

/-- What is known in both runs after a stage of a setup. -/
def BothMade (taken names : List String) (spec : Specification) (thing : Thing)
    (made : Except Setback Identity) (t t' : Bench Cloud) : Prop :=
  Abreast taken names thing.name [] t t' ∧
    ∀ identity, made = .ok identity → ∃ certificate, identity = spec.identity thing certificate

theorem Abreast.forget (h : Abreast taken names name ids b b') :
    Abreast taken names name [] b b' where
  toBenchesAlike := h.toBenchesAlike
  fresh := h.fresh
  left := ⟨h.left.thing, fun _ hid => absurd hid List.not_mem_nil⟩
  right := ⟨h.right.thing, fun _ hid => absurd hid List.not_mem_nil⟩

theorem Abreast.made (h : Abreast taken names name ids b b') (spec : Specification)
    (arn : String) (setback : Setback) :
    Together (Bench.world Cloud.service) (pure (.error setback)) b b'
      (BothMade taken names spec ⟨name, arn⟩) := by
  refine together_pure ⟨h.forget, fun identity hmade => ?_⟩
  exact absurd hmade (by simp)

theorem Abreast.attach {certificate : Certificate}
    (h : Abreast taken names name [storedUnder certificate.arn] b b') (spec : Specification)
    (arn : String) :
    Together (Bench.world Cloud.service) (attach spec ⟨name, arn⟩ certificate) b b'
      (BothMade taken names spec ⟨name, arn⟩) := by
  refine (h.inStep (q := .service (.attachPolicy spec.policy certificate.arn))
    (List.mem_singleton_self _)).attempt ?_ ?_
  · intro cause t t' ht
    exact ht.made spec arn _
  · intro _ t t' ht
    refine (ht.inStep (q := .service (.attachPrincipal name certificate.arn)) rfl).attempt ?_ ?_
    · intro cause u u' hu
      exact hu.made spec arn _
    · intro _ u u' hu
      refine together_pure ⟨hu.forget, fun identity hmade => ?_⟩
      exact ⟨certificate, (Except.ok.inj hmade).symm⟩

/-- Whether the credentials can be written is the same in both runs, since the files
    are. -/
theorem Abreast.deliver {certificate : Certificate}
    (h : Abreast taken names name [storedUnder certificate.arn] b b') (spec : Specification)
    (arn : String) :
    Together (Bench.world Cloud.service) (deliver spec ⟨name, arn⟩ certificate) b b'
      (BothMade taken names spec ⟨name, arn⟩) := by
  refine (h.inStep (q := .write spec.certificatePath certificate.pem) rfl).attempt ?_ ?_
  · intro cause t t' ht
    exact ht.made spec arn _
  · intro _ t t' ht
    refine (ht.inStep (q := .writePrivate spec.keyPath certificate.privateKey) rfl).attempt ?_ ?_
    · intro cause u u' hu
      exact hu.made spec arn _
    · intro _ u u' hu
      exact hu.attach spec arn

theorem Abreast.complete (h : Abreast taken names name [] b b') (spec : Specification)
    (arn : String) :
    Together (Bench.world Cloud.service) (complete spec ⟨name, arn⟩) b b'
      (BothMade taken names spec ⟨name, arn⟩) := by
  have hcertify : ∀ t t', Abreast taken names name [] t t' →
      Together (Bench.world Cloud.service) (certify spec ⟨name, arn⟩) t t'
        (BothMade taken names spec ⟨name, arn⟩) := by
    intro t t' ht
    refine ht.createCertificate.attempt ?_ ?_
    · intro cause u u' hu
      exact hu.1.made spec arn _
    · intro certificate u u' hu
      exact (hu.2 certificate rfl).deliver spec arn
  unfold Qualifier.complete
  cases spec.group with
  | none => exact hcertify b b' h
  | some group =>
      refine (h.inStep (q := .service (.addThingToGroup group name)) rfl).attempt ?_ ?_
      · intro cause t t' ht
        exact ht.made spec arn _
      · intro _ t t' ht
        exact hcertify t t' ht

/-- An identity is set up in both runs or in none. A setup that fails takes up its name
    all the same, since its rollback may fail. -/
theorem BenchesAlike.provision (h : BenchesAlike taken names b b') (spec : Specification)
    (hfresh : spec.thing ∉ taken) :
    Together (Bench.world Cloud.service) (provision spec) b b' fun made t t' =>
      BenchesAlike (spec.thing :: taken) names t t' ∧ ∀ identity, made = .ok identity →
        identity.thingName = spec.thing ∧ identity.thingArn = thingArn spec.thing ∧
          Abreast taken names spec.thing [] t t' := by
  refine (h.createThing hfresh).attempt ?_ ?_
  · rintro cause t t' ⟨ht, -⟩
    refine together_pure ⟨ht.mono (List.subset_cons_self _ _), fun identity hmade => ?_⟩
    exact absurd hmade (by simp)
  · rintro thing t t' ⟨-, ht⟩
    rcases ht thing rfl with ⟨rfl, hequipped⟩
    refine (hequipped.complete spec _).attempt ?_ ?_
    · rintro setback u u' ⟨hu, -⟩
      have hbenches := hu.toBenchesAlike.mono (List.subset_cons_self spec.thing taken)
      refine (hbenches.rollback List.mem_cons_self setback).bind fun _ v v' hv => ?_
      refine together_pure ⟨hv, fun identity hmade => ?_⟩
      exact absurd hmade (by simp)
    · rintro identity u u' ⟨hu, hidentity⟩
      rcases hidentity identity rfl with ⟨certificate, rfl⟩
      refine together_pure ⟨hu.toBenchesAlike.mono (List.subset_cons_self _ _), ?_⟩
      intro identity hmade
      rw [← Except.ok.inj hmade]
      exact ⟨rfl, rfl, hu⟩

theorem inStep_of_blind {q : Ask} (h : blind q = true) : InStep name ids q := by
  cases q with
  | service r => cases r <;> first | exact h | exact absurd h Bool.false_ne_true
  | _ => exact h

/-- A suite is exercised on its own thing. -/
theorem only_exercise (s : RunSettings) (suite : Suite) (identity : Identity)
    (hname : identity.thingName = name) (harn : identity.thingArn = thingArn name) :
    Only (InStep name ids) (exercise s suite identity) := by
  have hwatch := only_startAndWatch s suite identity (fun _ => inStep_of_blind)
    (show InStep name ids (.service (.startSuiteRun suite.suiteId identity.thingArn)) from harn)
  unfold exercise
  rcases s.shadow with _ | ⟨property, value⟩
  · exact hwatch
  · have hseed : Only (InStep name ids) (seedShadow identity.thingName property value) := by
      refine only_question_bind hname fun answer => ?_
      split <;> trivial
    refine hseed.bind fun answer => ?_
    split
    · trivial
    · exact hwatch

/-- How a suite ends is decided before its teardown. -/
theorem Abreast.settle (h : Abreast taken names name [] b b') (s : RunSettings)
    (identity : Identity) (hname : identity.thingName = name)
    (outcome : Except SuiteFailure PollReport) :
    Together (Bench.world Cloud.service) (settle s identity outcome) b b' fun _ =>
      BenchesAlike (name :: taken) names := by
  have hbenches := h.toBenchesAlike.mono (List.subset_cons_self name taken)
  have hmem : name ∈ name :: taken := List.mem_cons_self
  cases outcome with
  | error failure =>
      unfold Qualifier.settle
      rw [hname]
      exact hbenches.aside hmem (only_deprovision name) fun _ _ ht => together_pure ht
  | ok report =>
      show Together _ (conclude s identity report) b b' _
      unfold conclude
      cases Verdict.ofStatus report.status with
      | passed =>
          rw [hname]
          exact hbenches.aside hmem (only_deprovision name) fun _ _ ht => together_pure ht
      | failed =>
          exact (hbenches.of_blind (only_keepUrl _ _ _).blind).bind fun _ _ _ ht => together_pure ht

theorem BenchesAlike.freshName {fresh : String} (h : BenchesAlike taken (fresh :: names) b b') :
    Together (Bench.world Cloud.service) (question .freshName) b b' fun answer t t' =>
      answer = fresh ∧ BenchesAlike taken names t t' := by
  have hleft : Bench.world Cloud.service .freshName b = (fresh, { b with names }) := by
    simp only [Bench.world, h.names]
  have hright : Bench.world Cloud.service .freshName b' = (fresh, { b' with names }) := by
    simp only [Bench.world, h.symm.names]
  unfold Together
  rw [run_question, run_question, hleft, hright]
  refine ⟨rfl, rfl, rfl, h.service, ?_⟩
  exact congrArg (fun x : Bench Cloud => { x with names }) h.rest

/-- A suite under a new name is reported on alike, and leaves the runs alike but for that
    name. -/
theorem BenchesAlike.runSuite {fresh : String} (h : BenchesAlike taken (fresh :: names) b b')
    (s : RunSettings) (suite : Suite) (hfresh : s.thingNamePrefix ++ fresh ∉ taken) :
    Together (Bench.world Cloud.service) (runSuite s suite) b b' fun _ =>
      BenchesAlike ((s.thingNamePrefix ++ fresh) :: taken) names := by
  refine h.freshName.bind ?_
  rintro _ t t' ⟨rfl, ht⟩
  refine (ht.provision (s.specification _) hfresh).attempt ?_ ?_
  · rintro cause u u' ⟨hu, -⟩
    exact together_pure hu
  · rintro identity u u' ⟨-, hmade⟩
    rcases hmade identity rfl with ⟨hname, harn, hu⟩
    refine (hu.of_only (only_exercise s suite identity hname harn)).bind fun outcome v v' hv => ?_
    refine (hv.settle s identity hname outcome).bind fun result x x' hx => ?_
    refine (hx.of_blind (only_removeCredentials _ _).blind).bind fun _ y y' hy => ?_
    exact together_pure hy

theorem append_left_cancel {stem a b : String} (h : stem ++ a = stem ++ b) : a = b := by
  have hlist := congrArg String.toList h
  rw [String.toList_append, String.toList_append] at hlist
  exact String.toList_inj.mp (List.append_cancel_left hlist)

/-- Suites under names that are all different. The induction is on the suites; with each
    of them one more name is taken. -/
theorem BenchesAlike.runSuites (s : RunSettings) (suites : List Suite)
    (reports : List SuiteReport) (h : BenchesAlike taken names b b') (hdistinct : names.Nodup)
    (hfresh : ∀ fresh ∈ names, s.thingNamePrefix ++ fresh ∉ taken)
    (henough : (suites.filter fun suite => !suite.disabled).length ≤ names.length) :
    Together (Bench.world Cloud.service) (runSuites s reports suites) b b' fun _ t t' =>
      ∃ taken names, BenchesAlike taken names t t' := by
  induction suites generalizing reports taken names b b' with
  | nil => exact together_pure ⟨_, _, h⟩
  | cons suite rest ih =>
      unfold Qualifier.runSuites
      by_cases hdisabled : suite.disabled
      · rw [List.filter_cons_of_neg (by simpa using hdisabled)] at henough
        rw [if_pos hdisabled]
        exact ih _ h hdistinct hfresh henough
      · rw [List.filter_cons_of_pos (by simpa using hdisabled), List.length_cons] at henough
        rw [if_neg hdisabled]
        cases names with
        | nil => exact absurd henough (Nat.not_succ_le_zero _)
        | cons fresh names =>
            rw [List.nodup_cons] at hdistinct
            refine (h.runSuite s suite (hfresh fresh List.mem_cons_self)).attempt ?_ ?_
            · intro cause t t' ht
              exact together_pure ⟨_, _, ht⟩
            · intro report t t' ht
              refine ih _ ht hdistinct.2 (fun other hother hmem => ?_)
                (Nat.le_of_succ_le_succ henough)
              rcases List.mem_cons.mp hmem with heq | hmem
              · exact hdistinct.1 (append_left_cancel heq ▸ hother)
              · exact hfresh other (List.mem_cons_of_mem _ hother) hmem

/-- What is queued for the operations that clear up has no effect on what a campaign
    reports, on the companions it launches or on the files it leaves, as long as the names
    for its things are all different. -/
theorem runCampaign_independent (s : RunSettings) (file : SuiteFile) (b : Bench Cloud)
    (pending : Operation → List (Option ServiceError))
    (hpending : ∀ op, clearsUp op = false → pending op = b.service.pending op)
    (hdistinct : b.names.Nodup) (henough : file.enabled.length ≤ b.names.length) :
    let done := (runCampaign s file).run (Bench.world Cloud.service) b
    let done' := (runCampaign s file).run (Bench.world Cloud.service)
      { b with service := { b.service with pending } }
    done.1 = done'.1 ∧ done.2.companions = done'.2.companions ∧
      done.2.files = done'.2.files := by
  intro done done'
  have hbenches : BenchesAlike [] b.names b { b with service := { b.service with pending } } :=
    ⟨rfl, ⟨fun _ _ => rfl, hpending, rfl⟩, rfl⟩
  have hfresh : ∀ fresh ∈ b.names, s.thingNamePrefix ++ fresh ∉ ([] : List String) :=
    fun _ _ => List.not_mem_nil
  rcases hbenches.runSuites s file.suites [] hdistinct hfresh henough with
    ⟨hsame, taken, names, hafter⟩
  refine ⟨hsame, ?_, ?_⟩
  · exact (congrArg Bench.companions hafter.rest).symm
  · exact (congrArg Bench.files hafter.rest).symm

/-- A suite that passed is reported as passed, also if its thing stays behind. -/
theorem runCampaign_independent_left_behind :
    let pending := (mixedBench.service.failNext .listPrincipals
      (.transient "list-thing-principals" "busy")).pending
    let done := (runCampaign briefSettings twoSuites).run (Bench.world Cloud.service) mixedBench
    let done' := (runCampaign briefSettings twoSuites).run (Bench.world Cloud.service)
      { mixedBench with service := { mixedBench.service with pending } }
    done.1 = done'.1 ∧ done.2.service.things.contains "thing-b" = false ∧
      done'.2.service.things.contains "thing-b" = true := by
  intro pending done done'
  have hpending : ∀ op, clearsUp op = false → pending op = mixedBench.service.pending op := by
    intro op hop
    cases op <;> first | rfl | exact absurd hop (by decide)
  refine ⟨?_, by decide +kernel, by decide +kernel⟩
  exact (runCampaign_independent briefSettings twoSuites mixedBench pending hpending
    (by decide) (by decide)).1

end Qualifier
