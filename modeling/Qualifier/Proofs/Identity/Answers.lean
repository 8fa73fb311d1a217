import Qualifier.Identity.Teardown
import Qualifier.Proofs.Outside.Conversation

/-!
# A Teardown by Its Answers

What a teardown asks for, and what it makes of the answers, whoever gives them. Nothing
is assumed of the registry: each call may be answered with a success, with an absence or
with any other failure, in any order.

The calls are planned as soon as the principals are listed (`plan`), and the teardown
goes through them one by one. An absence is as good as a success, except for the thing
itself, where it leaves nothing to plan. Any other failure is a refusal, and the first
refusal is the last answer the teardown asks for. So a stage of a teardown either has all
of its calls granted or ends with a refusal (`Settled`), and stages can be put one after
the other: what was granted before a refusal is in front of it.

## Main definitions

* `Errand`: A call with the step it belongs to.
* `plan`: The calls of a teardown.
* `refusal?`: The failure that a call is refused with.
* `Granted`, `EndsRefused`: Calls that were all made, and calls that were broken off.
* `Settled`: What becomes of the calls of a stage.

## Theorems

* `Settled.after`: One stage after another.
* `settled_retire`, `settled_removeAttached`: The stages of a teardown.
* `deprovision_answers`: What a teardown asks for and what its result is.
-/

namespace Qualifier

open Program

/-- A call, with the step in the life of an identity it belongs to. -/
structure Errand where
  step : Step
  request : Request
deriving DecidableEq, Repr

/-- The question that the call is. -/
def Errand.ask (call : Errand) : Ask :=
  .service call.request

/-- The calls by which a certificate is deactivated and deleted. -/
def retiring (id : String) : List Errand :=
  [⟨.deactivateCertificate, .updateCertificate id .inactive⟩,
    ⟨.deleteCertificate, .deleteCertificate id⟩]

/-- The calls that a principal of a thing asks for. -/
def clearing (name principal : String) : List Errand :=
  ⟨.detachPrincipal, .detachPrincipal name principal⟩ :: retiring (certificateIdOfArn principal)

/-- The calls by which a thing is taken down when its principals are known. -/
def removing (name : String) (principals : List String) : List Errand :=
  principals.flatMap (clearing name) ++ [⟨.deleteThing, .deleteThing name⟩]

/-- All calls of the teardown of a thing, if these are its principals. -/
def plan (name : String) (principals : List String) : List Errand :=
  ⟨.listPrincipals, .listPrincipals name⟩ :: removing name principals

/-- The failure that a call was refused with. An absence is no refusal. -/
def refusal? : Exchange → Option ServiceError
  | ⟨.service _, .error cause⟩ => if cause.isNotFound then none else some cause
  | _ => none

/-- The principals that a conversation begins with. -/
def listedIn : List Exchange → List String
  | ⟨.service (.listPrincipals _), .ok principals⟩ :: _ => principals
  | _ => []

/-- A certificate was deleted. -/
def deletes : Exchange → Bool
  | ⟨.service (.deleteCertificate _), .ok _⟩ => true
  | _ => false

/-- A thing was deleted. -/
def unregisters : Exchange → Bool
  | ⟨.service (.deleteThing _), .ok _⟩ => true
  | _ => false

/-- All of some calls were made in their order, and none of them was refused. -/
structure Granted (calls : List Errand) (talk : List Exchange) : Prop where
  asked : talk.map Sigma.fst = calls.map Errand.ask
  accepted : ∀ x ∈ talk, refusal? x = none

/-- Some calls were made in their order up to the first that was refused, and the failure
    tells which it was and why. -/
def EndsRefused (name : String) (calls : List Errand) (talk : List Exchange)
    (failure : ProvisionError) : Prop :=
  ∃ before call after talk' cause, calls = before ++ call :: after ∧
    talk = talk' ++ [⟨.service call.request, .error cause⟩] ∧ Granted before talk' ∧
    cause.isNotFound = false ∧ failure = .service call.step name cause

/-- What becomes of the calls of a stage: none is refused and the stage has a result, or
    the stage ends with a refusal. -/
def Settled {α : Type} (name : String) (calls : List Errand) (talk : List Exchange)
    (good : α → Prop) : Except ProvisionError α → Prop
  | .error failure => EndsRefused name calls talk failure
  | .ok a => Granted calls talk ∧ good a

variable {α : Type} {name : String} {calls calls' : List Errand} {talk talk' : List Exchange}
  {failure : ProvisionError}

theorem Granted.append (h : Granted calls talk) (h' : Granted calls' talk') :
    Granted (calls ++ calls') (talk ++ talk') where
  asked := by rw [List.map_append, List.map_append, h.asked, h'.asked]
  accepted x hx := (List.mem_append.mp hx).elim (h.accepted x) (h'.accepted x)

/-- What was granted before the calls began is granted before the refusal. -/
theorem EndsRefused.after (h : Granted calls talk) (h' : EndsRefused name calls' talk' failure) :
    EndsRefused name (calls ++ calls') (talk ++ talk') failure := by
  rcases h' with ⟨before, call, rest, granted, cause, rfl, rfl, hbefore, hcause, rfl⟩
  refine ⟨calls ++ before, call, rest, talk ++ granted, cause, ?_, ?_, h.append hbefore, hcause,
    rfl⟩
  · rw [List.append_assoc]
  · rw [List.append_assoc]

/-- Calls that would have come later do not matter to a refusal. -/
theorem EndsRefused.before (h : EndsRefused name calls talk failure) (later : List Errand) :
    EndsRefused name (calls ++ later) talk failure := by
  rcases h with ⟨before, call, rest, granted, cause, rfl, rfl, hbefore, hcause, rfl⟩
  refine ⟨before, call, rest ++ later, granted, cause, ?_, rfl, hbefore, hcause, rfl⟩
  rw [List.append_assoc, List.cons_append]

theorem Settled.after {good : α → Prop} {result : Except ProvisionError α}
    (h : Granted calls talk) (h' : Settled name calls' talk' good result) :
    Settled name (calls ++ calls') (talk ++ talk') good result := by
  cases result with
  | error failure => exact EndsRefused.after h h'
  | ok a => exact ⟨h.append h'.1, h'.2⟩

theorem Settled.mono {good good' : α → Prop} {result : Except ProvisionError α}
    (h : Settled name calls talk good result) (himp : ∀ a, good a → good' a) :
    Settled name calls talk good' result := by
  cases result with
  | error failure => exact h
  | ok a => exact ⟨h.1, himp a h.2⟩

/-- The calls that were made are the first ones. -/
theorem Settled.asked_prefix {good : α → Prop} {result : Except ProvisionError α}
    (h : Settled name calls talk good result) :
    talk.map Sigma.fst <+: calls.map Errand.ask := by
  cases result with
  | error failure =>
      rcases h with ⟨before, call, rest, granted, cause, rfl, rfl, hbefore, -, -⟩
      refine ⟨rest.map Errand.ask, ?_⟩
      simp [hbefore.asked, Errand.ask]
  | ok a => exact h.1.asked ▸ List.prefix_refl _

/-- A call that is not refused is granted. -/
theorem granted_single (call : Errand) (answer : Except ServiceError call.request.Answer)
    (h : refusal? ⟨.service call.request, answer⟩ = none) :
    Granted [call] [⟨.service call.request, answer⟩] := by
  refine ⟨rfl, fun x hx => ?_⟩
  rw [List.mem_singleton.mp hx]
  exact h

/-- A call that is refused is the end of it. -/
theorem endsRefused_single (name : String) (call : Errand) {cause : ServiceError}
    (h : cause.isNotFound = false) (later : List Errand) :
    EndsRefused name (call :: later) [⟨.service call.request, .error cause⟩]
      (.service call.step name cause) :=
  ⟨[], call, later, [], cause, rfl, rfl, ⟨rfl, fun _ hx => absurd hx List.not_mem_nil⟩, h, rfl⟩

/-- A removal was refused, or it tells whether there was anything to remove. -/
theorem absentOk_cases (step : Step) (name : String) (answer : Except ServiceError Unit) :
    (∃ cause, answer = .error cause ∧ cause.isNotFound = false ∧
      absentOk step name answer = .error (.service step name cause)) ∨
    ((∀ cause, answer = .error cause → cause.isNotFound = true) ∧
      absentOk step name answer = .ok answer.isOk) := by
  cases answer with
  | ok done =>
      refine Or.inr ⟨fun cause h => absurd h (by simp), ?_⟩
      cases done
      rfl
  | error cause =>
      cases hcause : cause.isNotFound with
      | true =>
          refine Or.inr ⟨fun other h => ?_, by simp [absentOk, hcause, Except.isOk, Except.toBool]⟩
          rw [← Except.error.inj h]
          exact hcause
      | false => exact Or.inl ⟨cause, rfl, hcause, by simp [absentOk, hcause]⟩

/-- Without a failure other than an absence there is no refusal. -/
theorem refusal?_eq_none (r : Request) {answer : Except ServiceError r.Answer}
    (h : ∀ cause, answer = .error cause → cause.isNotFound = true) :
    refusal? ⟨.service r, answer⟩ = none := by
  cases answer with
  | ok a => rfl
  | error cause => simp [refusal?, h cause rfl]

/-- A certificate counts as deleted if the call that deletes it was answered with a
    success. -/
theorem settled_retire {id : String} {result : Except ProvisionError Bool}
    (h : Trace (retire name id) talk result) :
    Settled name (retiring id) talk
      (fun there => talk.countP deletes = there.toNat ∧ talk.any unregisters = false) result := by
  rw [retire, trace_request_bind_iff] at h
  rcases h with ⟨updated, rest, rfl, h⟩
  rcases absentOk_cases .deactivateCertificate name updated with
    ⟨cause, rfl, hcause, hrefused⟩ | ⟨hpasses, hupdated⟩
  · simp only [hrefused] at h
    rcases (trace_pure_iff _ _ _).mp h with ⟨rfl, rfl⟩
    exact endsRefused_single name _ hcause _
  · simp only [hupdated] at h
    have hfirst := granted_single ⟨.deactivateCertificate, .updateCertificate id .inactive⟩ updated
      (refusal?_eq_none _ hpasses)
    rw [trace_request_bind_iff] at h
    rcases h with ⟨deleted, rest, rfl, h⟩
    rcases (trace_pure_iff _ _ _).mp h with ⟨rfl, rfl⟩
    rcases absentOk_cases .deleteCertificate name deleted with
      ⟨cause, rfl, hcause, hrefused⟩ | ⟨hpasses, hdeleted⟩
    · rw [hrefused]
      exact EndsRefused.after hfirst (endsRefused_single name
        ⟨.deleteCertificate, .deleteCertificate id⟩ hcause [])
    · rw [hdeleted]
      refine ⟨hfirst.append (granted_single ⟨.deleteCertificate, .deleteCertificate id⟩ deleted
        (refusal?_eq_none _ hpasses)), ?_, rfl⟩
      cases deleted <;> rfl

/-- The calls for the principals, and then the one for the thing. Those that deleted a
    certificate are added to the ones before. -/
theorem settled_removeAttached (principals : List String) (deleted : Nat)
    {result : Except ProvisionError Teardown}
    (h : Trace (removeAttached name deleted principals) talk result) :
    Settled name (removing name principals) talk
      (· = ⟨deleted + talk.countP deletes, talk.any unregisters⟩) result := by
  induction principals generalizing deleted talk with
  | nil =>
      rw [removeAttached, trace_request_bind_iff] at h
      rcases h with ⟨removed, rest, rfl, h⟩
      rcases absentOk_cases .deleteThing name removed with
        ⟨cause, rfl, hcause, hrefused⟩ | ⟨hpasses, hremoved⟩
      · simp only [hrefused] at h
        rcases (trace_pure_iff _ _ _).mp h with ⟨rfl, rfl⟩
        exact endsRefused_single name _ hcause _
      · simp only [hremoved] at h
        rcases (trace_pure_iff _ _ _).mp h with ⟨rfl, rfl⟩
        refine ⟨granted_single ⟨.deleteThing, .deleteThing name⟩ removed
          (refusal?_eq_none _ hpasses), ?_⟩
        cases removed <;> rfl
  | cons principal rest ih =>
      rw [removeAttached, trace_request_bind_iff] at h
      rcases h with ⟨detached, tail, rfl, h⟩
      have hplan : removing name (principal :: rest) =
          [⟨.detachPrincipal, .detachPrincipal name principal⟩] ++
            (retiring (certificateIdOfArn principal) ++ removing name rest) := by
        simp [removing, clearing]
      rw [hplan]
      rcases absentOk_cases .detachPrincipal name detached with
        ⟨cause, rfl, hcause, hrefused⟩ | ⟨hpasses, hdetached⟩
      · simp only [hrefused] at h
        rcases (trace_pure_iff _ _ _).mp h with ⟨rfl, rfl⟩
        exact endsRefused_single name _ hcause _
      · simp only [hdetached] at h
        have hfirst := granted_single ⟨.detachPrincipal, .detachPrincipal name principal⟩ detached
          (refusal?_eq_none _ hpasses)
        rw [trace_bind_iff] at h
        rcases h with ⟨talk₁, retired, talk₂, rfl, hretire, h⟩
        have hretired := settled_retire hretire
        cases retired with
        | error failure =>
            rcases (trace_pure_iff _ _ _).mp h with ⟨rfl, rfl⟩
            rw [List.append_nil]
            exact EndsRefused.after hfirst (EndsRefused.before hretired _)
        | ok there =>
            rcases hretired with ⟨hgranted, hcount, hthing⟩
            refine (Settled.after hfirst (Settled.after hgranted (ih _ h))).mono
              fun removed hremoved => ?_
            -- Nothing but the deleted certificate is counted before the other principals.
            have hcounted : (if there then deleted + 1 else deleted) + talk₂.countP deletes =
                deleted + (talk₁ ++ talk₂).countP deletes := by
              rw [List.countP_append, hcount, ← Nat.add_assoc]
              cases there <;> rfl
            have hfound : (talk₁ ++ talk₂).any unregisters = talk₂.any unregisters := by
              rw [List.any_append, hthing, Bool.false_or]
            rw [hremoved, hcounted, ← hfound]
            cases detached <;> rfl

/-- If a call of a stage was refused, that ended the stage. -/
theorem Settled.of_refusal {good : α → Prop} {result : Except ProvisionError α}
    (h : Settled name calls talk good result) (hrefused : ∃ x ∈ talk, refusal? x ≠ none) :
    ∃ failure, result = .error failure ∧ EndsRefused name calls talk failure := by
  cases result with
  | error failure => exact ⟨failure, rfl, h⟩
  | ok a =>
      rcases hrefused with ⟨x, hx, hrefused⟩
      exact absurd (h.1.accepted x hx) hrefused

/-- If no call of a stage was refused, all were made. -/
theorem Settled.of_accepted {good : α → Prop} {result : Except ProvisionError α}
    (h : Settled name calls talk good result) (haccepted : ∀ x ∈ talk, refusal? x = none) :
    talk.map Sigma.fst = calls.map Errand.ask ∧ ∃ a, result = .ok a ∧ good a := by
  cases result with
  | error failure =>
      rcases h with ⟨before, call, rest, granted, cause, -, rfl, -, hcause, -⟩
      have hlast := haccepted ⟨.service call.request, .error cause⟩ (by simp)
      exact absurd hlast (by simp [refusal?, hcause])
  | ok a => exact ⟨h.1.asked, a, rfl, h.2⟩

/-- A conversation begins with the news that there is no such thing. -/
def MissingThing (name : String) (talk : List Exchange) : Prop :=
  ∃ cause rest, cause.isNotFound = true ∧
    talk = ⟨.service (.listPrincipals name), .error cause⟩ :: rest

/-- A teardown of a thing that is there settles what it planned. -/
theorem settled_deprovision {result : Except ProvisionError Teardown}
    (h : Trace (deprovision name) talk result) :
    (∃ cause, cause.isNotFound = true ∧
      talk = [⟨.service (.listPrincipals name), .error cause⟩] ∧ result = .ok ⟨0, false⟩) ∨
    (¬ MissingThing name talk ∧ Settled name (plan name (listedIn talk)) talk
      (· = ⟨talk.countP deletes, talk.any unregisters⟩) result) := by
  rw [deprovision, trace_request_bind_iff] at h
  rcases h with ⟨answer, rest, rfl, h⟩
  cases answer with
  | error cause =>
      cases hcause : cause.isNotFound with
      | true =>
          simp only [hcause, if_true] at h
          rcases (trace_pure_iff _ _ _).mp h with ⟨rfl, rfl⟩
          exact Or.inl ⟨cause, hcause, rfl, rfl⟩
      | false =>
          simp only [hcause, Bool.false_eq_true, if_false] at h
          rcases (trace_pure_iff _ _ _).mp h with ⟨rfl, rfl⟩
          refine Or.inr ⟨?_, endsRefused_single name _ hcause _⟩
          rintro ⟨other, rest, hother, heq⟩
          simp only [List.cons.injEq, Sigma.mk.injEq, heq_eq_eq, true_and, Except.error.injEq]
            at heq
          rw [heq.1, hother] at hcause
          exact absurd hcause (by decide)
  | ok principals =>
      refine Or.inr ⟨?_, ?_⟩
      · rintro ⟨cause, rest, -, heq⟩
        simp at heq
      · have hlist := granted_single ⟨.listPrincipals, .listPrincipals name⟩ (.ok principals) rfl
        refine (Settled.after hlist (settled_removeAttached principals 0 h)).mono
          fun removed hremoved => ?_
        rw [hremoved, Nat.zero_add]
        rfl

/-- Whatever a teardown is answered, its calls are the first of those that are planned for
    the principals that were listed. If there is no such thing, nothing else is asked and
    nothing was deleted. Otherwise the calls end with the first that is refused, and the
    failure names its step, the thing and the very error; and if none is refused, all are
    made, and the result is how many certificates were deleted and whether the thing was. -/
theorem deprovision_answers {σ : Type} (w : World σ) (start : σ) (name : String) :
    let run := (deprovision name).run (recording w) ([], start)
    let talk := run.2.1
    let calls := plan name (listedIn talk)
    talk.map Sigma.fst <+: calls.map Errand.ask ∧
      (MissingThing name talk → talk.length = 1 ∧ run.1 = .ok ⟨0, false⟩) ∧
      (¬ MissingThing name talk → (∃ x ∈ talk, refusal? x ≠ none) →
        ∃ failure, run.1 = .error failure ∧ EndsRefused name calls talk failure) ∧
      (¬ MissingThing name talk → (∀ x ∈ talk, refusal? x = none) →
        talk.map Sigma.fst = calls.map Errand.ask ∧
          run.1 = .ok ⟨talk.countP deletes, talk.any unregisters⟩) := by
  rcases run_recording w (deprovision name) start with ⟨talk, htrace, hrun⟩
  rw [hrun]
  generalize ((deprovision name).run w start).1 = result at htrace
  rcases settled_deprovision htrace with ⟨cause, hcause, rfl, rfl⟩ | ⟨hthere, hsettled⟩
  · have hmissing : MissingThing name [⟨.service (.listPrincipals name), .error cause⟩] :=
      ⟨cause, [], hcause, rfl⟩
    exact ⟨⟨_, rfl⟩, fun _ => ⟨rfl, rfl⟩, fun hnot => absurd hmissing hnot,
      fun hnot => absurd hmissing hnot⟩
  · refine ⟨hsettled.asked_prefix, fun hmissing => absurd hmissing hthere,
      fun _ hrefused => hsettled.of_refusal hrefused, fun _ haccepted => ?_⟩
    rcases hsettled.of_accepted haccepted with ⟨hasked, _, hresult, rfl⟩
    exact ⟨hasked, hresult⟩

end Qualifier
