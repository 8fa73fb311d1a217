import Mathlib.Data.List.Basic
import Qualifier.Config.Secrets
import Qualifier.Proofs.Outside.Conversation

/-!
# References to Secrets

Which secrets are looked up for a configuration, in what order, and what becomes of the
settings that refer to them, whatever the secret store does.

Three settings may refer to the store (`Referable`). A configuration determines the list of
its references before anything is asked, since a secret takes the place of the setting that
refers to it and of no other. The lookups are the list from its start: all of it, or up to and
including the first one that fails. What came back is a text like any other from then on, so
nothing is looked up twice.

The proof goes through the settings one after the other (`resolveEach`). One setting is
either left alone, without a word, or is one lookup. The references of the settings that are
left are the same after a setting was replaced as before, which is what the induction needs.

## Main definitions

* `Refers`: A value refers to a secret.
* `Referable`: The settings that may do so.
* `looked`, `lookedUp`: A lookup, and several one after the other.
* `Config.References`: The references of a configuration, in order.
* `Config.Replaced`: A configuration with secrets in the place of its references.
* `Config.Resolves`: What is looked up, and what it leads to.
* `resolveEach`: The settings of a list, one after the other.

## Theorems

* `secretId?_eq_some_iff`: When a value refers to a secret, and to which.
* `trace_resolveValue`: The conversation about one setting.
* `resolves_of_trace`: The conversation about several settings.
* `resolveSecrets_lookups`: What is looked up for a configuration.
-/

namespace Qualifier

open Program

/-! ## Values that refer to a secret -/

/-- A value refers to a secret: it starts with `secret:`, and what follows, without the blanks
    at its ends, names the secret. -/
def Refers (value id : String) : Prop :=
  ∃ rest, value = "secret:" ++ rest ∧ id = Text.trim rest

theorem secretId?_eq_some_iff {value id : String} :
    secretId? value = some id ↔ Refers value id := by
  simp only [secretId?, Option.map_eq_some_iff, List.isPrefixOf?_eq_some_iff_append_eq]
  constructor
  · rintro ⟨rest, hrest, rfl⟩
    refine ⟨String.ofList rest, String.toList_inj.mp ?_, rfl⟩
    rw [← hrest, String.toList_append, String.toList_ofList (l := rest)]
  · rintro ⟨rest, rfl, rfl⟩
    exact ⟨rest.toList, by rw [String.toList_append], by rw [String.ofList_toList]⟩

/-! ## Settings that may refer to a secret -/

/-- The settings that may refer to a secret. -/
inductive Referable where
  | policyName
  | thingGroup
  | logBucket
deriving DecidableEq, Repr

namespace Referable

/-- The settings in the order in which they are looked at. -/
def all : List Referable :=
  [policyName, thingGroup, logBucket]

/-- The name of a setting in complaints. -/
def key : Referable → String
  | policyName => "policy_name"
  | thingGroup => "thing_group"
  | logBucket => "log_bucket"

/-- The value of a setting in a configuration. -/
def valueIn (c : Config) : Referable → Option String
  | policyName => c.policyName
  | thingGroup => c.thingGroup
  | logBucket => c.logBucket

/-- A configuration with another value for a setting. -/
def put (c : Config) (value : Option String) : Referable → Config
  | policyName => { c with policyName := value }
  | thingGroup => { c with thingGroup := value }
  | logBucket => { c with logBucket := value }

@[simp] theorem put_valueIn (c : Config) (field : Referable) :
    field.put c (field.valueIn c) = c := by
  cases field <;> rfl

@[simp] theorem valueIn_put (c : Config) (value : Option String) (field : Referable) :
    field.valueIn (field.put c value) = value := by
  cases field <;> rfl

theorem valueIn_put_of_ne {field other : Referable} (h : other ≠ field) (c : Config)
    (value : Option String) : other.valueIn (field.put c value) = other.valueIn c := by
  cases field <;> cases other <;> first | exact absurd rfl h | rfl

end Referable

/-! ## What is looked up -/

/-- A secret that was looked up. -/
def looked (id : String) (answer : Except ServiceError String) : Exchange :=
  ⟨.service (.getSecret id), answer⟩

/-- The secrets of references that were looked up one after the other. -/
def lookedUp (secrets : Referable → String) (references : List (Referable × String)) :
    List Exchange :=
  references.map fun r => looked r.2 (.ok (secrets r.1))

namespace Config

variable {c c' : Config} {references : List (Referable × String)}

/-- The references of a configuration: each setting that refers to a secret with the name of
    that secret, in the order of the settings. -/
structure References (c : Config) (references : List (Referable × String)) : Prop where
  inOrder : (references.map Prod.fst).Sublist Referable.all
  mem_iff : ∀ field id, (field, id) ∈ references ↔
    ∃ value, field.valueIn c = some value ∧ Refers value id

/-- A configuration with secrets in the place of some references, and otherwise the same. -/
structure Replaced (c : Config) (references : List (Referable × String))
    (secrets : Referable → String) (c' : Config) : Prop where
  referring : ∀ field id, (field, id) ∈ references →
    field.valueIn c' = some (Text.trim (secrets field))
  literal : ∀ field : Referable, (∀ id, (field, id) ∉ references) →
    field.valueIn c' = field.valueIn c
  elsewhere : c' = { c with
    policyName := c'.policyName, thingGroup := c'.thingGroup, logBucket := c'.logBucket }

/-- What is looked up for the references of a configuration, and what it leads to: all of them
    and a configuration with the secrets, or those up to the first that fails and a complaint
    that names its setting and the failure. -/
inductive Resolves (c : Config) (references : List (Referable × String)) :
    List Exchange → Except ConfigError Config → Prop
  | all {secrets : Referable → String} {c' : Config} (h : c.Replaced references secrets c') :
      Resolves c references (lookedUp secrets references) (.ok c')
  | broken {secrets : Referable → String} {before after : List (Referable × String)}
      {field : Referable} {id : String} {cause : ServiceError}
      (h : references = before ++ (field, id) :: after) :
      Resolves c references (lookedUp secrets before ++ [looked id (.error cause)])
        (.error (.secret field.key cause))

end Config

/-- One setting is left alone without a word, or is one lookup. -/
theorem trace_resolveValue {key : String} {value : Option String} {talk : List Exchange}
    {result : Except ConfigError (Option String)} (h : Trace (resolveValue key value) talk result) :
    (value.bind secretId? = none ∧ talk = [] ∧ result = .ok value) ∨
    ∃ id, value.bind secretId? = some id ∧
      ((∃ secret, talk = [looked id (.ok secret)] ∧ result = .ok (some (Text.trim secret))) ∨
        ∃ cause, talk = [looked id (.error cause)] ∧ result = .error (.secret key cause)) := by
  cases value with
  | none => exact Or.inl ⟨rfl, (trace_pure_iff _ _ _).mp h⟩
  | some value =>
      rw [resolveValue] at h
      cases hid : secretId? value with
      | none =>
          simp only [hid] at h
          exact Or.inl ⟨hid, (trace_pure_iff _ _ _).mp h⟩
      | some id =>
          simp only [hid] at h
          rcases (trace_request_bind_iff _ _ _ _).mp h with ⟨answer, rest, rfl, hrest⟩
          refine Or.inr ⟨id, hid, ?_⟩
          cases answer with
          | error cause =>
              rcases (trace_pure_iff _ _ _).mp hrest with ⟨rfl, rfl⟩
              exact Or.inr ⟨cause, rfl, rfl⟩
          | ok secret =>
              rcases (trace_pure_iff _ _ _).mp hrest with ⟨rfl, rfl⟩
              exact Or.inl ⟨secret, rfl, rfl⟩

/-! ## One setting after the other -/

/-- The references among some settings. -/
def referencesAmong (fields : List Referable) (c : Config) : List (Referable × String) :=
  fields.filterMap fun field => ((field.valueIn c).bind secretId?).map fun id => (field, id)

/-- Replaces the references among some settings, one after the other. -/
def resolveEach : List Referable → Config → Program (Except ConfigError Config)
  | [], c => pure (.ok c)
  | field :: rest, c => do
    match ← resolveValue field.key (field.valueIn c) with
    | .error e => pure (.error e)
    | .ok value => resolveEach rest (field.put c value)

theorem resolveSecrets_eq_resolveEach (c : Config) :
    c.resolveSecrets = resolveEach Referable.all c := by
  unfold Config.resolveSecrets
  refine congrArg (Program.andThen _) (funext fun answer => ?_)
  cases answer with
  | error e => rfl
  | ok policyName =>
      refine congrArg (Program.andThen _) (funext fun answer => ?_)
      cases answer with
      | error e => rfl
      | ok thingGroup =>
          refine congrArg (Program.andThen _) (funext fun answer => ?_)
          cases answer <;> rfl

theorem mem_referencesAmong_iff {fields : List Referable} {c : Config} {field : Referable}
    {id : String} : (field, id) ∈ referencesAmong fields c ↔
      field ∈ fields ∧ (field.valueIn c).bind secretId? = some id := by
  simp only [referencesAmong, List.mem_filterMap, Option.map_eq_some_iff, Prod.mk.injEq]
  constructor
  · rintro ⟨field, hfield, id, hid, rfl, rfl⟩
    exact ⟨hfield, hid⟩
  · rintro ⟨hfield, hid⟩
    exact ⟨field, hfield, id, hid, rfl, rfl⟩

/-- A setting that refers to nothing adds no reference. -/
theorem referencesAmong_cons_none {field : Referable} {c : Config}
    (h : (field.valueIn c).bind secretId? = none) (rest : List Referable) :
    referencesAmong (field :: rest) c = referencesAmong rest c := by
  rw [referencesAmong, List.filterMap_cons_none (by rw [h]; rfl), referencesAmong]

/-- One that refers to a secret adds that reference in front. -/
theorem referencesAmong_cons_some {field : Referable} {c : Config} {id : String}
    (h : (field.valueIn c).bind secretId? = some id) (rest : List Referable) :
    referencesAmong (field :: rest) c = (field, id) :: referencesAmong rest c := by
  rw [referencesAmong, List.filterMap_cons_some (by rw [h]; rfl), referencesAmong]

theorem map_fst_referencesAmong_sublist (fields : List Referable) (c : Config) :
    ((referencesAmong fields c).map Prod.fst).Sublist fields := by
  induction fields with
  | nil => exact .slnil
  | cons field rest ih =>
      cases hid : (field.valueIn c).bind secretId? with
      | none =>
          rw [referencesAmong_cons_none hid]
          exact ih.cons field
      | some id =>
          rw [referencesAmong_cons_some hid]
          exact ih.cons_cons field

theorem references_referencesAmong (c : Config) :
    c.References (referencesAmong Referable.all c) where
  inOrder := map_fst_referencesAmong_sublist _ c
  mem_iff field id := by
    have hall : field ∈ Referable.all := by cases field <;> decide
    rw [mem_referencesAmong_iff, and_iff_right hall, Option.bind_eq_some_iff]
    simp only [secretId?_eq_some_iff]

/-- What is put in the place of a setting is no reference of the settings after it. -/
theorem referencesAmong_put {fields : List Referable} {field : Referable} (h : field ∉ fields)
    (c : Config) (value : Option String) :
    referencesAmong fields (field.put c value) = referencesAmong fields c := by
  refine List.filterMap_congr fun other hother => ?_
  rw [Referable.valueIn_put_of_ne (ne_of_mem_of_not_mem hother h)]

section Found

variable {field : Referable} {id secret : String} {c c' : Config}
  {references : List (Referable × String)}

/-- A reference in front is looked up first. -/
theorem looked_cons_lookedUp (secrets : Referable → String)
    (hfresh : ∀ r ∈ references, r.1 ≠ field) :
    looked id (.ok secret) :: lookedUp secrets references =
      lookedUp (Function.update secrets field secret) ((field, id) :: references) := by
  rw [lookedUp, lookedUp, List.map_cons, Function.update_self]
  refine congrArg (List.cons _) (List.map_congr_left fun r hr => ?_)
  rw [Function.update_of_ne (hfresh r hr)]

/-- What is put in the place of a reference stays there, since no later reference is one of the
    same setting. -/
theorem Config.Replaced.found {secrets : Referable → String}
    (hfresh : ∀ r ∈ references, r.1 ≠ field)
    (h : (field.put c (some (Text.trim secret))).Replaced references secrets c') :
    c.Replaced ((field, id) :: references) (Function.update secrets field secret) c' where
  referring other otherId hmem := by
    rcases List.mem_cons.mp hmem with heq | hmem
    · obtain ⟨rfl, rfl⟩ := Prod.mk.inj heq
      -- For the references after it this setting is a literal one, so the secret is kept.
      rw [h.literal other fun _ hlater => hfresh _ hlater rfl, Referable.valueIn_put,
        Function.update_self]
    · rw [h.referring other otherId hmem, Function.update_of_ne (hfresh _ hmem)]
  literal other hnone := by
    have hother : other ≠ field := by
      rintro rfl
      exact hnone id List.mem_cons_self
    rw [h.literal other fun otherId hmem => hnone otherId (List.mem_cons_of_mem _ hmem),
      Referable.valueIn_put_of_ne hother]
  elsewhere := by
    have helsewhere := h.elsewhere
    cases field <;> exact helsewhere

/-- A secret that was found is put in its place, and the references after it are looked up as
    they would have been without it. -/
theorem Config.Resolves.found {talk : List Exchange} {result : Except ConfigError Config}
    (hfresh : ∀ r ∈ references, r.1 ≠ field)
    (h : (field.put c (some (Text.trim secret))).Resolves references talk result) :
    c.Resolves ((field, id) :: references) (looked id (.ok secret) :: talk) result := by
  cases h with
  | all h =>
      rw [looked_cons_lookedUp _ hfresh]
      exact .all (h.found hfresh)
  | broken h =>
      subst h
      rw [← List.cons_append, ← List.cons_append,
        looked_cons_lookedUp _ fun r hr => hfresh r (List.mem_append_left _ hr)]
      exact .broken rfl

end Found

/-- The conversation about several settings: their lookups from the first one on, as far as
    they succeed, and what comes of them. -/
theorem resolves_of_trace {fields : List Referable} (hnodup : fields.Nodup) {c : Config}
    {talk : List Exchange} {result : Except ConfigError Config}
    (h : Trace (resolveEach fields c) talk result) :
    c.Resolves (referencesAmong fields c) talk result := by
  induction fields generalizing c talk with
  | nil =>
      rcases (trace_pure_iff _ _ _).mp h with ⟨rfl, rfl⟩
      have hsame : c.Replaced [] (fun _ => "") c :=
        ⟨fun _ _ hmem => absurd hmem List.not_mem_nil, fun _ _ => rfl, rfl⟩
      exact .all hsame
  | cons field rest ih =>
      rcases List.nodup_cons.mp hnodup with ⟨hfresh, hrest⟩
      rcases (trace_bind_iff _ _ _ _).mp h with ⟨first, answer, later, rfl, hfirst, hlater⟩
      rcases trace_resolveValue hfirst with ⟨hnone, rfl, rfl⟩ |
        ⟨id, hid, ⟨secret, rfl, rfl⟩ | ⟨cause, rfl, rfl⟩⟩
      -- The setting refers to nothing: putting its own value back changes nothing.
      · simp only [Referable.put_valueIn] at hlater
        rw [referencesAmong_cons_none hnone]
        exact ih hrest hlater
      · rw [referencesAmong_cons_some hid]
        have hresolves := ih hrest hlater
        rw [referencesAmong_put hfresh] at hresolves
        refine hresolves.found fun r hr heq => hfresh ?_
        exact heq ▸ (mem_referencesAmong_iff.mp hr).1
      · rcases (trace_pure_iff _ _ _).mp hlater with ⟨rfl, rfl⟩
        rw [referencesAmong_cons_some hid]
        -- No reference comes before the one that failed.
        change c.Resolves _ (lookedUp (fun _ => "") [] ++ [looked id (.error cause)]) _
        exact .broken (List.nil_append _).symm

/-- What is looked up for a configuration, whatever the world answers: its references in order,
    up to and including the first that fails. The result is the configuration with the secrets
    in their places, or a complaint about the setting of the reference that failed. -/
theorem resolveSecrets_lookups {σ : Type} (w : World σ) (start : σ) (c : Config) :
    let run := c.resolveSecrets.run (recording w) ([], start)
    ∃ references, c.References references ∧ c.Resolves references run.2.1 run.1 := by
  rcases run_recording w c.resolveSecrets start with ⟨talk, htrace, hrun⟩
  rw [hrun]
  rw [resolveSecrets_eq_resolveEach] at htrace
  refine ⟨_, references_referencesAmong c, ?_⟩
  rw [resolveSecrets_eq_resolveEach]
  exact resolves_of_trace (by decide) htrace

end Qualifier
