import Qualifier.Config.Settings
import Qualifier.Proofs.Poll.Order

/-!
# Valid Configurations

Which configurations are accepted, and what the settings of a campaign can then be relied on
for. `Config.Valid` says what is asked of a configuration, setting by setting and without an
order. The checks go through it in an order of their own and stop at the first failure, so
they succeed exactly for the valid configurations.

The settings are made after the checks, and two things are done again that could fail. The
policy is computed a second time; it is the one the checks computed, so it cannot fail any
more. The credential paths are read from the working directory; the empty path is the only
one that cannot be, and the checks refuse it as a blank setting. Hence the settings fail in no
other way than the checks do.

## Main definitions

* `Config.Valid`: What is asked of a configuration.
* `Config.Settles`: What settings can be relied on for.

## Theorems

* `Path.isAbsolute_absolute`: A path read from an absolute one is absolute.
* `pollPolicy_ok_iff`, `validate_ok_iff`: When a configuration is accepted.
* `runSettings_of_valid`, `runSettings_of_error`: What becomes of its settings.
* `runSettings_iff_valid`: Checks and settings agree.
-/

namespace Qualifier

namespace Path

/-! ## Absolute paths -/

theorem isAbsolute_iff (p : Path) : p.isAbsolute ↔ ∃ rest, p.text.toList = '/' :: rest := by
  unfold isAbsolute
  rw [beq_iff_eq, List.head?_eq_some_iff]

theorem isAbsolute_append {text : String} (h : isAbsolute ⟨text⟩) (more : String) :
    isAbsolute ⟨text ++ more⟩ := by
  rcases (isAbsolute_iff _).mp h with ⟨rest, hrest⟩
  have happend : (text ++ more).toList = '/' :: (rest ++ more.toList) := by
    rw [String.toList_append, hrest, List.cons_append]
  exact (isAbsolute_iff _).mpr ⟨_, happend⟩

/-- A path that continues an absolute one is absolute, whether it replaces it or not. -/
theorem isAbsolute_join {p : Path} (h : p.isAbsolute) (q : Path) : (p.join q).isAbsolute := by
  unfold join
  by_cases hq : q.isAbsolute
  · rw [if_pos hq]
    exact hq
  · rw [if_neg hq]
    split
    · exact isAbsolute_append h _
    · exact isAbsolute_append (isAbsolute_append h _) _

theorem isAbsolute_root : isAbsolute ⟨"/"⟩ :=
  (isAbsolute_iff _).mpr ⟨[], rfl⟩

theorem isAbsolute_push {p : Path} (h : p.isAbsolute) (component : Component) :
    (p.push component).isAbsolute := by
  cases component with
  | root => exact isAbsolute_root
  | current => exact isAbsolute_join h _
  | parent => exact isAbsolute_join h _
  | name s => exact isAbsolute_join h _

theorem isAbsolute_foldl_push {p : Path} (h : p.isAbsolute) (components : List Component) :
    (components.foldl push p).isAbsolute := by
  induction components generalizing p with
  | nil => exact h
  | cons component rest ih => exact ih (isAbsolute_push h component)

/-- A path read from an absolute working directory is absolute: it starts with the root, with
    two separators or with the working directory. -/
theorem isAbsolute_absolute {workingDirectory : Path} (h : workingDirectory.isAbsolute)
    (p : Path) (hp : p.text ≠ "") : (absolute workingDirectory p hp).isAbsolute := by
  -- A separator that is put back at the end changes nothing at the front.
  have hend : ∀ whole : Path, whole.isAbsolute →
      (if p.endsInSlash && !whole.endsInSlash then ⟨whole.text ++ "/"⟩
        else whole : Path).isAbsolute := by
    intro whole hwhole
    split
    · exact isAbsolute_append hwhole _
    · exact hwhole
  refine hend _ ?_
  by_cases htwo : ['/', '/'].isPrefixOf p.text.toList && !(['/', '/', '/'].isPrefixOf p.text.toList)
  · rw [if_pos htwo]
    exact isAbsolute_foldl_push ((isAbsolute_iff _).mpr ⟨['/'], rfl⟩) _
  · rw [if_neg htwo]
    by_cases habs : p.isAbsolute
    -- The first component is the root, so the fold starts over from there.
    · have hroot : p.components = .root :: laterComponents p.stretches := by
        rw [components, if_pos habs]
      rw [if_pos habs, hroot]
      exact isAbsolute_foldl_push isAbsolute_root _
    · rw [if_neg habs]
      exact isAbsolute_foldl_push h _

end Path

namespace Config

variable {c : Config}

/-! ## What is asked of a configuration -/

/-- What is asked of a configuration. Settings that may be left out have to say something if
    they are there, and the two halves of the shadow are there together or not at all. -/
structure Valid (c : Config) : Prop where
  region : Text.trim c.region ≠ ""
  awsBin : Text.trim c.awsBin ≠ ""
  policyName : ∃ name, c.policyName = some name ∧ Text.trim name ≠ ""
  thingGroup : ∀ group, c.thingGroup = some group → Text.trim group ≠ ""
  thingNamePrefix : Text.trim c.thingNamePrefix ≠ ""
  suitesFile : Text.trim c.suitesFile ≠ ""
  certificatePath : Text.trim c.certificatePath ≠ ""
  keyPath : Text.trim c.keyPath ≠ ""
  logDir : Text.trim c.logDir ≠ ""
  logBucket : ∀ bucket, c.logBucket = some bucket → Text.trim bucket ≠ ""
  shadowProperty : ∀ property, c.shadowProperty = some property → Text.trim property ≠ ""
  shadowDefault : ∀ value, c.shadowDefault = some value → Text.trim value ≠ ""
  wholeShadow : c.shadowProperty = none ↔ c.shadowDefault = none
  companionTime : 1 ≤ c.companionTimeoutSecs
  longestWait : 1 ≤ c.backoffMaxSecs
  orderedWaits : c.backoffMinSecs ≤ c.backoffMaxSecs
  ceiling : c.backoffMaxSecs ≤ c.runCeilingSecs

theorem checkShadow_bind_ok_iff {next : Unit → Except ConfigError Unit} :
    (c.checkShadow >>= next) = .ok () ↔
      (c.shadowProperty = none ↔ c.shadowDefault = none) ∧ next () = .ok () := by
  unfold checkShadow
  cases c.shadowProperty <;> cases c.shadowDefault <;> simp [bind, Except.bind]

/-- A policy name that is left out counts as blank. -/
theorem trim_getD_ne_empty_iff (value : Option String) :
    Text.trim (value.getD "") ≠ "" ↔ ∃ text, value = some text ∧ Text.trim text ≠ "" := by
  cases value with
  | none =>
      have hblank : Text.trim "" = "" := rfl
      simp [hblank]
  | some text => simp

theorem pollPolicy_ok_iff {p : Policy} :
    c.pollPolicy = .ok p ↔ 1 ≤ c.backoffMaxSecs ∧ c.backoffMinSecs ≤ c.backoffMaxSecs ∧
      c.backoffMaxSecs ≤ c.runCeilingSecs ∧
      p = ⟨.ofSeconds c.backoffMinSecs, .ofSeconds c.backoffMaxSecs,
        c.runCeilingSecs / c.backoffMaxSecs⟩ := by
  have hbounds := @Policy.ofCeiling?_ok_iff (.ofSeconds c.backoffMinSecs)
    (.ofSeconds c.backoffMaxSecs) (.ofSeconds c.runCeilingSecs) p
  refine Iff.trans ?_ hbounds
  rw [pollPolicy]
  split
  · next policy hpolicy => simp [hpolicy]
  · next cause hcause => simp [hcause]

/-- The last two checks, of the numbers. -/
theorem numbers_ok_iff :
    (if c.companionTimeoutSecs = 0 then .error .noCompanionTime
      else c.pollPolicy >>= fun _ => pure () : Except ConfigError Unit) = .ok () ↔
      1 ≤ c.companionTimeoutSecs ∧ ∃ p, c.pollPolicy = .ok p := by
  rw [Policy.one_le_iff_ne_zero]
  by_cases htime : c.companionTimeoutSecs = 0
  · simp [htime]
  · rw [if_neg htime]
    cases c.pollPolicy <;> simp [htime, bind, Except.bind, pure, Except.pure]

theorem validate_ok_iff (c : Config) : c.validate = .ok () ↔ c.Valid := by
  simp only [validate, requireField_bind_ok_iff, requireOptional_bind_ok_iff,
    checkShadow_bind_ok_iff, trim_getD_ne_empty_iff, numbers_ok_iff, pollPolicy_ok_iff,
    exists_and_left, exists_eq, and_true]
  constructor
  · rintro ⟨hregion, hbin, hpolicy, hgroup, hprefix, hsuites, hcertificate, hkey, hdir, hbucket,
      hproperty, hvalue, hwhole, htime, hlongest, hordered, hceiling⟩
    exact ⟨hregion, hbin, hpolicy, hgroup, hprefix, hsuites, hcertificate, hkey, hdir, hbucket,
      hproperty, hvalue, hwhole, htime, hlongest, hordered, hceiling⟩
  · intro h
    exact ⟨h.region, h.awsBin, h.policyName, h.thingGroup, h.thingNamePrefix, h.suitesFile,
      h.certificatePath, h.keyPath, h.logDir, h.logBucket, h.shadowProperty, h.shadowDefault,
      h.wholeShadow, h.companionTime, h.longestWait, h.orderedWaits, h.ceiling⟩

/-! ## The settings that follow -/

/-- What the settings of a campaign can be relied on for. -/
structure Settles (c : Config) (s : RunSettings) : Prop where
  certificatePath : s.certificatePath.isAbsolute
  keyPath : s.keyPath.isAbsolute
  policyName : c.policyName = some s.policyName
  shadow : ∀ property value, s.shadow = some (property, value) ↔
    c.shadowProperty = some property ∧ c.shadowDefault = some value
  noShadow : s.shadow = none ↔ c.shadowProperty = none ∧ c.shadowDefault = none
  cycles : 1 ≤ s.poll.cycles
  orderedWaits : s.poll.least ≤ s.poll.most

theorem shadow_eq_some_iff {property value : String} :
    c.shadow = some (property, value) ↔
      c.shadowProperty = some property ∧ c.shadowDefault = some value := by
  unfold shadow
  cases c.shadowProperty <;> cases c.shadowDefault <;> simp

/-- One half of a shadow alone would be no shadow either. -/
theorem Valid.shadow_eq_none_iff (h : c.Valid) :
    c.shadow = none ↔ c.shadowProperty = none ∧ c.shadowDefault = none := by
  have hwhole := h.wholeShadow
  unfold shadow
  cases hproperty : c.shadowProperty <;> cases hvalue : c.shadowDefault <;>
    simp_all

/-- The longest wait fits under the ceiling, so there is at least one look. -/
theorem Valid.one_le_cycles (h : c.Valid) : 1 ≤ c.runCeilingSecs / c.backoffMaxSecs := by
  have hmost := (Policy.one_le_iff_ne_zero _).mp h.longestWait
  have hquotient := Policy.quotient_eq_zero_iff c.runCeilingSecs c.backoffMaxSecs
  rw [if_neg hmost] at hquotient
  rw [Policy.one_le_iff_ne_zero, ne_eq, hquotient, not_or]
  exact ⟨hmost, UInt64.not_lt.mpr h.ceiling⟩

theorem runSettings_of_error {e : ConfigError} (h : c.validate = .error e)
    (workingDirectory : Path) : c.runSettings workingDirectory = .error e := by
  rw [runSettings]
  split
  · next found hfound =>
    rw [h] at hfound
    rw [Except.error.inj hfound]
  · next hok =>
    rw [h] at hok
    exact absurd hok (by simp)

/-- A valid configuration has settings. Nothing that is done for them can fail any more. -/
theorem runSettings_of_valid (h : c.Valid) {workingDirectory : Path}
    (hdirectory : workingDirectory.isAbsolute) :
    ∃ s, c.runSettings workingDirectory = .ok s ∧ c.Settles s := by
  have hvalidate := (validate_ok_iff c).mpr h
  have hpaths := credentialPaths_ne_empty hvalidate
  have hpolicy := pollPolicy_ok_iff.mpr ⟨h.longestWait, h.orderedWaits, h.ceiling, rfl⟩
  rcases h.policyName with ⟨name, hname, -⟩
  rw [runSettings]
  split
  · next e he =>
    rw [hvalidate] at he
    exact absurd he (by simp)
  · rw [hpolicy]
    refine ⟨_, rfl, ?_⟩
    exact {
      certificatePath := Path.isAbsolute_absolute hdirectory _ hpaths.1
      keyPath := Path.isAbsolute_absolute hdirectory _ hpaths.2
      policyName := by rw [hname]; rfl
      shadow := fun property value => shadow_eq_some_iff
      noShadow := h.shadow_eq_none_iff
      cycles := h.one_le_cycles
      orderedWaits := (Policy.le_iff_of_seconds_le h.orderedWaits).mpr fun _ => Fin.zero_le _ }

/-- Checks and settings agree. A configuration is accepted exactly if it is valid, and then it
    has settings, with absolute credential paths, a shadow exactly if one is configured, and a
    policy that looks at least once and has its bounds in order. One that is refused has no
    settings, and the complaint is that of the checks. -/
theorem runSettings_iff_valid (c : Config) (workingDirectory : Path)
    (hdirectory : workingDirectory.isAbsolute) :
    (c.validate = .ok () ↔ c.Valid) ∧
    ((∃ s, c.runSettings workingDirectory = .ok s) ↔ c.validate = .ok ()) ∧
    (∀ e, c.runSettings workingDirectory = .error e ↔ c.validate = .error e) ∧
    (∀ s, c.runSettings workingDirectory = .ok s → c.Settles s) := by
  have hvalid := validate_ok_iff c
  refine ⟨hvalid, ?_⟩
  cases hcheck : c.validate with
  | error e =>
      have hsettings := runSettings_of_error hcheck workingDirectory
      simp [hsettings]
  | ok _ =>
      rcases runSettings_of_valid (hvalid.mp hcheck) hdirectory with ⟨s, hsettings, hsettles⟩
      refine ⟨by simp [hsettings], by simp [hsettings], fun found hfound => ?_⟩
      rw [hsettings] at hfound
      exact Except.ok.inj hfound ▸ hsettles

/-- A configuration with a shadow and with credentials in a directory of their own. -/
def seededConfig : Config :=
  { policyName := some "device", certificatePath := "./certs//device.pem",
    shadowProperty := some "color", shadowDefault := some "red" }

/-- It is accepted, and its settings are found from the working directory. -/
theorem runSettings_iff_valid_seeded :
    Path.isAbsolute ⟨"/work"⟩ ∧ ∃ s, seededConfig.runSettings ⟨"/work"⟩ = .ok s ∧
      s.certificatePath = ⟨"/work/certs/device.pem"⟩ ∧ s.keyPath = ⟨"/work/private.pem.key"⟩ ∧
      s.shadow = some ("color", "red") ∧ seededConfig.Settles s := by
  have hdirectory : Path.isAbsolute ⟨"/work"⟩ := by decide +kernel
  have hagree := runSettings_iff_valid seededConfig ⟨"/work"⟩ hdirectory
  have haccepted : seededConfig.validate = .ok () := by decide +kernel
  rcases hagree.2.1.mpr haccepted with ⟨s, hs⟩
  have hsettles := hagree.2.2.2 s hs
  have hfound : (seededConfig.runSettings ⟨"/work"⟩).toOption.any (fun s =>
      s.certificatePath = ⟨"/work/certs/device.pem"⟩ ∧ s.keyPath = ⟨"/work/private.pem.key"⟩) := by
    decide +kernel
  rw [hs] at hfound
  have hpaths := of_decide_eq_true hfound
  exact ⟨hdirectory, s, hs, hpaths.1, hpaths.2, (hsettles.shadow _ _).mpr ⟨rfl, rfl⟩, hsettles⟩

end Config

end Qualifier
