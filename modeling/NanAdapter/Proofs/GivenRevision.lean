import Mathlib.Data.List.Basic
import NanAdapter.Proofs.Documents
import NanAdapter.Replay.Program

/-! A revision that is given to the replay program against the one that the environment asks for. The environment is
read as a whole before anything given is looked at. So the revision given takes the place of any that can be read, and
of none at all, but a variable that names no revision ends the program all the same. -/

namespace NanAdapter

namespace Revision

/-- A text that names no revision is blamed as it is. -/
theorem text_of_unknown {text : String} {cause : Unknown} (unknown : ofText text = .error cause) : cause = ⟨text⟩ := by
  simp only [ofText] at unknown
  split at unknown
  next => cases unknown
  next => exact (Except.error.inj unknown).symm

end Revision

namespace Config

/-- The revision that the environment asks for. -/
def revisionIn (env : Environment) : Except ConfigFault Revision :=
  match env revisionKey with
  | none => .ok default.revision
  | some text => (Revision.ofText text).mapError .revision

/-- The value of any other variable if it is set, and otherwise the one that was there before. -/
def settingIn (env : Environment) (key : String) (before : α) (read : String → Option α) : Except ConfigFault α :=
  match env key with
  | none => .ok before
  | some text => (read text).elim (.error (.setting key text)) .ok

/-- The settings that are read after the revision. -/
def settingsIn (env : Environment) : Except ConfigFault (Bool × UInt64) := do
  let verbose ← settingIn env verboseKey default.verbose switch?
  let capacity ← settingIn env capacityKey default.capacity capacity?
  if capacity = 0 then throw .noCapacity else return (verbose, capacity)

/-- The variable is not set, or it names a revision. -/
def Readable (env : Environment) : Prop :=
  ∀ text, env revisionKey = some text → ∃ revision, Revision.ofText text = .ok revision

/-- The revision has no part in what is made of the other variables. -/
theorem ofEnvironment_eq (env : Environment) : ofEnvironment env = (do
    let revision ← revisionIn env
    let settings ← settingsIn env
    return ⟨revision, settings.1, settings.2⟩) := by
  have steps : ofEnvironment env = (do
      let revision ← revisionIn env
      let verbose ← settingIn env verboseKey default.verbose switch?
      let capacity ← settingIn env capacityKey default.capacity capacity?
      validate ⟨revision, verbose, capacity⟩
      return ⟨revision, verbose, capacity⟩) := rfl
  rw [steps, settingsIn]
  cases revisionIn env with
  | error fault => rfl
  | ok revision =>
    cases settingIn env verboseKey default.verbose switch? with
    | error fault => rfl
    | ok verbose =>
      cases settingIn env capacityKey default.capacity capacity? with
      | error fault => rfl
      | ok capacity =>
        by_cases nothing : capacity = 0
        · subst nothing
          rfl
        · have valid : validate ⟨revision, verbose, capacity⟩ = .ok () := if_neg nothing
          have taken : (if capacity = 0 then throw .noCapacity else pure (verbose, capacity) :
              Except ConfigFault (Bool × UInt64)) = .ok (verbose, capacity) := if_neg nothing
          simp only [valid, taken, bind, Except.bind]

section
variable {env other : Environment}

theorem settingsIn_congr (same : ∀ key, key ≠ revisionKey → other key = env key) :
    settingsIn other = settingsIn env := by
  have setting {α : Type} {key : String} (apart : key ≠ revisionKey) (before : α) (read : String → Option α) :
      settingIn other key before read = settingIn env key before read := by
    rw [settingIn, settingIn, same key apart]
  rw [settingsIn, settingsIn, setting (by decide), setting (by decide)]

theorem settingIn_ne_revision {key : String} {before : α} {read : String → Option α} (cause : Revision.Unknown) :
    settingIn env key before read ≠ .error (.revision cause) := by
  intro blamed
  unfold settingIn at blamed
  split at blamed
  next => cases blamed
  next text _ =>
    cases value : read text with
    | none =>
      rw [value] at blamed
      cases blamed
    | some value' =>
      rw [value] at blamed
      cases blamed

/-- Whatever is wrong with the other variables, the revision is not blamed for it. -/
theorem settingsIn_ne_revision (cause : Revision.Unknown) : settingsIn env ≠ .error (.revision cause) := by
  intro blamed
  unfold settingsIn at blamed
  cases verbose : settingIn env verboseKey default.verbose switch? with
  | error fault =>
    rw [verbose] at blamed
    exact settingIn_ne_revision cause (verbose.trans (congrArg Except.error (Except.error.inj blamed)))
  | ok value =>
    cases capacity : settingIn env capacityKey default.capacity capacity? with
    | error fault =>
      rw [verbose, capacity] at blamed
      exact settingIn_ne_revision cause (capacity.trans (congrArg Except.error (Except.error.inj blamed)))
    | ok size =>
      rw [verbose, capacity] at blamed
      change (if size = 0 then Except.error ConfigFault.noCapacity else Except.ok (value, size)) = _ at blamed
      split at blamed
      next => cases blamed
      next => cases blamed

theorem revisionIn_of_readable (readable : Readable env) : ∃ revision, revisionIn env = .ok revision := by
  unfold revisionIn
  split
  next => exact ⟨default.revision, rfl⟩
  next text set =>
    obtain ⟨revision, named⟩ := readable text set
    exact ⟨revision, by rw [named]; rfl⟩

theorem revisionIn_of_unknown {text : String} {cause : Revision.Unknown} (set : env revisionKey = some text)
    (unknown : Revision.ofText text = .error cause) : revisionIn env = .error (.revision ⟨text⟩) := by
  simp only [revisionIn, set, unknown, Revision.text_of_unknown unknown]
  rfl

theorem exists_unknown (unreadable : ¬ Readable env) :
    ∃ text cause, env revisionKey = some text ∧ Revision.ofText text = .error cause := by
  cases set : env revisionKey with
  | none =>
    have readable : Readable env := by
      intro text found
      cases set.symm.trans found
    exact absurd readable unreadable
  | some text =>
    cases read : Revision.ofText text with
    | error cause => exact ⟨text, cause, rfl, read⟩
    | ok revision =>
      have readable : Readable env := by
        intro other found
        cases set.symm.trans found
        exact ⟨revision, read⟩
      exact absurd readable unreadable

end

end Config

namespace Replay.Options
variable {options : Options} {env other : Environment} {r : Revision}

/-- What becomes of a revision that is given: it waits until the one of the environment is read, and then takes its
place. -/
theorem config_of_given (given : options.revision = some r) (env : Environment) :
    options.config env = (do
      let _ ← Config.revisionIn env
      let settings ← Config.settingsIn env
      return ⟨r, options.verbose || settings.1, settings.2⟩) := by
  rw [config, Config.ofEnvironment_eq, given]
  cases Config.revisionIn env with
  | error fault => rfl
  | ok revision =>
    cases Config.settingsIn env with
    | error fault => rfl
    | ok settings => rfl

theorem config_of_readable (given : options.revision = some r) (readable : Config.Readable env) :
    options.config env =
      (Config.settingsIn env).map fun settings => ⟨r, options.verbose || settings.1, settings.2⟩ := by
  obtain ⟨revision, read⟩ := Config.revisionIn_of_readable readable
  rw [config_of_given given, read]
  cases Config.settingsIn env with
  | error fault => rfl
  | ok settings => rfl

theorem config_of_unknown {text : String} {cause : Revision.Unknown} (given : options.revision = some r)
    (set : env Config.revisionKey = some text) (unknown : Revision.ofText text = .error cause) :
    options.config env = .error (.revision ⟨text⟩) := by
  rw [config_of_given given, Config.revisionIn_of_unknown set unknown]
  rfl

theorem config_ne_of_readable (given : options.revision = some r) (readable : Config.Readable env)
    (cause : Revision.Unknown) : options.config env ≠ .error (.revision cause) := by
  rw [config_of_readable given readable]
  cases settings : Config.settingsIn env with
  | error fault =>
    intro blamed
    apply Config.settingsIn_ne_revision cause
    exact settings.trans (congrArg Except.error (Except.error.inj blamed))
  | ok found =>
    intro blamed
    cases blamed

/-- Two environments that differ in the revision only give the same configuration if the revision is given, unless one
of them names no revision. Then that one is to blame, whatever is given. -/
theorem given_revision_overrides_readable (given : options.revision = some r)
    (same : ∀ key, key ≠ Config.revisionKey → other key = env key) :
    (options.config other = options.config env ↔
        Config.Readable env ∧ Config.Readable other ∨ other Config.revisionKey = env Config.revisionKey) ∧
      (∀ config, options.config env = .ok config → config.revision = r) ∧
      ∀ text cause, env Config.revisionKey = some text → Revision.ofText text = .error cause →
        options.config env = .error (.revision ⟨text⟩) := by
  refine ⟨?_, ?_, fun text cause => config_of_unknown given⟩
  · constructor
    · intro agree
      by_cases here : Config.Readable env
      · by_cases there : Config.Readable other
        · exact .inl ⟨here, there⟩
        · obtain ⟨text, cause, set, unknown⟩ := Config.exists_unknown there
          rw [config_of_unknown given set unknown] at agree
          exact absurd agree.symm (config_ne_of_readable given here _)
      · obtain ⟨text, cause, set, unknown⟩ := Config.exists_unknown here
        rw [config_of_unknown given set unknown] at agree
        by_cases there : Config.Readable other
        · exact absurd agree (config_ne_of_readable given there _)
        · obtain ⟨text', cause', set', unknown'⟩ := Config.exists_unknown there
          rw [config_of_unknown given set' unknown'] at agree
          cases Except.error.inj agree
          exact .inr (set'.trans set.symm)
    · intro alike
      obtain ⟨here, there⟩ | set := alike
      · rw [config_of_readable given here, config_of_readable given there, Config.settingsIn_congr same]
      · have whole : other = env := by
          funext key
          by_cases about : key = Config.revisionKey
          · rw [about, set]
          · exact same key about
        rw [whole]
  · intro config found
    rw [config_of_given given, bind_eq_ok] at found
    obtain ⟨asked, -, found⟩ := found
    rw [bind_eq_ok] at found
    obtain ⟨settings, -, found⟩ := found
    cases found
    rfl

/-- The environment asks for an older revision in one case and for none in the other, and for a queue of eight places
in both. -/
theorem given_revision_overrides_older :
    let options : Options := ⟨"trace", some .v1_6, true, false, false, false, []⟩
    let other : Environment := fun key => if key = Config.capacityKey then some "8" else none
    let env : Environment := fun key => if key = Config.revisionKey then some " v1_2" else other key
    (∀ key, key ≠ Config.revisionKey → other key = env key) ∧ options.config other = options.config env ∧
      options.config env = .ok ⟨.v1_6, true, 8⟩ := by
  intro options other env
  have same : ∀ key, key ≠ Config.revisionKey → other key = env key := by
    intro key apart
    exact (if_neg apart).symm
  have here : Config.Readable env := by
    intro text set
    cases set
    exact ⟨.v1_2, by decide⟩
  have there : Config.Readable other := by
    intro text set
    cases set
  have given : options.revision = some .v1_6 := rfl
  obtain ⟨agree, -⟩ := given_revision_overrides_readable given same
  exact ⟨same, agree.mpr (.inl ⟨here, there⟩), by decide +kernel⟩

/-- The variable holds `7`. It makes no difference what revision is given on the command line. -/
theorem unknown_revision_is_not_overridden :
    let options : Options := ⟨"trace", some .v1_6, false, false, false, false, []⟩
    let unset : Environment := fun _ => none
    let set : Environment := fun key => if key = Config.revisionKey then some "7" else none
    Options.ofArguments ["--trace", "trace", "--revision", "1.6"] = .ok options ∧
      options.config unset = .ok ⟨.v1_6, false, 256⟩ ∧ options.config set = .error (.revision ⟨"7"⟩) := by
  decide +kernel

end Replay.Options

end NanAdapter
