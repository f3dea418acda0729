import NanAdapter.Proofs.GivenRevision
import NanAdapter.Proofs.Words

/-! What the environment asks for. Each of the three variables has a grammar of its own, said here without the readers:
words between blanks, in which a revision, a switch or a number of places is spelled. The reader finds exactly the
configuration that the variables spell, and otherwise blames the first of them that spells nothing. -/

namespace NanAdapter

namespace Revision
variable {cs : List Char} {text : String} {r : Revision}

/-- What may be written for each revision. -/
def spellings : List (String × Revision) :=
  [("1.0", .v1_0), ("1", .v1_0), ("1.2", .v1_2), ("1.5", .v1_5), ("1.6", .v1_6)]

/-- A spelling of the revision, up to the underscores that stand for the point. -/
def Spelled (cs : List Char) (r : Revision) : Prop :=
  ∃ spelling, (spelling, r) ∈ spellings ∧ (cs.map fun c => if c = '_' then '.' else c) = spelling.toList

/-- The word of the text is a spelling of the revision, with a letter `v` before it or without. -/
def Named (text : String) (r : Revision) : Prop :=
  ∃ lead ∈ [[], ['v'], ['V']], ∃ number, Text.Word text (lead ++ number) ∧ Spelled number r

theorem ofNumber?_eq_some : ofNumber? cs = some r ↔ Spelled cs r := by
  unfold ofNumber? Spelled
  generalize (cs.map fun c => if c = '_' then '.' else c) = dotted
  constructor
  · intro named
    dsimp only at named
    split_ifs at named with first second third fourth
    · cases named
      obtain whole | short := first
      · exact ⟨"1.0", by decide, whole⟩
      · exact ⟨"1", by decide, short⟩
    · cases named
      exact ⟨"1.2", by decide, second⟩
    · cases named
      exact ⟨"1.5", by decide, third⟩
    · cases named
      exact ⟨"1.6", by decide, fourth⟩
  · rintro ⟨spelling, listed, rfl⟩
    have each : ∀ entry ∈ spellings, (let dotted := entry.1.toList
        if dotted = "1.0".toList ∨ dotted = "1".toList then some Revision.v1_0
        else if dotted = "1.2".toList then some .v1_2
        else if dotted = "1.5".toList then some .v1_5
        else if dotted = "1.6".toList then some .v1_6
        else none) = some entry.2 := by decide
    exact each (spelling, r) listed

theorem Spelled.head (spelled : Spelled cs r) : cs.head? = some '1' := by
  obtain ⟨spelling, listed, dotted⟩ := spelled
  have each : ∀ entry ∈ spellings, entry.1.toList.head? = some '1' := by decide
  have first := each (spelling, r) listed
  rw [← dotted, List.head?_map] at first
  cases cs with
  | nil => cases first
  | cons c rest =>
    have one : (if c = '_' then '.' else c) = '1' := Option.some.inj first
    split at one
    next => exact absurd one (by decide)
    next => rw [one]; rfl

/-- What is left if one letter `v` before it is taken off. -/
def unled : List Char → List Char
  | 'v' :: rest | 'V' :: rest => rest
  | cs => cs

theorem ofText_eq (text : String) :
    ofText text = (ofNumber? (unled (Text.trim text.toList))).elim (.error ⟨text⟩) .ok := by
  unfold ofText
  dsimp only
  split
  next r named =>
    have named : ofNumber? (unled (Text.trim text.toList)) = some r := named
    rw [named]
    rfl
  next unnamed =>
    have unnamed : ofNumber? (unled (Text.trim text.toList)) = none := unnamed
    rw [unnamed]
    rfl

theorem spelled_unled : Spelled (unled cs) r ↔
    ∃ lead ∈ [[], ['v'], ['V']], ∃ number, cs = lead ++ number ∧ Spelled number r := by
  constructor
  · intro spelled
    unfold unled at spelled
    split at spelled
    next rest => exact ⟨['v'], by decide, rest, rfl, spelled⟩
    next rest => exact ⟨['V'], by decide, rest, rfl, spelled⟩
    next => exact ⟨[], by decide, cs, rfl, spelled⟩
  · intro ⟨lead, listed, number, whole, spelled⟩
    subst whole
    have leads : lead = [] ∨ lead = ['v'] ∨ lead = ['V'] := by simpa using listed
    obtain rfl | rfl | rfl := leads
    · -- No spelling starts with the letter that may lead it.
      cases number with
      | nil => exact spelled
      | cons c rest =>
        cases Option.some.inj spelled.head
        exact spelled
    · exact spelled
    · exact spelled

theorem ofText_eq_ok : ofText text = .ok r ↔ Named text r := by
  have spelling : ofText text = .ok r ↔ Spelled (unled (Text.trim text.toList)) r := by
    rw [ofText_eq, ← ofNumber?_eq_some]
    cases ofNumber? (unled (Text.trim text.toList)) with
    | none => simp
    | some found => simp
  rw [spelling, spelled_unled]
  constructor
  · intro ⟨lead, listed, number, trimmed, spelled⟩
    exact ⟨lead, listed, number, Text.word_iff.mpr trimmed, spelled⟩
  · intro ⟨lead, listed, number, word, spelled⟩
    exact ⟨lead, listed, number, Text.word_iff.mp word, spelled⟩

theorem ofText_eq_error (unnamed : ∀ r, ¬ Named text r) : ofText text = .error ⟨text⟩ := by
  cases read : ofText text with
  | ok r => exact absurd (ofText_eq_ok.mp read) (unnamed r)
  | error cause => rw [text_of_unknown read]

theorem named_text (r : Revision) {text : String} (padded : Text.Padded r.text.toList text.toList) : Named text r := by
  refine ⟨[], by decide, r.text.toList, ⟨padded, ?_⟩, ?_⟩
  · cases r <;> decide
  · refine ⟨r.text, ?_, ?_⟩ <;> cases r <;> decide

end Revision

namespace Config
variable {text : String} {on : Bool}

/-- The words of a switch. -/
def switchWords : List (String × Bool) :=
  [("1", true), ("true", true), ("yes", true), ("on", true),
    ("0", false), ("false", false), ("no", false), ("off", false), ("", false)]

/-- The word of the text is one for this position of the switch, in either case. -/
def Switches (text : String) (on : Bool) : Prop :=
  ∃ word, Text.Word text word ∧ (String.ofList (word.map Char.toLower), on) ∈ switchWords

/-- The word of the text is the number in digits, with a plus sign or without. -/
def Counts (text : String) (n : Nat) : Prop :=
  ∃ sign ∈ [[], ['+']], ∃ digits, Text.Word text (sign ++ digits) ∧ Text.Digits digits n

/-- The text asks for so many places. -/
def Places (text : String) (n : UInt64) : Prop := Counts text n.toNat

theorem switch?_eq_some (text : String) (on : Bool) : switch? text = some on ↔ Switches text on := by
  have listed : switch? text = some on ↔ (Text.folded text, on) ∈ switchWords := by
    rw [switch?]
    generalize Text.folded text = word
    cases on <;> simp [switchWords] <;> grind
  rw [listed, Text.folded]
  constructor
  · intro member
    exact ⟨_, Text.word_trim text, member⟩
  · intro ⟨word, stands, member⟩
    rwa [← Text.word_iff.mp stands] at member

theorem counts_iff {n : Nat} : Counts text n ↔ Text.unsigned? (Text.trim text.toList) = some n := by
  rw [Text.unsigned?_eq_some]
  constructor
  · intro ⟨sign, listed, digits, word, value⟩
    exact ⟨sign, listed, digits, Text.word_iff.mp word, value⟩
  · intro ⟨sign, listed, digits, trimmed, value⟩
    exact ⟨sign, listed, digits, Text.word_iff.mpr trimmed, value⟩

theorem capacity?_eq_some (text : String) (n : UInt64) : capacity? text = some n ↔ Places text n := by
  rw [Places, counts_iff, capacity?]
  cases Text.unsigned? (Text.trim text.toList) with
  | none => simp
  | some m =>
    simp only [Option.ite_none_right_eq_some, Option.some.injEq]
    constructor
    · rintro ⟨small, rfl⟩
      exact (UInt64.toNat_ofNat_of_lt' small).symm
    · rintro rfl
      exact ⟨n.toNat_lt, UInt64.ofNat_toNat⟩

section
variable {α : Type} {env other : Environment} {key : String} {before value : α} {Means : String → α → Prop}

/-- The text of a variable that is set means the value. One that is not set leaves the value that was there before. -/
def Gives (env : Environment) (key : String) (before : α) (Means : String → α → Prop) (value : α) : Prop :=
  match env key with
  | none => value = before
  | some text => Means text value

/-- The variable is set, and its text means nothing. -/
structure Lost (env : Environment) (key : String) (Means : String → α → Prop) (text : String) : Prop where
  set : env key = some text
  nothing : ∀ value, ¬ Means text value

theorem gives_of_set {text : String} (set : env key = some text) :
    Gives env key before Means value ↔ Means text value := by
  rw [Gives, set]

theorem exists_gives (before : α) : (∃ value, Gives env key before Means value) ↔
    ∀ text, env key = some text → ∃ value, Means text value := by
  unfold Gives
  cases env key with
  | none => simp
  | some text => simp

theorem settingIn_of_set {text : String} (set : env key = some text) (before : α) (read : String → Option α) :
    settingIn env key before read = (read text).elim (.error (.setting key text)) .ok := by
  rw [settingIn, set]

theorem settingIn_eq_ok {read : String → Option α} (reads : ∀ text value, read text = some value ↔ Means text value) :
    settingIn env key before read = .ok value ↔ Gives env key before Means value := by
  cases set : env key with
  | none => simp [settingIn, Gives, set, eq_comm]
  | some text =>
    rw [settingIn_of_set set, gives_of_set set, ← reads]
    cases read text with
    | none => simp
    | some found => simp

theorem settingIn_eq_error {read : String → Option α}
    (reads : ∀ text value, read text = some value ↔ Means text value) {fault : ConfigFault} :
    settingIn env key before read = .error fault ↔ ∃ text, Lost env key Means text ∧ fault = .setting key text := by
  constructor
  · intro blamed
    cases set : env key with
    | none =>
      rw [settingIn, set] at blamed
      cases blamed
    | some text =>
      rw [settingIn_of_set set] at blamed
      cases found : read text with
      | some value =>
        rw [found] at blamed
        cases blamed
      | none =>
        rw [found] at blamed
        have nothing (value : α) : ¬ Means text value := by
          intro means
          cases found.symm.trans ((reads text value).mpr means)
        exact ⟨text, ⟨set, nothing⟩, (Except.error.inj blamed).symm⟩
  · rintro ⟨text, ⟨set, nothing⟩, rfl⟩
    rw [settingIn_of_set set]
    cases found : read text with
    | some value => exact absurd ((reads text value).mp found) (nothing value)
    | none => rfl

theorem revisionIn_eq_ok {r : Revision} :
    revisionIn env = .ok r ↔ Gives env revisionKey default.revision Revision.Named r := by
  unfold revisionIn Gives
  cases env revisionKey with
  | none => simp [eq_comm]
  | some text => exact mapError_eq_ok.trans Revision.ofText_eq_ok

theorem revisionIn_eq_error {fault : ConfigFault} :
    revisionIn env = .error fault ↔ ∃ text, Lost env revisionKey Revision.Named text ∧ fault = .revision ⟨text⟩ := by
  constructor
  · intro blamed
    cases set : env revisionKey with
    | none =>
      rw [revisionIn, set] at blamed
      cases blamed
    | some text =>
      cases read : Revision.ofText text with
      | ok r =>
        rw [revisionIn, set] at blamed
        simp [read, Except.mapError] at blamed
      | error cause =>
        have nothing (r : Revision) : ¬ Revision.Named text r := by
          intro named
          cases read.symm.trans (Revision.ofText_eq_ok.mpr named)
        rw [revisionIn_of_unknown set read] at blamed
        exact ⟨text, ⟨set, nothing⟩, (Except.error.inj blamed).symm⟩
  · rintro ⟨text, ⟨set, nothing⟩, rfl⟩
    exact revisionIn_of_unknown set (Revision.ofText_eq_error nothing)

/-- The configuration that the variables spell. -/
structure AskedFor (env : Environment) (config : Config) : Prop where
  revision : Gives env revisionKey default.revision Revision.Named config.revision
  verbose : Gives env verboseKey default.verbose Switches config.verbose
  capacity : Gives env capacityKey default.capacity Places config.capacity
  some : config.capacity ≠ 0

/-- The first thing that is wrong, if the variables are gone through in this order. -/
inductive Blames (env : Environment) : ConfigFault → Prop where
  | revision {text : String} (lost : Lost env revisionKey Revision.Named text) : Blames env (.revision ⟨text⟩)
  | verbose {r : Revision} {text : String} (named : Gives env revisionKey default.revision Revision.Named r)
      (lost : Lost env verboseKey Switches text) : Blames env (.setting verboseKey text)
  | capacity {r : Revision} {on : Bool} {text : String}
      (named : Gives env revisionKey default.revision Revision.Named r)
      (switched : Gives env verboseKey default.verbose Switches on)
      (lost : Lost env capacityKey Places text) : Blames env (.setting capacityKey text)
  | noCapacity {r : Revision} {on : Bool} (named : Gives env revisionKey default.revision Revision.Named r)
      (switched : Gives env verboseKey default.verbose Switches on)
      (counted : Gives env capacityKey default.capacity Places 0) : Blames env .noCapacity

theorem settingsIn_eq_ok {capacity : UInt64} : settingsIn env = .ok (on, capacity) ↔
    Gives env verboseKey default.verbose Switches on ∧
      Gives env capacityKey default.capacity Places capacity ∧ capacity ≠ 0 := by
  unfold settingsIn
  simp only [bind_eq_ok, settingIn_eq_ok switch?_eq_some, settingIn_eq_ok capacity?_eq_some]
  constructor
  · rintro ⟨verbose, switched, found, counted, taken⟩
    split at taken
    next => cases taken
    next some =>
      cases taken
      exact ⟨switched, counted, some⟩
  · rintro ⟨switched, counted, some⟩
    exact ⟨on, switched, capacity, counted, if_neg some⟩

theorem ofEnvironment_eq_ok {config : Config} : ofEnvironment env = .ok config ↔ AskedFor env config := by
  rw [ofEnvironment_eq]
  simp only [bind_eq_ok, revisionIn_eq_ok]
  constructor
  · rintro ⟨r, named, ⟨verbose, capacity⟩, found, whole⟩
    obtain ⟨switched, counted, some⟩ := settingsIn_eq_ok.mp found
    cases whole
    exact ⟨named, switched, counted, some⟩
  · intro asked
    exact ⟨_, asked.revision, _, settingsIn_eq_ok.mpr ⟨asked.verbose, asked.capacity, asked.some⟩, rfl⟩

theorem ofEnvironment_eq_error {fault : ConfigFault} : ofEnvironment env = .error fault ↔ Blames env fault := by
  rw [ofEnvironment_eq]
  unfold settingsIn
  simp only [bind_eq_error, revisionIn_eq_ok, revisionIn_eq_error, settingIn_eq_ok switch?_eq_some,
    settingIn_eq_error switch?_eq_some, settingIn_eq_ok capacity?_eq_some, settingIn_eq_error capacity?_eq_some]
  constructor
  · rintro (⟨text, lost, rfl⟩ | ⟨r, named, wrong | ⟨settings, -, settled⟩⟩)
    · exact .revision lost
    · obtain ⟨text, lost, rfl⟩ | ⟨on, switched, ⟨text, lost, rfl⟩ | ⟨n, counted, none⟩⟩ := wrong
      · exact .verbose named lost
      · exact .capacity named switched lost
      · split at none
        next zero =>
          cases none
          rw [zero] at counted
          exact .noCapacity named switched counted
        next => cases none
    · cases settled
  · intro blamed
    cases blamed with
    | revision lost => exact .inl ⟨_, lost, rfl⟩
    | verbose named lost => exact .inr ⟨_, named, .inl (.inl ⟨_, lost, rfl⟩)⟩
    | capacity named switched lost => exact .inr ⟨_, named, .inl (.inr ⟨_, switched, .inl ⟨_, lost, rfl⟩⟩)⟩
    | noCapacity named switched counted =>
      exact .inr ⟨_, named, .inl (.inr ⟨_, switched, .inr ⟨0, counted, rfl⟩⟩)⟩

theorem ofEnvironment_same (same : ∀ key ∈ [revisionKey, verboseKey, capacityKey], other key = env key) :
    ofEnvironment other = ofEnvironment env := by
  have setting {α : Type} {key : String} (read : key ∈ [revisionKey, verboseKey, capacityKey]) (before : α)
      (value : String → Option α) : settingIn other key before value = settingIn env key before value := by
    rw [settingIn, settingIn, same key read]
  have revision : revisionIn other = revisionIn env := by
    rw [revisionIn, revisionIn, same revisionKey (by decide)]
  rw [ofEnvironment_eq, ofEnvironment_eq, revision, settingsIn, settingsIn, setting (by decide), setting (by decide)]

theorem exists_askedFor : (∃ config, AskedFor env config) ↔
    (∀ text, env revisionKey = some text → ∃ r, Revision.Named text r) ∧
      (∀ text, env verboseKey = some text → ∃ on, Switches text on) ∧
      ∀ text, env capacityKey = some text → ∃ n, Counts text n ∧ 1 ≤ n ∧ n < UInt64.size := by
  rw [← exists_gives default.revision, ← exists_gives default.verbose]
  constructor
  · intro ⟨config, asked⟩
    refine ⟨⟨_, asked.revision⟩, ⟨_, asked.verbose⟩, ?_⟩
    intro text set
    have counted : Places text config.capacity := (gives_of_set set).mp asked.capacity
    have some : config.capacity.toNat ≠ 0 := fun zero => asked.some (UInt64.toNat_inj.mp zero)
    exact ⟨config.capacity.toNat, counted, by omega, config.capacity.toNat_lt⟩
  · intro ⟨⟨r, named⟩, ⟨on, switched⟩, counted⟩
    cases set : env capacityKey with
    | none =>
      have kept : Gives env capacityKey default.capacity Places default.capacity := by rw [Gives, set]
      have some : default.capacity ≠ 0 := by decide
      exact ⟨⟨r, on, default.capacity⟩, named, switched, kept, some⟩
    | some text =>
      obtain ⟨n, counts, least, most⟩ := counted text set
      have whole : (UInt64.ofNat n).toNat = n := UInt64.toNat_ofNat_of_lt' most
      have places : Places text (.ofNat n) := by rwa [Places, whole]
      have some : UInt64.ofNat n ≠ 0 := by
        intro zero
        rw [zero] at whole
        change 0 = n at whole
        omega
      exact ⟨⟨r, on, .ofNat n⟩, named, switched, (gives_of_set set).mpr places, some⟩

/-- The text is what is said, with any blanks around it. -/
def Says (env : Environment) (key word : String) : Prop :=
  ∃ text, env key = some text ∧ Text.Padded word.toList text.toList

theorem switches_toString {on : Bool} {text : String} (padded : Text.Padded (toString on).toList text.toList) :
    Switches text on := by
  refine ⟨(toString on).toList, ⟨padded, ?_⟩, ?_⟩
  · cases on <;> decide
  · cases on <;> decide

theorem places_decimal {n : UInt64} {text : String} (padded : Text.Padded (Text.decimal n.toNat).toList text.toList) :
    Places text n := by
  rw [Text.decimal, String.toList_ofList] at padded
  have digits := Text.natural?_eq_some.mp (Text.natural?_natural n.toNat)
  exact ⟨[], by decide, _, ⟨padded, Text.bare_natural _⟩, digits⟩

/-- A configuration that is written into the variables is asked for by them. -/
theorem askedFor_said {config : Config} (valid : config.validate = .ok ())
    (revision : Says env revisionKey config.revision.text) (verbose : Says env verboseKey (toString config.verbose))
    (capacity : Says env capacityKey (Text.decimal config.capacity.toNat)) : AskedFor env config := by
  obtain ⟨named, setRevision, paddedRevision⟩ := revision
  obtain ⟨switched, setVerbose, paddedVerbose⟩ := verbose
  obtain ⟨counted, setCapacity, paddedCapacity⟩ := capacity
  refine ⟨?_, ?_, ?_, ?_⟩
  · exact (gives_of_set setRevision).mpr (Revision.named_text config.revision paddedRevision)
  · exact (gives_of_set setVerbose).mpr (switches_toString paddedVerbose)
  · exact (gives_of_set setCapacity).mpr (places_decimal paddedCapacity)
  · intro nothing
    rw [validate, if_pos nothing] at valid
    cases valid

/-- The variables are read exactly as they are spelled, and no other variable is. There is a configuration unless one of
them spells nothing, and what is blamed is the first one that does. What has been written into the variables is read
back. -/
theorem ofEnvironment_exact (env : Environment) :
    (∀ config, ofEnvironment env = .ok config ↔ AskedFor env config) ∧
    ((∃ config, ofEnvironment env = .ok config) ↔
      (∀ text, env revisionKey = some text → ∃ r, Revision.Named text r) ∧
      (∀ text, env verboseKey = some text → ∃ on, Switches text on) ∧
      ∀ text, env capacityKey = some text → ∃ n, Counts text n ∧ 1 ≤ n ∧ n < UInt64.size) ∧
    (∀ fault, ofEnvironment env = .error fault ↔ Blames env fault) ∧
    (∀ config, ofEnvironment env = .ok config → config.validate = .ok ()) ∧
    (∀ other : Environment, (∀ key ∈ [revisionKey, verboseKey, capacityKey], other key = env key) →
      ofEnvironment other = ofEnvironment env) ∧
    ∀ config : Config, config.validate = .ok () → Says env revisionKey config.revision.text →
      Says env verboseKey (toString config.verbose) → Says env capacityKey (Text.decimal config.capacity.toNat) →
      ofEnvironment env = .ok config := by
  refine ⟨fun _ => ofEnvironment_eq_ok, ?_, fun _ => ofEnvironment_eq_error, ?_, fun _ => ofEnvironment_same, ?_⟩
  · simp only [ofEnvironment_eq_ok]
    exact exists_askedFor
  · intro config read
    exact if_neg (ofEnvironment_eq_ok.mp read).some
  · intro config valid revision verbose capacity
    exact ofEnvironment_eq_ok.mpr (askedFor_said valid revision verbose capacity)

/-- All three variables are spelled as oddly as they may be, beside a fourth one. Then the last two spell nothing, and
then a configuration has been written into them. -/
theorem ofEnvironment_exact_odd :
    let env : Environment := fun key =>
      if key = revisionKey then some "\u3000V1_6\n"
      else if key = verboseKey then some " oN\t"
      else if key = capacityKey then some "\u00a0+0032"
      else none
    let crowded : Environment := fun key => if key = "PATH" then some "/bin" else env key
    let lost : Environment := fun key =>
      if key = verboseKey then some " maybe" else if key = capacityKey then some "-1" else none
    let said : Environment := fun key =>
      if key = revisionKey then some " 1.2" else if key = verboseKey then some "true\n" else some "8"
    AskedFor env ⟨.v1_6, true, 32⟩ ∧ validate ⟨.v1_6, true, 32⟩ = .ok () ∧
      ofEnvironment crowded = ofEnvironment env ∧ Blames lost (.setting verboseKey " maybe") ∧
      ofEnvironment said = .ok ⟨.v1_2, true, 8⟩ := by
  intro env crowded lost said
  have read : ofEnvironment env = .ok ⟨.v1_6, true, 32⟩ := by decide +kernel
  have blamed : ofEnvironment lost = .error (.setting verboseKey " maybe") := by decide +kernel
  have revision : Says said revisionKey (Revision.text .v1_2) :=
    ⟨" 1.2", rfl, [' '], [], by decide, by decide, by decide⟩
  have verbose : Says said verboseKey (toString true) := ⟨"true\n", rfl, [], ['\n'], by decide, by decide, by decide⟩
  have capacity : Says said capacityKey (Text.decimal 8) := ⟨"8", rfl, [], [], by decide, by decide, by decide⟩
  obtain ⟨asked, -, -, valid, same, -⟩ := ofEnvironment_exact env
  obtain ⟨-, -, blames, -, -, -⟩ := ofEnvironment_exact lost
  obtain ⟨-, -, -, -, -, written⟩ := ofEnvironment_exact said
  exact ⟨(asked _).mp read, valid _ read, same crowded (by decide), (blames _).mp blamed,
    written ⟨.v1_2, true, 8⟩ rfl revision verbose capacity⟩

end

end Config

end NanAdapter
