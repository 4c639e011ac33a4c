import Orthography.Configuration.Layers
import Orthography.Proofs.Storage.Disk
import Orthography.Proofs.Toml.Keys

/-!
# Which layer decides a setting

A setting of a project is what the command line says, or else what the file of the project counts
for, or else what the file of the user counts for, or else its default
(`Configuration.load_layered`).

Files are put over each other as whole configurations, in which a setting that a file leaves out
cannot be told from one that it sets to the default.  So a file does not count for a setting that it
sets to the default (`Setting.counted`), and the value of a lower layer stays
(`Configuration.default_in_project_overruled`).  For the two switches every value counts.  The
theorem is silent about a switch that the user has turned on and that a file of the project leaves
out (`Setting.LeftToUser`).

**Files.**  The entries of a file set one setting after the other, and since no key comes twice
(`Toml.distinct_ofText?`) none of them is set again (`Configuration.get_foldlM_set`).

**Layers.**  What a file makes of the configuration below it is said for every setting at once
(`Configuration.get_overlay`, `Configuration.Given.exists_withFile`).
-/

namespace Orthography.Configuration

set_option autoImplicit false

/-! ## Settings -/

/-- A setting of a project. -/
inductive Setting where
  | language
  | dataDirectory
  | relativeChecking
  | maxSuggestions
  | maxDistance
  | maxCompletions
  | firstCompletionsOnly
  | addedWordLevel
  | ignorePatterns
  | documentExtensions
deriving DecidableEq, Repr

namespace Setting

/-- All settings. -/
def all : List Setting :=
  [language, dataDirectory, relativeChecking, maxSuggestions, maxDistance, maxCompletions,
    firstCompletionsOnly, addedWordLevel, ignorePatterns, documentExtensions]

theorem mem_all (setting : Setting) : setting ∈ all := by
  cases setting <;> decide

/-- What a setting can be. -/
def Value : Setting → Type
  | language => Option String
  | dataDirectory => String
  | relativeChecking => Bool
  | maxSuggestions => Nat
  | maxDistance => Binary64
  | maxCompletions => Nat
  | firstCompletionsOnly => Bool
  | addedWordLevel => Level
  | ignorePatterns => List String
  | documentExtensions => List String

instance : (setting : Setting) → DecidableEq setting.Value
  | language => inferInstanceAs (DecidableEq (Option String))
  | dataDirectory => inferInstanceAs (DecidableEq String)
  | relativeChecking => inferInstanceAs (DecidableEq Bool)
  | maxSuggestions => inferInstanceAs (DecidableEq Nat)
  | maxDistance => inferInstanceAs (DecidableEq Binary64)
  | maxCompletions => inferInstanceAs (DecidableEq Nat)
  | firstCompletionsOnly => inferInstanceAs (DecidableEq Bool)
  | addedWordLevel => inferInstanceAs (DecidableEq Level)
  | ignorePatterns => inferInstanceAs (DecidableEq (List String))
  | documentExtensions => inferInstanceAs (DecidableEq (List String))

/-- The key of a setting in a file. -/
def key : Setting → String
  | language => "language"
  | dataDirectory => "data_dir"
  | relativeChecking => "relative_checking"
  | maxSuggestions => "max_suggestions"
  | maxDistance => "max_normalized_distance"
  | maxCompletions => "max_completions"
  | firstCompletionsOnly => "completion_until_first_valid"
  | addedWordLevel => "added_word_level"
  | ignorePatterns => "ignore_patterns"
  | documentExtensions => "document_extensions"

/-- What a value in a file makes of a setting, if it is of the right type. -/
def read : (setting : Setting) → Toml.Value → Option setting.Value
  | language, value => value.text?.map some
  | dataDirectory, value => value.text?
  | relativeChecking, value => value.truth?
  | maxSuggestions, value => value.natural?
  | maxDistance, value => value.fraction?
  | maxCompletions, value => value.natural?
  | firstCompletionsOnly, value => value.truth?
  | addedWordLevel, value => value.level?
  | ignorePatterns, value => value.texts?
  | documentExtensions, value => value.texts?

/-- A setting in a configuration. -/
def get : (setting : Setting) → Configuration → setting.Value
  | language, configuration => configuration.language
  | dataDirectory, configuration => configuration.dataDirectory
  | relativeChecking, configuration => configuration.relativeChecking
  | maxSuggestions, configuration => configuration.maxSuggestions
  | maxDistance, configuration => configuration.maxDistance
  | maxCompletions, configuration => configuration.maxCompletions
  | firstCompletionsOnly, configuration => configuration.firstCompletionsOnly
  | addedWordLevel, configuration => configuration.addedWordLevel
  | ignorePatterns, configuration => configuration.ignorePatterns
  | documentExtensions, configuration => configuration.documentExtensions

/-- A configuration with another value for a setting. -/
def put : (setting : Setting) → setting.Value → Configuration → Configuration
  | language, value, configuration => { configuration with language := value }
  | dataDirectory, value, configuration => { configuration with dataDirectory := value }
  | relativeChecking, value, configuration => { configuration with relativeChecking := value }
  | maxSuggestions, value, configuration => { configuration with maxSuggestions := value }
  | maxDistance, value, configuration => { configuration with maxDistance := value }
  | maxCompletions, value, configuration => { configuration with maxCompletions := value }
  | firstCompletionsOnly, value, configuration =>
    { configuration with firstCompletionsOnly := value }
  | addedWordLevel, value, configuration => { configuration with addedWordLevel := value }
  | ignorePatterns, value, configuration => { configuration with ignorePatterns := value }
  | documentExtensions, value, configuration =>
    { configuration with documentExtensions := value }

/-- Whether a setting is a switch, on or off. -/
def isSwitch : Setting → Bool
  | relativeChecking | firstCompletionsOnly => true
  | _ => false

/-- What the command line says about a setting. -/
def override (overrides : Overrides) : (setting : Setting) → Option setting.Value
  | language => overrides.language.map some
  | relativeChecking => overrides.relativeChecking
  | _ => none

@[simp] theorem get_put_self (setting : Setting) (value : setting.Value)
    (configuration : Configuration) : setting.get (setting.put value configuration) = value := by
  cases setting <;> rfl

theorem get_put_of_ne {setting other : Setting} (differ : other ≠ setting) (value : setting.Value)
    (configuration : Configuration) :
    other.get (setting.put value configuration) = other.get configuration := by
  cases setting <;> cases other <;> first | rfl | exact absurd rfl differ

/-- No two settings have the same key. -/
theorem key_injective : Function.Injective key := by
  intro first second
  cases first <;> cases second <;> simp [key]

end Setting

/-! ## Reading a file -/

/-- The key of a setting sets that setting. -/
theorem set_key (setting : Setting) (configuration : Configuration) (value : Toml.Value) :
    configuration.set setting.key value =
      (setting.read value).map fun held => setting.put held configuration := by
  cases setting with
  | language => exact (Option.map_map (fun held => Setting.put .language held configuration) some _).symm
  | _ => rfl

/-- Other keys set nothing. -/
theorem set_of_unknown {key : String} (unknown : ∀ setting : Setting, key ≠ setting.key)
    (configuration : Configuration) (value : Toml.Value) :
    configuration.set key value = some configuration := by
  unfold set
  split
  · exact absurd rfl (unknown .language)
  · exact absurd rfl (unknown .dataDirectory)
  · exact absurd rfl (unknown .relativeChecking)
  · exact absurd rfl (unknown .maxSuggestions)
  · exact absurd rfl (unknown .maxDistance)
  · exact absurd rfl (unknown .maxCompletions)
  · exact absurd rfl (unknown .firstCompletionsOnly)
  · exact absurd rfl (unknown .addedWordLevel)
  · exact absurd rfl (unknown .ignorePatterns)
  · exact absurd rfl (unknown .documentExtensions)
  · rfl

namespace Setting

/-- What a table says about a setting. -/
def saidIn (setting : Setting) (entries : Toml.Entries) : Option setting.Value :=
  (entries.lookup setting.key).bind setting.read

/-- What a file says about a setting, if there is such a file. -/
def said (setting : Setting) (file : Option Toml.Entries) : Option setting.Value :=
  file.bind setting.saidIn

end Setting

/-- Every setting in a table has a value of the right type. -/
def Fits (entries : Toml.Entries) : Prop :=
  ∀ (setting : Setting) (value : Toml.Value), (setting.key, value) ∈ entries →
    (setting.read value).isSome = true

instance (entries : Toml.Entries) : Decidable (Fits entries) :=
  decidable_of_iff
    (∀ setting ∈ Setting.all, ∀ entry ∈ entries, entry.1 = setting.key →
      (setting.read entry.2).isSome = true)
    ⟨fun fits setting _ member => fits setting setting.mem_all _ member rfl,
      fun fits setting _ entry member same => fits setting entry.2 (same ▸ member)⟩

/-- Setting one key sets its setting to what is said about it, and leaves the others. -/
theorem exists_set {key : String} {value : Toml.Value} (fits : Fits [(key, value)])
    (start : Configuration) :
    ∃ after, start.set key value = some after ∧
      ∀ setting : Setting,
        setting.get after = (setting.saidIn [(key, value)]).getD (setting.get start) := by
  by_cases known : ∃ setting : Setting, key = setting.key
  · obtain ⟨setting, rfl⟩ := known
    obtain ⟨held, reads⟩ := Option.isSome_iff_exists.mp (fits setting value (.head _))
    refine ⟨setting.put held start, by rw [set_key, reads, Option.map_some], fun other => ?_⟩
    by_cases same : other = setting
    · subst same
      simp [Setting.saidIn, reads]
    · have differ : (other.key == setting.key) = false :=
        beq_false_of_ne fun equal => same (Setting.key_injective equal)
      rw [Setting.get_put_of_ne same, Setting.saidIn, List.lookup_cons, differ]
      rfl
  · have unknown : ∀ setting : Setting, key ≠ setting.key := fun setting same =>
      known ⟨setting, same⟩
    refine ⟨start, set_of_unknown unknown start value, fun setting => ?_⟩
    rw [Setting.saidIn, List.lookup_cons, beq_false_of_ne (unknown setting).symm]
    rfl

/-- What a table says comes from its first entry or from the others. -/
theorem Setting.saidIn_cons (setting : Setting) {key : String} {value : Toml.Value}
    {rest : Toml.Entries} (absent : rest.lookup key = none) :
    setting.saidIn ((key, value) :: rest) =
      (setting.saidIn rest).or (setting.saidIn [(key, value)]) := by
  rw [saidIn, saidIn, saidIn, List.lookup_cons, List.lookup_cons]
  by_cases same : setting.key = key
  · rw [same, absent]
    rfl
  · rw [beq_false_of_ne same]
    exact (Option.or_none ..).symm

/-- **Reading a table sets every setting to what the table says about it.** -/
theorem get_foldlM_set {entries : Toml.Entries} (distinct : Toml.Distinct entries)
    (fits : Fits entries) (start : Configuration) :
    ∃ read, entries.foldlM (fun configuration (key, value) => configuration.set key value) start =
        some read ∧
      ∀ setting : Setting, setting.get read = (setting.saidIn entries).getD (setting.get start) := by
  induction entries generalizing start with
  | nil => exact ⟨start, rfl, fun _ => rfl⟩
  | cons entry rest ih =>
    obtain ⟨key, value⟩ := entry
    obtain ⟨absent, unique⟩ := List.nodup_cons.mp distinct
    have fitsFirst : Fits [(key, value)] := fun setting held member =>
      fits setting held (List.mem_cons.mpr (.inl (List.mem_singleton.mp member)))
    have fitsRest : Fits rest := fun setting held member => fits setting held (.tail _ member)
    obtain ⟨next, sets, nextSaid⟩ := exists_set fitsFirst start
    obtain ⟨read, reads, said⟩ := ih unique fitsRest next
    refine ⟨read, Option.bind_eq_some_iff.mpr ⟨next, sets, reads⟩, fun setting => ?_⟩
    rw [said, nextSaid, setting.saidIn_cons (Toml.lookup_eq_none_iff.mpr absent),
      Option.getD_or]

/-! ## One layer -/

namespace Setting

/-- What a file counts for in a setting: what it says, unless that is the default of a setting that
is no switch. -/
def counted (setting : Setting) (file : Option Toml.Entries) : Option setting.Value :=
  (setting.said file).filter fun value => setting.isSwitch || value ≠ setting.get default

end Setting

/-- What stands at a path as a file with settings: nothing, or the text of a table in which every
setting has a value of the right type. -/
inductive Given (disk : Disk) (path : String) : Option Toml.Entries → Prop where
  | absent (nothing : disk.exists? path = false) : Given disk path none
  | present {text : String} {entries : Toml.Entries} (holds : disk.readText? path = some text)
      (stands : Toml.ofText? text = some entries) (fits : Fits entries) :
      Given disk path (some entries)

/-- A text that stands for a table with values of the right types is such a file. -/
theorem given_of_fits {disk : Disk} {path text : String} (holds : disk.readText? path = some text)
    (fits : (Toml.ofText? text).any (fun entries => decide (Fits entries)) = true) :
    Given disk path (Toml.ofText? text) := by
  cases stands : Toml.ofText? text with
  | none =>
    rw [stands] at fits
    cases fits
  | some entries =>
    rw [stands] at fits
    exact .present holds stands (of_decide_eq_true fits)

/-- A configuration over another one decides the switches, and every setting that does not have its
default. -/
theorem get_overlay (below file : Configuration) (setting : Setting) :
    setting.get (below.overlay file) =
      if setting.isSwitch = false ∧ setting.get file = setting.get default then setting.get below
      else setting.get file := by
  cases setting with
  | language =>
    change file.language.or below.language =
      if false = false ∧ file.language = none then below.language else file.language
    cases file.language <;> simp
  | relativeChecking => rfl
  | firstCompletionsOnly => rfl
  | _ => simp only [Setting.isSwitch, true_and]; rfl

/-- A file whose text can be read is there. -/
theorem exists?_of_readText? {disk : Disk} {path text : String}
    (holds : disk.readText? path = some text) : disk.exists? path = true := by
  obtain ⟨bytes, read, -⟩ := Option.bind_eq_some_iff.mp holds
  rw [Disk.exists?, Disk.at?_eq_of_read? read]
  rfl

/-- **Putting a file over a configuration succeeds, and what it does to a setting is said by what
the file says about it.** -/
theorem Given.exists_withFile {disk : Disk} {path : String} {file : Option Toml.Entries}
    (given : Given disk path file) (below : Configuration) :
    ∃ above, withFile disk below path = .ok above ∧
      (∀ setting : Setting, setting.isSwitch = false →
        setting.get above = (setting.counted file).getD (setting.get below)) ∧
      ∀ setting : Setting, setting.isSwitch = true →
        setting.get above =
          if file.isSome then (setting.said file).getD (setting.get default)
          else setting.get below := by
  cases given with
  | absent nothing =>
    exact ⟨below, by rw [withFile, nothing]; rfl, fun _ _ => rfl, fun _ _ => rfl⟩
  | @present text entries holds stands fits =>
    obtain ⟨read, reads, said⟩ := get_foldlM_set (Toml.distinct_ofText? stands) fits default
    have ofFile_eq : ofFile disk path = .ok read := by
      rw [ofFile, holds]
      simp only [ofText?, stands, Option.bind_some, ofEntries?, reads]
    refine ⟨below.overlay read, ?_, fun setting plain => ?_, fun setting switch => ?_⟩
    · rw [withFile, exists?_of_readText? holds, if_pos rfl, ofFile_eq]
      rfl
    · rw [get_overlay, said, Setting.counted, Setting.said, Option.bind_some, plain]
      cases setting.saidIn entries with
      | none => simp
      | some value =>
        by_cases same : value = setting.get default
        · simp [Option.filter_some, same]
        · simp [Option.filter_some, same]
    · rw [get_overlay, said, switch, if_neg (by simp)]
      rfl

/-! ## All layers -/

namespace Setting

/-- A setting in layers: what the command line says, or else what the project says, or else what
the user says, or else the default. -/
def layered (setting : Setting) (overrides : Overrides) (project user : Option setting.Value) :
    setting.Value :=
  ((setting.override overrides).or (project.or user)).getD (setting.get default)

/-- A switch that the user has turned on in a file, while the project has a file that says nothing
about it, and neither does the command line. -/
structure LeftToUser (setting : Setting) (overrides : Overrides)
    (project user : Option Toml.Entries) : Prop where
  switch : setting.isSwitch = true
  notOverridden : setting.override overrides = none
  projectFile : project.isSome = true
  unmentioned : setting.said project = none
  turned : ∃ value, setting.said user = some value ∧ value ≠ setting.get default

/-- The command line comes after all files. -/
theorem get_overridden (setting : Setting) (configuration : Configuration)
    (overrides : Overrides) :
    setting.get { configuration with
        language := overrides.language.or configuration.language
        relativeChecking := overrides.relativeChecking.getD configuration.relativeChecking } =
      (setting.override overrides).getD (setting.get configuration) := by
  cases setting with
  | language =>
    change overrides.language.or configuration.language =
      (overrides.language.map some).getD configuration.language
    cases overrides.language <;> rfl
  | _ => rfl

/-- Whatever a switch is set to counts. -/
theorem counted_of_switch {setting : Setting} (switch : setting.isSwitch = true)
    (file : Option Toml.Entries) : setting.counted file = setting.said file := by
  rw [counted, switch]
  cases setting.said file <;> rfl

end Setting

/-- **The layers of a configuration.**  Whatever the two files are, the configuration of a project
is put together, and a setting in it is what the command line says, or else what the file of the
project counts for, or else what the file of the user counts for, or else its default. -/
theorem load_layered {disk : Disk} {directory root : String} {project user : Option Toml.Entries}
    (ofUser : Given disk (userFile directory) user)
    (ofProject : Given disk (Path.join root projectFileName) project) (overrides : Overrides) :
    ∃ loaded, load disk directory root overrides = .ok loaded ∧
      ∀ setting : Setting, ¬ setting.LeftToUser overrides project user →
        setting.get loaded =
          setting.layered overrides (setting.counted project) (setting.counted user) := by
  obtain ⟨lower, lowerLoads, lowerPlain, lowerSwitch⟩ := ofUser.exists_withFile default
  obtain ⟨upper, upperLoads, upperPlain, upperSwitch⟩ := ofProject.exists_withFile lower
  refine ⟨_, by simp only [load, lowerLoads, upperLoads, bind, Except.bind]; rfl, ?_⟩
  intro setting decided
  rw [setting.get_overridden, Setting.layered, Option.getD_or]
  cases overridden : setting.override overrides with
  | some value => rfl
  | none =>
    by_cases switch : setting.isSwitch = true
    · rw [upperSwitch setting switch, lowerSwitch setting switch,
        Setting.counted_of_switch switch, Setting.counted_of_switch switch, Option.getD_or]
      cases project with
      | none => cases user <;> rfl
      | some entries =>
        cases said : setting.said (some entries) with
        | some value => rfl
        | none =>
          cases saidBelow : setting.said user with
          | none => rfl
          | some value =>
            -- A switch that the project leaves out is off, so the user must have left it off too.
            have unchanged : value = setting.get default := by
              by_contra turned
              exact decided ⟨switch, overridden, rfl, said, value, saidBelow, turned⟩
            rw [unchanged]
            rfl
    · have plain : setting.isSwitch = false := Bool.eq_false_iff.mpr switch
      rw [upperPlain setting plain, lowerPlain setting plain, Option.getD_or]

/-- The settings of a user. -/
def userText : String := "max_suggestions = 3\nmax_completions = 9\n"

/-- The settings of a project, the number of suggestions among them with its default. -/
def projectText : String := "max_suggestions = 5\nrelative_checking = true\n"

/-- A user and a project that have files with settings. -/
def twoLayers : Disk :=
  { nodes :=
      [(["home"], .directory), (["home", "codexspell"], .directory),
        (["home", "codexspell", "config.toml"], .file userText.toUTF8),
        (["work"], .directory), (["work", ".codexspell.toml"], .file projectText.toUTF8)] }

theorem given_userText : Given twoLayers (userFile "home") (Toml.ofText? userText) :=
  given_of_fits (by decide +kernel) (by decide +kernel)

theorem given_projectText :
    Given twoLayers (Path.join "work" projectFileName) (Toml.ofText? projectText) :=
  given_of_fits (by decide +kernel) (by decide +kernel)

/-- The project says 5, the default, and the user says 3, which holds. -/
theorem default_in_project_overruled :
    Given twoLayers (userFile "home") (Toml.ofText? userText) ∧
      Given twoLayers (Path.join "work" projectFileName) (Toml.ofText? projectText) ∧
      ∃ loaded, load twoLayers "home" "work" {} = .ok loaded ∧
        loaded.maxSuggestions = 3 ∧
        Setting.maxSuggestions.layered {} (Setting.maxSuggestions.said (Toml.ofText? projectText))
          (Setting.maxSuggestions.said (Toml.ofText? userText)) = (5 : Nat) := by
  have loads : (load twoLayers "home" "work" {}).toOption.map (·.maxSuggestions) = some 3 := by
    decide +kernel
  have layered : Setting.maxSuggestions.layered {}
      (Setting.maxSuggestions.said (Toml.ofText? projectText))
      (Setting.maxSuggestions.said (Toml.ofText? userText)) =
        Setting.maxSuggestions.get { maxSuggestions := 5 } := by decide +kernel
  cases run : load twoLayers "home" "work" {} with
  | error failure =>
    rw [run] at loads
    cases loads
  | ok loaded =>
    rw [run] at loads
    exact ⟨given_userText, given_projectText, loaded, rfl, Option.some.inj loads, layered⟩

/-- Every one of the layers decides a setting. -/
theorem load_layered_twoLayers :
    ∃ loaded, load twoLayers "home" "work" { language := some "fr" } = .ok loaded ∧
      loaded.language = some "fr" ∧ loaded.relativeChecking = true ∧ loaded.maxCompletions = 9 ∧
      loaded.addedWordLevel = .verified := by
  obtain ⟨loaded, run, holds⟩ :=
    load_layered given_userText given_projectText { language := some "fr" }
  let expected : Configuration :=
    { language := some "fr", relativeChecking := true, maxCompletions := 9 }
  have language : Setting.language.get loaded = Setting.language.get expected :=
    (holds .language fun left => nomatch left.switch).trans (by decide +kernel)
  have switch : Setting.relativeChecking.get loaded = Setting.relativeChecking.get expected :=
    (holds .relativeChecking fun left =>
      absurd left.unmentioned (by decide +kernel)).trans (by decide +kernel)
  have completions : Setting.maxCompletions.get loaded = Setting.maxCompletions.get expected :=
    (holds .maxCompletions fun left => nomatch left.switch).trans (by decide +kernel)
  have level : Setting.addedWordLevel.get loaded = Setting.addedWordLevel.get expected :=
    (holds .addedWordLevel fun left => nomatch left.switch).trans (by decide +kernel)
  exact ⟨loaded, run, language, switch, completions, level⟩

end Orthography.Configuration
