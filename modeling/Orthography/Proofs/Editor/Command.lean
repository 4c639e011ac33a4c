import Orthography.Editor.Service
import Orthography.Proofs.Addition
import Orthography.Proofs.Lexicon.Likeness

/-!
# Commands that an editor sends back

A suggestion may offer a command.  An editor gets it as a name with arguments, and sends name and
arguments back when the command is chosen.

**Reading.**  A name and arguments are understood exactly if they are not malformed
(`Editor.Malformed`, `Editor.exists_readCommand_iff`).  All of this is decided before anything is
changed, and a failure to understand is told apart from a failure to write
(`Editor.malformed_changes_nothing`).

**Coming back.**  What a command is sent as is understood as the command
(`Editor.readCommand_ofCommand`).  So it does the same as the command itself: exactly the same with
the same supply of identifiers, and the same but for the new identifiers with any other
(`Editor.execute_like_apply`).  The second part rests on likeness of lexicons, carried through the
definitions of all the words (`Session.Alike.addWordsAt`).
-/

namespace Orthography

set_option autoImplicit false

/-- What is counted after a failure is the failure. -/
theorem eq_error_of_map {α β : Type} {result : Except Failure α} {count : α → β}
    {failure : Failure} (failed : result.map count = .error failure) : result = .error failure := by
  cases result with
  | error cause =>
    cases failed
    rfl
  | ok value => cases failed

/-! ## Adding words -/

namespace Session

section Steps

variable {session : Session} {world : World} {level : Level} {word : String}

/-- When a word cannot be added, the words after it are not tried. -/
theorem addWordsAt_cons_of_failed {failure : Failure} (rest : List String)
    (failed : (session.define world word level).result = .error failure) :
    session.addWordsAt world level (word :: rest)
      = ⟨.error failure, (session.define world word level).session,
          (session.define world word level).world⟩ := by
  rw [addWordsAt]
  simp only [failed]

/-- When a word could be added, the words after it are added to what there is then. -/
theorem addWordsAt_cons_of_done {isNew : Bool} (rest : List String)
    (done : (session.define world word level).result = .ok isNew) :
    session.addWordsAt world level (word :: rest)
      = { (session.define world word level).session.addWordsAt
            (session.define world word level).world level rest with
          result := ((session.define world word level).session.addWordsAt
            (session.define world word level).world level rest).result.map
              fun count => count + if isNew then 1 else 0 } := by
  rw [addWordsAt]
  simp only [done]

/-- Adding a word fails only when a file cannot be written. -/
theorem storage_of_define {failure : Failure}
    (failed : (session.define world word level).result = .error failure) :
    ∃ path, failure = .storage path := by
  have outcome := Lexicon.defined session.lexicon world word level
  rw [define] at failed
  generalize session.lexicon.define world word level = change at outcome failed
  cases outcome with
  | known | inMemory | saved => cases failed
  | failed =>
    cases failed
    exact ⟨_, rfl⟩

/-- So does adding several words. -/
theorem storage_of_addWordsAt {words : List String} {failure : Failure}
    (failed : (session.addWordsAt world level words).result = .error failure) :
    ∃ path, failure = .storage path := by
  induction words generalizing session world with
  | nil => cases failed
  | cons word rest ih =>
    cases result : (session.define world word level).result with
    | error cause =>
      rw [addWordsAt_cons_of_failed rest result] at failed
      cases failed
      exact storage_of_define result
    | ok isNew =>
      rw [addWordsAt_cons_of_done rest result] at failed
      exact ih (eq_error_of_map failed)

end Steps

/-- Two sessions are alike: they differ in nothing but their lexicons, and these are alike. -/
structure Alike (here there : Supply) (first second : Session) : Prop where
  frame : second = first.withLexicon second.lexicon
  lexicon : Lexicon.Alike here there first.lexicon second.lexicon

/-- Two changes of sessions are alike: they have the same result, and lead to alike sessions in
alike worlds. -/
structure Change.Alike {α : Type} (here there : Supply) (first second : Change α) : Prop where
  result : first.result = second.result
  session : Session.Alike here there first.session second.session
  world : World.Alike here there first.world second.world

variable {here there : Supply} {first second : Session} {world other : World}

/-- A session is like itself. -/
theorem Alike.refl (session : Session) : Alike here there session session :=
  ⟨rfl, .refl session.lexicon⟩

/-- Adding a word does not depend on the identifiers that are new. -/
theorem Alike.define (alike : Alike here there first second)
    (worlds : World.Alike here there world other) (word : String) (level : Level) :
    Change.Alike here there (first.define world word level) (second.define other word level) := by
  have defined := alike.lexicon.define worlds word level
  rw [Session.define, Session.define]
  generalize first.lexicon.define world word level = change at defined ⊢
  generalize second.lexicon.define other word level = otherChange at defined ⊢
  refine ⟨defined.result, ⟨?_, defined.lexicon⟩, defined.world⟩
  calc second.withLexicon otherChange.lexicon
      = (first.withLexicon second.lexicon).withLexicon otherChange.lexicon := by
        rw [← alike.frame]
    _ = (first.withLexicon change.lexicon).withLexicon otherChange.lexicon := rfl

/-- **Adding words does not depend on the identifiers that are new.** -/
theorem Alike.addWordsAt (alike : Alike here there first second)
    (worlds : World.Alike here there world other) (level : Level) (words : List String) :
    Change.Alike here there (first.addWordsAt world level words)
      (second.addWordsAt other level words) := by
  induction words generalizing first second world other with
  | nil => exact ⟨rfl, alike, worlds⟩
  | cons word rest ih =>
    have defined := alike.define worlds word level
    cases result : (first.define world word level).result with
    | error failure =>
      have same := defined.result.symm.trans result
      rw [addWordsAt_cons_of_failed rest result, addWordsAt_cons_of_failed rest same]
      refine ⟨rfl, ?session, ?world⟩
      case session => exact defined.session
      case world =>
        -- Otherwise the definitions are run to compare the two results.
        dsimp only
        exact defined.world
    | ok isNew =>
      have same := defined.result.symm.trans result
      have later := ih defined.session defined.world
      rw [addWordsAt_cons_of_done rest result, addWordsAt_cons_of_done rest same]
      refine ⟨?_, later.session, later.world⟩
      simp only [later.result]

end Session

/-! ## Reading a command -/

namespace Level

/-- The name of a level is read as the level. -/
theorem read_name (level : Level) : read level.name = .ok level := by
  cases level with
  | unverified => exact eq_ok_of_toOption (by decide +kernel)
  | verified => exact eq_ok_of_toOption (by decide +kernel)
  | verifiedAuto => exact eq_ok_of_toOption (by decide +kernel)

/-- A text that names no level is a mistake of its own kind. -/
theorem misconfigured_of_read {text : String} {failure : Failure}
    (failed : read text = .error failure) : ∃ cause, failure = .misconfigured cause := by
  unfold read at failed
  dsimp only at failed
  split at failed
  · cases failed
  · split at failed
    · cases failed
    · cases failed
      exact ⟨_, rfl⟩

end Level

namespace Editor

/-- A value that stands for words: a text, or a list of texts. -/
def IsWords (value : Json) : Prop :=
  (∃ word, value = .string word) ∨
    ∃ items, value = .array items ∧ ∀ item ∈ items, ∃ word, item = .string word

/-- A value that stands for a level: a text in which a user would mean one. -/
def IsLevel (value : Json) : Prop :=
  ∃ name level, value = .string name ∧ Level.read name = .ok level

/-- What cannot be understood as a command to add words. -/
inductive Malformed (name : String) (arguments : List Json) : Prop where
  /-- The name is neither that of the command nor its other one. -/
  | unknownName (other : name ≠ addWordsCommand) (another : name ≠ addWordsAlias)
  /-- The first argument is missing, or does not stand for words. -/
  | noWords (none : ∀ first, arguments[0]? = some first → ¬ IsWords first)
  /-- The second argument is there, but is neither null nor stands for a level. -/
  | noLevel {second : Json} (there : arguments[1]? = some second) (filled : second ≠ .null)
      (other : ¬ IsLevel second)

section Reading

variable {name : String} {arguments : List Json}

/-- A list of texts is read as the texts. -/
theorem texts?_map_string (words : List String) : texts? (words.map .string) = some words := by
  induction words with
  | nil => rfl
  | cons word rest ih => rw [List.map_cons, texts?, ih, Option.map_some]

/-- A list is read as texts exactly if all its values are texts. -/
theorem exists_texts?_iff {items : List Json} :
    (∃ words, texts? items = some words) ↔ ∀ item ∈ items, ∃ word, item = .string word := by
  induction items with
  | nil => exact ⟨fun _ _ impossible => absurd impossible List.not_mem_nil, fun _ => ⟨[], rfl⟩⟩
  | cons item rest ih =>
    rw [List.forall_mem_cons, ← ih]
    cases item with
    | string text =>
      constructor
      · rintro ⟨words, read⟩
        rw [texts?, Option.map_eq_some_iff] at read
        obtain ⟨others, later, -⟩ := read
        exact ⟨⟨text, rfl⟩, others, later⟩
      · rintro ⟨-, others, later⟩
        exact ⟨text :: others, by rw [texts?, later, Option.map_some]⟩
    | null | bool | number | array | object =>
      constructor
      · rintro ⟨words, read⟩
        cases read
      · rintro ⟨⟨word, impossible⟩, -⟩
        cases impossible

/-- The first argument is understood exactly if it stands for words. -/
theorem exists_wordsArgument_iff :
    (∃ words, wordsArgument name arguments = .ok words)
      ↔ ∃ first, arguments[0]? = some first ∧ IsWords first := by
  cases arguments with
  | nil => simp [wordsArgument]
  | cons first rest =>
    simp only [List.getElem?_cons_zero, Option.some.injEq, exists_eq_left']
    cases first with
    | string word => exact ⟨fun _ => .inl ⟨word, rfl⟩, fun _ => ⟨[word], rfl⟩⟩
    | array items =>
      have all : IsWords (.array items) ↔ ∀ item ∈ items, ∃ word, item = .string word := by
        simp [IsWords]
      rw [all, ← exists_texts?_iff, wordsArgument]
      cases texts? items with
      | none => simp
      | some words => simp
    | null | bool | number | object => simp [wordsArgument, IsWords]

/-- The second argument is understood exactly if it is missing, null or stands for a level. -/
theorem exists_levelArgument_iff :
    (∃ level, levelArgument arguments = .ok level)
      ↔ ∀ second, arguments[1]? = some second → second = .null ∨ IsLevel second := by
  match arguments with
  | [] | [_] => simp [levelArgument]
  | _ :: second :: _ =>
    simp only [List.getElem?_cons_succ, List.getElem?_cons_zero, Option.some.injEq, forall_eq']
    cases second with
    | null => simp [levelArgument]
    | string text =>
      have level : IsLevel (.string text) ↔ ∃ level, Level.read text = .ok level := by
        simp [IsLevel]
      rw [level, levelArgument]
      cases Level.read text with
      | error failure => simp [Except.map]
      | ok level => simp [Except.map]
    | bool | number | array | object => simp [levelArgument, IsLevel]

/-- A command is understood if its name is known and both arguments are understood. -/
theorem readCommand_eq_ok_iff {words : List String} {level : Option Level} :
    readCommand name arguments = .ok (words, level) ↔
      (name = addWordsCommand ∨ name = addWordsAlias) ∧
        wordsArgument name arguments = .ok words ∧ levelArgument arguments = .ok level := by
  have unknown : ((name ≠ addWordsCommand && name ≠ addWordsAlias) = true) ↔
      ¬ (name = addWordsCommand ∨ name = addWordsAlias) := by
    rw [Bool.and_eq_true, decide_eq_true_eq, decide_eq_true_eq, not_or]
  rw [readCommand]
  by_cases known : name = addWordsCommand ∨ name = addWordsAlias
  · rw [if_neg (unknown.not.mpr (not_not_intro known)), and_iff_right known]
    cases wordsArgument name arguments with
    | error failure => simp
    | ok read =>
      cases levelArgument arguments with
      | error failure => simp [Except.map]
      | ok other => simp [Except.map]
  · rw [if_pos (unknown.mpr known)]
    constructor
    · intro read
      cases read
    · intro read
      exact absurd read.1 known

/-- **What is understood is exactly what is not malformed.** -/
theorem exists_readCommand_iff :
    (∃ asked, readCommand name arguments = .ok asked) ↔ ¬ Malformed name arguments := by
  constructor
  · rintro ⟨⟨words, level⟩, read⟩ malformed
    obtain ⟨known, first, second⟩ := readCommand_eq_ok_iff.mp read
    cases malformed with
    | unknownName other another => exact known.elim other another
    | noWords none =>
      obtain ⟨value, here, stands⟩ := exists_wordsArgument_iff.mp ⟨words, first⟩
      exact none value here stands
    | @noLevel value there filled other =>
      exact (exists_levelArgument_iff.mp ⟨level, second⟩ value there).elim filled other
  · intro wellFormed
    have known : name = addWordsCommand ∨ name = addWordsAlias := by
      by_contra unknown
      exact wellFormed (.unknownName (not_or.mp unknown).1 (not_or.mp unknown).2)
    obtain ⟨words, first⟩ : ∃ words, wordsArgument name arguments = .ok words := by
      rw [exists_wordsArgument_iff]
      by_contra none
      exact wellFormed (.noWords fun value here stands => none ⟨value, here, stands⟩)
    obtain ⟨level, second⟩ : ∃ level, levelArgument arguments = .ok level := by
      rw [exists_levelArgument_iff]
      intro value there
      by_contra none
      exact wellFormed (.noLevel there (not_or.mp none).1 (not_or.mp none).2)
    exact ⟨(words, level), readCommand_eq_ok_iff.mpr ⟨known, first, second⟩⟩

/-- Why a command is not understood. -/
inductive Misread (name : String) : Failure → Prop where
  | unknown : Misread name (.unknownCommand name)
  | noWords : Misread name (.wordsExpected name)
  | mixedWords : Misread name .wordListMixed
  | unknownLevel (cause : Misconfiguration) : Misread name (.misconfigured cause)
  | noLevel (argument : Json) : Misread name (.levelExpected argument)

/-- A command that is not understood fails for one of these reasons. -/
theorem misread_of_readCommand {failure : Failure}
    (failed : readCommand name arguments = .error failure) : Misread name failure := by
  unfold readCommand at failed
  split at failed
  · cases failed
    exact .unknown
  · split at failed
    · next cause read =>
      cases failed
      unfold wordsArgument at read
      split at read
      · cases read
      · split at read
        · cases read
        · cases read
          exact .mixedWords
      · cases read
        exact .noWords
    · have read := eq_error_of_map failed
      unfold levelArgument at read
      split at read
      · obtain ⟨cause, rfl⟩ := Level.misconfigured_of_read (eq_error_of_map read)
        exact .unknownLevel cause
      · cases read
      · cases read
        exact .noLevel _
      · cases read

end Reading

/-! ## Running a command -/

section Running

variable {session : Session} {world : World} {name : String} {arguments : List Json}

/-- A command that is understood adds its words. -/
theorem execute_of_read {words : List String} {level : Option Level}
    (read : readCommand name arguments = .ok (words, level)) :
    execute session world name arguments = session.addWords world words level := by
  rw [execute, read]

/-- A command that is not understood does nothing. -/
theorem execute_of_failed {failure : Failure}
    (failed : readCommand name arguments = .error failure) :
    execute session world name arguments = ⟨.error failure, session, world⟩ := by
  rw [execute, failed]

/-- What a command is sent as is understood as the command, under both of its names. -/
theorem readCommand_ofCommand (title : String) (words : List String) (level : Level)
    (known : name = addWordsCommand ∨ name = addWordsAlias) :
    readCommand name (RemoteCommand.ofCommand title (.addWords words level)).arguments
      = .ok (words, some level) := by
  refine readCommand_eq_ok_iff.mpr ⟨known, ?_, ?_⟩
  · rw [RemoteCommand.ofCommand, Json.strings, wordsArgument, texts?_map_string]
  · rw [RemoteCommand.ofCommand, levelArgument, Level.read_name]
    rfl

end Running

/-- **A command is checked as a whole before anything is changed.**  It fails for another reason
than a file that cannot be written exactly if it is malformed: its name is unknown, its first
argument is missing or stands for no words, or its second argument is neither missing nor null nor
stands for a level.  Then the session, with its lexicon and all files, and the world are as they
were. -/
theorem malformed_changes_nothing (session : Session) (world : World) (name : String)
    (arguments : List Json) :
    let change := execute session world name arguments
    ((∃ failure, change.result = .error failure ∧ ∀ path, failure ≠ .storage path)
        ↔ Malformed name arguments) ∧
      (Malformed name arguments → change.session = session ∧ change.world = world) := by
  intro change
  cases read : readCommand name arguments with
  | ok asked =>
    have wellFormed : ¬ Malformed name arguments := exists_readCommand_iff.mp ⟨asked, read⟩
    have run : change = session.addWords world asked.1 asked.2 := execute_of_read read
    refine ⟨⟨?_, fun malformed => absurd malformed wellFormed⟩,
      fun malformed => absurd malformed wellFormed⟩
    rintro ⟨failure, failed, other⟩
    rw [run] at failed
    obtain ⟨path, rfl⟩ := Session.storage_of_addWordsAt failed
    exact absurd rfl (other path)
  | error failure =>
    have malformed : Malformed name arguments := by
      by_contra wellFormed
      obtain ⟨asked, understood⟩ := exists_readCommand_iff.mpr wellFormed
      rw [read] at understood
      cases understood
    have run : change = ⟨.error failure, session, world⟩ := execute_of_failed read
    rw [run]
    refine ⟨⟨fun _ => malformed, fun _ => ⟨failure, rfl, ?_⟩⟩, fun _ => ⟨rfl, rfl⟩⟩
    rintro path rfl
    cases misread_of_readCommand read

/-- A session whose lexicon is one file without entries. -/
def blankSession : Session :=
  { workspace :=
      { configuration := Configuration.default
        settings := {}
        lexicon := ⟨KeyMap.empty, [⟨"words.dictionary", []⟩], some 0⟩ }
    registry := Session.initialRegistry Configuration.default }

/-- The last value of a list is no word, and then again the level after a good list is none.  Not
even the good words are added. -/
theorem malformed_changes_nothing_halfGood :
    let mixed := execute blankSession ⟨{}, ⟨0⟩⟩ addWordsCommand
      [.array [.string "selah", .string "amen", .nat 3]]
    let unknown := execute blankSession ⟨{}, ⟨0⟩⟩ addWordsAlias
      [.strings ["selah", "amen"], .string "trusted"]
    let good := execute blankSession ⟨{}, ⟨0⟩⟩ addWordsAlias
      [.strings ["selah", "amen"], .string "Verified-Auto"]
    Malformed addWordsCommand [.array [.string "selah", .string "amen", .nat 3]] ∧
      mixed.session = blankSession ∧ mixed.world = ⟨{}, ⟨0⟩⟩ ∧
      Malformed addWordsAlias [.strings ["selah", "amen"], .string "trusted"] ∧
      unknown.session = blankSession ∧ unknown.world = ⟨{}, ⟨0⟩⟩ ∧
      good.result = .ok 2 := by
  intro mixed unknown good
  have noWords : Malformed addWordsCommand [.array [.string "selah", .string "amen", .nat 3]] := by
    refine .noWords ?_
    rintro _ ⟨⟩ (⟨word, impossible⟩ | ⟨items, ⟨⟩, all⟩)
    · cases impossible
    · obtain ⟨word, impossible⟩ := all (.nat 3) (by simp)
      cases impossible
  have noLevel : Malformed addWordsAlias [.strings ["selah", "amen"], .string "trusted"] := by
    refine .noLevel rfl nofun ?_
    rintro ⟨_, level, ⟨⟩, read⟩
    have unread : (Level.read "trusted").toOption = none := by decide +kernel
    rw [read] at unread
    cases unread
  have first := (malformed_changes_nothing blankSession ⟨{}, ⟨0⟩⟩ addWordsCommand
    [.array [.string "selah", .string "amen", .nat 3]]).2 noWords
  have second := (malformed_changes_nothing blankSession ⟨{}, ⟨0⟩⟩ addWordsAlias
    [.strings ["selah", "amen"], .string "trusted"]).2 noLevel
  exact ⟨noWords, first.1, first.2, noLevel, second.1, second.2,
    eq_ok_of_toOption (by decide +kernel)⟩

/-- **A command that comes back from an editor does what it was offered for.**  Name and arguments
of a command are sent, and come back under this name or the other one.

* With the same supply of identifiers, the result, the session and the world afterwards are exactly
  those of the command itself.
* With another supply they are the same but for the identifiers that are new.
* If it fails, then because a file cannot be written. -/
theorem execute_like_apply (session : Session) (disk : Disk) (here there : Supply) (title : String)
    (words : List String) (level : Level) :
    let command := Command.addWords words level
    let remote := RemoteCommand.ofCommand title command
    ∀ name ∈ [remote.name, addWordsAlias],
      let run := execute session ⟨disk, here⟩ name remote.arguments
      run = session.apply ⟨disk, here⟩ command ∧
        Session.Change.Alike here there run (session.apply ⟨disk, there⟩ command) ∧
        ((∃ count, run.result = .ok count) ∨ ∃ path, run.result = .error (.storage path)) := by
  intro command remote name member run
  have known : name = addWordsCommand ∨ name = addWordsAlias := by
    simpa [remote, command, RemoteCommand.ofCommand] using member
  have same : run = session.apply ⟨disk, here⟩ command :=
    execute_of_read (readCommand_ofCommand title words level known)
  refine ⟨same, ?_, ?_⟩
  · rw [same]
    exact (Session.Alike.refl session).addWordsAt (.start disk) level words
  · rw [same]
    cases result : (session.apply ⟨disk, here⟩ command).result with
    | ok count => exact .inl ⟨count, rfl⟩
    | error failure =>
      obtain ⟨path, rfl⟩ := Session.storage_of_addWordsAt result
      exact .inr ⟨path, rfl⟩

/-- The second write is refused: the first word was added by then, with one identifier or the other,
and the last one was not. -/
theorem execute_like_apply_refusedWrite :
    let command := Command.addWords ["Selah", "selah!", "amen"] .verifiedAuto
    let remote := RemoteCommand.ofCommand "Add all" command
    let disk : Disk := { refusals := [false, true] }
    let run := execute blankSession ⟨disk, ⟨0⟩⟩ addWordsAlias remote.arguments
    let direct := blankSession.apply ⟨disk, ⟨7⟩⟩ command
    addWordsAlias ∈ [remote.name, addWordsAlias] ∧
      Session.Change.Alike ⟨0⟩ ⟨7⟩ run direct ∧
      (∃ path, run.result = .error (.storage path)) ∧
      run.session.lexicon.entries.map Entry.headWord = ["Selah"] ∧
      run.session.lexicon.entries.map Entry.id ≠ direct.session.lexicon.entries.map Entry.id := by
  intro command remote disk run direct
  have member : addWordsAlias ∈ [remote.name, addWordsAlias] := by simp
  obtain ⟨-, alike, outcome⟩ := execute_like_apply blankSession disk ⟨0⟩ ⟨7⟩ "Add all"
    ["Selah", "selah!", "amen"] .verifiedAuto addWordsAlias member
  have failed : run.result.toOption = none := by decide +kernel
  refine ⟨member, alike, outcome.resolve_left ?_, by decide +kernel, by decide +kernel⟩
  rintro ⟨count, done⟩
  rw [show run.result = .ok count from done] at failed
  cases failed

end Editor

end Orthography
