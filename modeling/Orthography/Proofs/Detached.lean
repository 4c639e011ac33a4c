import Orthography.Proofs.Editor.Command
import Orthography.Proofs.Lexicon.Refinement

/-!
# Sessions over a lexicon that cannot be loaded

A project whose lexicon cannot be loaded is opened with an empty lexicon in memory.  It has no files
(`Lexicon.Detached`).  So a change of it cannot fail, leaves the disk as it is, and leads to a lexicon
without files again; and it is the change of a glossary (`Lexicon.Detached.define`,
`Lexicon.Detached.remove`).

All that a session is asked to change comes down to such changes, or is not understood and changes
nothing (`Session.Detached.perform`).  Therefore the files that could not be loaded keep their bytes,
whatever the session is asked for, and the words that it has been told are accepted by their levels
all the same (`Session.broken_lexicon_untouched`).
-/

namespace Orthography

set_option autoImplicit false

/-! ## Lexicons without files -/

namespace Lexicon

/-- A lexicon that has no files. -/
structure Detached (lexicon : Lexicon) : Prop where
  files : lexicon.files = []
  primary : lexicon.primary = none

/-- The empty lexicon in memory has no files. -/
theorem detached_inMemory : Detached inMemory :=
  ⟨rfl, rfl⟩

/-- A change in memory only. -/
structure Remembered {α : Type} (world : World) (glossary : Glossary) (change : Change α) : Prop where
  /-- It succeeds. -/
  done : ∃ value, change.result = .ok value
  /-- Nothing is written. -/
  disk : change.world.disk = world.disk
  /-- The lexicon has no files afterwards. -/
  detached : change.lexicon.Detached
  /-- It has the entries of the glossary. -/
  mirrors : change.lexicon.Mirrors glossary

variable {lexicon : Lexicon} {glossary : Glossary}

/-- A word is added in memory only. -/
theorem Detached.define (detached : lexicon.Detached) (mirrors : lexicon.Mirrors glossary)
    (world : World) (word : String) (level : Level) :
    Remembered world (glossary.ask (.define word level)).2 (lexicon.define world word level) := by
  have outcome := defined lexicon world word level
  have unbacked : lexicon.primaryFile? = none := by
    rw [primaryFile?, detached.primary]
    rfl
  have next := fun fine => (mirrors.defined outcome fine).2
  generalize lexicon.define world word level = change at outcome next ⊢
  cases outcome with
  | known => exact ⟨⟨_, rfl⟩, rfl, detached, next rfl⟩
  | inMemory => exact ⟨⟨_, rfl⟩, rfl, ⟨detached.files, detached.primary⟩, next rfl⟩
  | saved _ _ backed => exact absurd (backed.symm.trans unbacked) (Option.some_ne_none _)
  | failed _ _ backed => exact absurd (backed.symm.trans unbacked) (Option.some_ne_none _)

/-- A word is taken out in memory only. -/
theorem Detached.remove (detached : lexicon.Detached) (mirrors : lexicon.Mirrors glossary)
    (world : World) (word : String) :
    Remembered world (glossary.ask (.remove word)).2 (lexicon.remove world word) := by
  have outcome := removed lexicon world word
  have next := fun fine => (mirrors.removed outcome fine).2
  generalize lexicon.remove world word = change at outcome next ⊢
  cases outcome with
  | unknown => exact ⟨⟨_, rfl⟩, rfl, detached, next rfl⟩
  | @done _ disk _ saves =>
    rw [detached.files] at saves
    cases saves
    refine ⟨⟨_, rfl⟩, rfl, ⟨?_, detached.primary⟩, next rfl⟩
    show lexicon.files.map _ = []
    rw [detached.files, List.map_nil]
  | failed _ split =>
    rw [detached.files] at split
    exact absurd (congrArg List.length split) (by simp)

end Lexicon

/-! ## What a session can be asked to change -/

/-- A change that a session is asked for. -/
inductive Session.Call where
  | define (word : String) (level : Level)
  | remove (word : String)
  | addWords (words : List String) (level : Option Level)
  | apply (command : Command)
  | execute (name : String) (arguments : List Json)

namespace Session

/-- What comes of a call: how many words were new or were taken out, or a failure. -/
def perform (session : Session) (world : World) : Call → Change Nat
  | .define word level =>
    let change := session.define world word level
    ⟨change.result.map Bool.toNat, change.session, change.world⟩
  | .remove word => session.remove world word
  | .addWords words level => session.addWords world words level
  | .apply command => session.apply world command
  | .execute name arguments => Editor.execute session world name arguments

/-- What comes of some calls: the result of each, and the session and the world after all of them. -/
structure Run where
  results : List (Except Failure Nat)
  session : Session
  world : World

/-- Calls that are made one after the other; one that fails does not keep the others from being
made. -/
def run (session : Session) (world : World) : List Call → Run
  | [] => ⟨[], session, world⟩
  | call :: rest =>
    let change := session.perform world call
    let later := change.session.run change.world rest
    { later with results := change.result :: later.results }

/-- A call does what it should, or is a command that is malformed and fails for this reason. -/
inductive Call.Answer : Call → Except Failure Nat → Prop where
  | done (call : Call) (count : Nat) : Answer call (.ok count)
  | refused {name : String} {arguments : List Json} {failure : Failure}
      (malformed : Editor.Malformed name arguments) (reason : Editor.Misread name failure) :
      Answer (.execute name arguments) (.error failure)

/-- No answer is that a file could not be written. -/
theorem Call.Answer.not_storage {call : Call} {result : Except Failure Nat}
    (answer : call.Answer result) (path : String) : result ≠ .error (.storage path) := by
  rintro rfl
  cases answer with
  | refused _ reason => cases reason

/-- Nor is any of several answers. -/
theorem Call.Answer.none_storage {calls : List Call} {results : List (Except Failure Nat)}
    (answers : List.Forall₂ Call.Answer calls results) :
    ∀ result ∈ results, ∀ path, result ≠ .error (.storage path) := by
  induction answers with
  | nil => exact fun _ impossible => absurd impossible List.not_mem_nil
  | cons answer _ ih => exact List.forall_mem_cons.mpr ⟨answer.not_storage, ih⟩

end Session

namespace Glossary

/-- A glossary after some words are added at a level. -/
def afterWords (glossary : Glossary) (level : Level) (words : List String) : Glossary :=
  words.foldl (fun known word => (known.ask (.define word level)).2) glossary

theorem afterWords_cons (glossary : Glossary) (level : Level) (word : String)
    (rest : List String) :
    glossary.afterWords level (word :: rest)
      = (glossary.ask (.define word level)).2.afterWords level rest :=
  rfl

/-- A glossary after a call of a session whose configuration has a level for new words.  A command
that cannot be understood changes nothing. -/
def afterCall (usual : Level) (glossary : Glossary) : Session.Call → Glossary
  | .define word level => (glossary.ask (.define word level)).2
  | .remove word => (glossary.ask (.remove word)).2
  | .addWords words level => glossary.afterWords (level.getD usual) words
  | .apply (.addWords words level) => glossary.afterWords level words
  | .execute name arguments =>
    match Editor.readCommand name arguments with
    | .ok (words, level) => glossary.afterWords (level.getD usual) words
    | .error _ => glossary

/-- The words that a session has been told in some calls, each with its level. -/
def ofCalls (usual : Level) (calls : List Session.Call) : Glossary :=
  calls.foldl (afterCall usual) KeyMap.empty

end Glossary

/-! ## Sessions without files -/

namespace Session

/-- A session whose lexicon has no files, and has the entries of a glossary. -/
structure Detached (session : Session) (glossary : Glossary) : Prop where
  lexicon : session.lexicon.Detached
  mirrors : session.lexicon.Mirrors glossary

/-- A session after a change in memory only. -/
structure Remembers (before : Session) (start : World) (glossary : Glossary) (session : Session)
    (world : World) : Prop where
  /-- Nothing but the lexicon changes. -/
  frame : session = before.withLexicon session.lexicon
  /-- Nothing is written. -/
  disk : world.disk = start.disk
  /-- The session is without files, and knows the words of the glossary. -/
  detached : session.Detached glossary

theorem Remembers.trans {first second third : Session} {start between last : World}
    {glossary other : Glossary} (here : Remembers first start glossary second between)
    (there : Remembers second between other third last) :
    Remembers first start other third last := by
  refine ⟨?_, there.disk.trans here.disk, there.detached⟩
  calc third = second.withLexicon third.lexicon := there.frame
    _ = (first.withLexicon second.lexicon).withLexicon third.lexicon := by rw [← here.frame]
    _ = first.withLexicon third.lexicon := rfl

/-- A change of the lexicon in memory only is one of the session. -/
theorem remembers_of_remembered {α : Type} {session : Session} {world : World}
    {glossary : Glossary} {change : Lexicon.Change α}
    (remembered : Lexicon.Remembered world glossary change) :
    Remembers session world glossary (session.withLexicon change.lexicon) change.world :=
  ⟨rfl, remembered.disk, remembered.detached, remembered.mirrors⟩

variable {session : Session} {glossary : Glossary}

/-- A word is added in memory only. -/
theorem Detached.define (detached : session.Detached glossary) (world : World) (word : String)
    (level : Level) :
    let change := session.define world word level
    (∃ isNew, change.result = .ok isNew) ∧
      Remembers session world (glossary.ask (.define word level)).2 change.session change.world := by
  have remembered := detached.lexicon.define detached.mirrors world word level
  rw [Session.define]
  generalize session.lexicon.define world word level = change at remembered ⊢
  exact ⟨remembered.done, remembers_of_remembered remembered⟩

/-- Words are added in memory only. -/
theorem Detached.addWordsAt (detached : session.Detached glossary) (world : World) (level : Level)
    (words : List String) :
    let change := session.addWordsAt world level words
    (∃ count, change.result = .ok count) ∧
      Remembers session world (glossary.afterWords level words) change.session change.world := by
  induction words generalizing session glossary world with
  | nil => exact ⟨⟨0, rfl⟩, rfl, rfl, detached⟩
  | cons word rest ih =>
    obtain ⟨⟨isNew, done⟩, first⟩ := detached.define world word level
    rw [addWordsAt_cons_of_done rest done, Glossary.afterWords_cons]
    -- The change as such does not matter any more.
    generalize session.define world word level = change at first ⊢
    obtain ⟨⟨count, counted⟩, later⟩ := ih first.detached change.world
    generalize change.session.addWordsAt change.world level rest = last at counted later ⊢
    exact ⟨⟨count + if isNew then 1 else 0, by rw [counted]; rfl⟩, first.trans later⟩

/-- **A call to a session without files is answered in memory.**  It fails only if it is a command
that is malformed. -/
theorem Detached.perform (detached : session.Detached glossary) (world : World) (call : Call) :
    let change := session.perform world call
    call.Answer change.result ∧
      Remembers session world (glossary.afterCall session.configuration.addedWordLevel call)
        change.session change.world := by
  have added (call : Call) (level : Level) (words : List String) :
      call.Answer (session.addWordsAt world level words).result ∧
        Remembers session world (glossary.afterWords level words)
          (session.addWordsAt world level words).session
          (session.addWordsAt world level words).world := by
    obtain ⟨⟨count, done⟩, remembers⟩ := detached.addWordsAt world level words
    rw [done]
    exact ⟨.done call count, remembers⟩
  cases call with
  | define word level =>
    obtain ⟨⟨isNew, done⟩, remembers⟩ := detached.define world word level
    simp only [Session.perform, done, Except.map]
    exact ⟨.done _ _, remembers⟩
  | remove word =>
    have remembered := detached.lexicon.remove detached.mirrors world word
    obtain ⟨count, done⟩ := remembered.done
    simp only [Session.perform, Session.remove, done]
    exact ⟨.done _ _, remembers_of_remembered remembered⟩
  | addWords words level => exact added _ _ words
  | apply command =>
    cases command with
    | addWords words level => exact added _ level words
  | execute name arguments =>
    cases read : Editor.readCommand name arguments with
    | ok asked =>
      obtain ⟨words, level⟩ := asked
      simp only [Session.perform, Editor.execute_of_read read, Glossary.afterCall, read]
      exact added _ _ words
    | error failure =>
      have malformed : Editor.Malformed name arguments := by
        by_contra wellFormed
        obtain ⟨asked, understood⟩ := Editor.exists_readCommand_iff.mpr wellFormed
        exact absurd (read.symm.trans understood) nofun
      simp only [Session.perform, Editor.execute_of_failed read, Glossary.afterCall, read]
      exact ⟨.refused malformed (Editor.misread_of_readCommand read), rfl, rfl, detached⟩

/-- So are any calls. -/
theorem Detached.run (detached : session.Detached glossary) (world : World) (calls : List Call) :
    let outcome := session.run world calls
    List.Forall₂ Call.Answer calls outcome.results ∧
      Remembers session world
        (calls.foldl (Glossary.afterCall session.configuration.addedWordLevel) glossary)
        outcome.session outcome.world := by
  induction calls generalizing session glossary world with
  | nil => exact ⟨.nil, rfl, rfl, detached⟩
  | cons call rest ih =>
    obtain ⟨answer, first⟩ := detached.perform world call
    obtain ⟨answers, later⟩ := ih first.detached (session.perform world call).world
    have same : (session.perform world call).session.configuration = session.configuration := by
      rw [first.frame]
      rfl
    rw [same] at later
    exact ⟨.cons answer answers, first.trans later⟩

/-- A session without files corrects the words that are checked and that its glossary does not have
at an accepted level. -/
theorem Detached.needsCorrection_eq (detached : session.Detached glossary) (word : String) :
    session.checker.needsCorrection word =
      (!session.checker.ignores word &&
        !(glossary.get? (Word.key word)).any fun known =>
          session.workspace.settings.accepts known.2) := by
  have level : (session.lexicon.get? word).map Entry.level
      = (glossary.get? (Word.key word)).map Prod.snd := by
    have same := congrArg (Option.map Entry.level) (detached.mirrors.get?_eq (Word.key word))
    rw [Option.map_map, Option.map_map] at same
    exact same
  have asked : session.checker.lexicon = session.lexicon := rfl
  rw [Checker.needsCorrection, asked]
  cases found : session.lexicon.get? word with
  | none =>
    rw [found] at level
    rw [Option.map_eq_none_iff.mp level.symm]
    rfl
  | some entry =>
    rw [found] at level
    obtain ⟨known, here, same⟩ := Option.map_eq_some_iff.mp level.symm
    rw [here, Option.any_some, same]
    rfl

/-- **A lexicon that cannot be loaded is never written.**  The project is opened with an empty lexicon
all the same, if its configuration makes sense.  Whatever the session is then asked for, in any
order:

* the disk is as it was right after the load failed, and nothing is written, not even as it was;
* no call fails because of a file, and one that fails is a command that is malformed;
* a word is accepted exactly if it is not checked, or is known from the calls at an accepted level. -/
theorem broken_lexicon_untouched {world after : World} {project : String}
    {configuration : Configuration} {settings : Settings} {failure : Failure}
    (valid : Settings.ofConfiguration configuration = .ok settings)
    (broken : Lexicon.load world (dataDirectory project configuration) configuration.language
      = (.error failure, after)) :
    ∃ session, openProject world project configuration = (.ok session, after) ∧
      session.lexicon = Lexicon.inMemory ∧ session.workspace.settings = settings ∧
      ∀ calls : List Call,
        let outcome := session.run after calls
        outcome.world.disk = after.disk ∧
          List.Forall₂ Call.Answer calls outcome.results ∧
          (∀ result ∈ outcome.results, ∀ path, result ≠ .error (.storage path)) ∧
          ∀ word, outcome.session.checker.needsCorrection word =
            (!session.checker.ignores word &&
              !((Glossary.ofCalls configuration.addedWordLevel calls).get? (Word.key word)).any
                fun known => settings.accepts known.2) := by
  refine ⟨⟨⟨configuration, settings, Lexicon.inMemory⟩, initialRegistry configuration⟩,
    ?opened, rfl, rfl, fun calls => ?calls⟩
  case opened =>
    rw [openProject, Lexicon.loadOrEmpty, broken]
    simp only [ofLexicon, valid, Except.map]
  case calls =>
    have detached : Detached ⟨⟨configuration, settings, Lexicon.inMemory⟩,
        initialRegistry configuration⟩ KeyMap.empty :=
      ⟨Lexicon.detached_inMemory, Lexicon.mirrors_inMemory⟩
    obtain ⟨answers, remembers⟩ := detached.run after calls
    refine ⟨remembers.disk, answers, Call.Answer.none_storage answers, fun word => ?_⟩
    rw [remembers.detached.needsCorrection_eq, remembers.frame]
    rfl

/-- A project with a file of its lexicon that ends too soon, and one that is whole. -/
def halfWritten : Disk :=
  { nodes :=
      [(["book"], .directory), (["book", "project_data"], .directory),
        (["book", "project_data", "names.dictionary"], .file (Entry.fileText []).toUTF8),
        (["book", "project_data", "project.dictionary"], .file "\x7b\"entries\":".toUTF8)] }

/-- A configuration in which every word is checked, and words are added at a level that does not
count. -/
def strict : Configuration :=
  { addedWordLevel := .verifiedAuto, ignorePatterns := [] }

/-- Words are added at several levels, taken out, and asked for in a way that is not understood. -/
def someCalls : List Call :=
  [.define "Selah!" .verified,
    .execute Editor.addWordsAlias [.strings ["amen", "selah"], .string "unverified"],
    .execute Editor.addWordsAlias [.null], .addWords ["Zion"] none,
    .apply (.addWords ["grace", "peace"] .verified), .remove "GRACE"]

/-- The disk is as it was, and of the words those are accepted that were added at an accepted level
and not taken out again. -/
theorem broken_lexicon_untouched_halfWritten :
    ∃ failure after session,
      Settings.ofConfiguration strict = .ok {} ∧
      Lexicon.load ⟨halfWritten, ⟨0⟩⟩ (dataDirectory "book" strict) none = (.error failure, after) ∧
      openProject ⟨halfWritten, ⟨0⟩⟩ "book" strict = (.ok session, after) ∧
      let outcome := session.run after someCalls
      outcome.world.disk = after.disk ∧
        (∀ result ∈ outcome.results, ∀ path, result ≠ .error (.storage path)) ∧
        (["selah", "peace", "amen", "Zion", "grace"].map fun word =>
          outcome.session.checker.needsCorrection word) = [false, false, true, true, true] := by
  have valid : Settings.ofConfiguration strict = .ok {} := eq_ok_of_toOption (by decide +kernel)
  have unloaded : (Lexicon.load ⟨halfWritten, ⟨0⟩⟩ (dataDirectory "book" strict) none).1.isOk
      = false := by decide +kernel
  have ignored : (["selah", "peace", "amen", "Zion", "grace"].map fun word =>
      (Checker.mk Lexicon.inMemory {}).ignores word) = [false, false, false, false, false] := by
    decide +kernel
  have told : (["selah", "peace", "amen", "Zion", "grace"].map fun word =>
      ((Glossary.ofCalls strict.addedWordLevel someCalls).get? (Word.key word)).any fun known =>
        Settings.accepts {} known.2) = [true, true, false, false, false] := by
    decide +kernel
  cases broken : Lexicon.load ⟨halfWritten, ⟨0⟩⟩ (dataDirectory "book" strict) none with
  | mk result after =>
    cases result with
    | ok lexicon =>
      rw [broken] at unloaded
      cases unloaded
    | error failure =>
      obtain ⟨session, opened, empty, same, untouched⟩ := broken_lexicon_untouched valid broken
      obtain ⟨disk, -, fine, verdict⟩ := untouched someCalls
      refine ⟨failure, after, session, valid, rfl, opened, disk, fine, ?_⟩
      have checker : session.checker = ⟨Lexicon.inMemory, {}⟩ := congrArg₂ Checker.mk empty same
      simp only [verdict, checker]
      simp only [List.map_cons, List.map_nil, List.cons.injEq] at ignored told ⊢
      simp [ignored, told]

end Session

end Orthography
