import Orthography.Proofs.Checker
import Orthography.Proofs.Lexicon.Outcome
import Orthography.Proofs.Session

/-!
# Words that are added are not flagged any more

A definition that succeeds leaves the word with an entry.  The entry has the level of the definition,
unless the word had one before: an entry that is there is never changed (`Lexicon.get?_of_kept`,
`Lexicon.exists_get?_of_defined`).  So a word that is added at an accepted level is correct
afterwards, and the one exception are words that are known at a level that does not count.

The same holds of the offers to add the words of a line (`Session.Adds`,
`Spelling.mem_words_of_mem_fixTokens`): once such an offer is taken, none of its words that were
unknown is flagged again, in any document (`Session.added_words_cleared`).
-/

namespace Orthography

set_option autoImplicit false

/-! ## Definitions -/

namespace Lexicon

variable {lexicon : Lexicon} {world : World} {word : String} {level : Level} {change : Change Bool}

/-- An entry that is there stays, whatever comes of a definition. -/
theorem get?_of_kept (outcome : Defined lexicon world word level change) {other : String}
    {entry : Entry} (found : lexicon.get? other = some entry) :
    change.lexicon.get? other = some entry := by
  have different (absent : lexicon.index.get? (Word.key word) = none) :
      Word.key other ≠ Word.key word := by
    intro same
    rw [get?, same, absent] at found
    cases found
  cases outcome with
  | known => exact found
  | failed => exact found
  | inMemory _ absent =>
    rw [get?, KeyMap.get?_insert, if_neg (different absent)]
    exact found
  | saved _ absent =>
    rw [get?, KeyMap.get?_insert, if_neg (different absent)]
    exact found

/-- An entry that is found after a definition was there before or has its level. -/
theorem level_of_get?_defined (outcome : Defined lexicon world word level change) {other : String}
    {entry : Entry} (found : change.lexicon.get? other = some entry) :
    lexicon.get? other = some entry ∨ entry.level = level := by
  have inserted {index : KeyMap Entry}
      (found : (index.insert (Word.key word) (Entry.ofWord word level world.supply.draw.1)).get?
        (Word.key other) = some entry) :
      index.get? (Word.key other) = some entry ∨ entry.level = level := by
    rw [KeyMap.get?_insert] at found
    split at found
    · cases found
      exact .inr rfl
    · exact .inl found
  cases outcome with
  | known => exact .inl found
  | failed => exact .inl found
  | inMemory => exact inserted found
  | saved => exact inserted found

/-- After a definition that succeeds, a word with a key has an entry. -/
theorem exists_get?_of_defined (outcome : Defined lexicon world word level change)
    (filled : Word.key word ≠ "") {added : Bool} (success : change.result = .ok added) :
    ∃ entry, change.lexicon.get? word = some entry := by
  cases outcome with
  | known reason =>
    rcases reason with blank | present
    · exact absurd blank filled
    · exact Option.isSome_iff_exists.mp present
  | failed => cases success
  | inMemory => exact ⟨_, by rw [get?, KeyMap.get?_insert, if_pos rfl]⟩
  | saved => exact ⟨_, by rw [get?, KeyMap.get?_insert, if_pos rfl]⟩

end Lexicon

/-- **After a definition that succeeds at an accepted level**, a word has to be corrected only if it
is checked at all and had an entry of another level before. -/
theorem Checker.needsCorrection_of_defined {lexicon : Lexicon} {settings : Settings} {world : World}
    {word : String} {level : Level} {change : Lexicon.Change Bool}
    (outcome : Lexicon.Defined lexicon world word level change)
    (accepted : settings.accepts level = true) (filled : Word.key word ≠ "") {added : Bool}
    (success : change.result = .ok added) :
    (Checker.mk change.lexicon settings).needsCorrection word = true ↔
      (Checker.mk lexicon settings).ignores word = false ∧
        ∃ entry, lexicon.get? word = some entry ∧ settings.accepts entry.level = false := by
  obtain ⟨entry, found⟩ := Lexicon.exists_get?_of_defined outcome filled success
  have same : (Checker.mk change.lexicon settings).ignores word =
      (Checker.mk lexicon settings).ignores word := rfl
  rw [needsCorrection, same, found]
  simp only [Bool.and_eq_true, Bool.not_eq_true']
  refine and_congr_right fun _ => ⟨fun refused => ?_, ?_⟩
  · rcases Lexicon.level_of_get?_defined outcome found with old | new
    · exact ⟨entry, old, refused⟩
    · rw [new, accepted] at refused
      cases refused
  · rintro ⟨old, there, refused⟩
    rw [Lexicon.get?_of_kept outcome there, Option.some.injEq] at found
    rw [← found, refused]

/-! ## Additions of several words -/

namespace Session

/-- What comes of adding words to a session at a level. -/
structure Adds (session : Session) (level : Level) (words : List String) (change : Change Nat) :
    Prop where
  /-- Nothing but the lexicon changes. -/
  session_eq : change.session = session.withLexicon change.session.lexicon
  /-- Entries that were there stay. -/
  kept : ∀ word entry, session.lexicon.get? word = some entry →
    change.session.lexicon.get? word = some entry
  /-- When it succeeds, words that had no entry have one at the level. -/
  found : ∀ count, change.result = .ok count → ∀ word ∈ words, Word.key word ≠ "" →
    session.lexicon.get? word = none →
      ∃ entry, change.session.lexicon.get? word = some entry ∧ entry.level = level

/-- Every addition of words does so. -/
theorem adds (session : Session) (world : World) (level : Level) (words : List String) :
    Adds session level words (session.addWordsAt world level words) := by
  induction words generalizing session world with
  | nil =>
    exact ⟨rfl, fun _ _ here => here, fun _ _ _ impossible => absurd impossible List.not_mem_nil⟩
  | cons first rest ih =>
    have outcome := Lexicon.defined session.lexicon world first level
    rw [addWordsAt, define]
    generalize session.lexicon.define world first level = change at outcome ⊢
    cases success : change.result with
    | error failure =>
      refine ⟨rfl, fun _ _ here => Lexicon.get?_of_kept outcome here, ?_⟩
      intro count impossible
      cases impossible
    | ok added =>
      have later := ih (session.withLexicon change.lexicon) change.world
      refine ⟨later.session_eq, ?_, ?_⟩
      · intro word entry here
        exact later.kept word entry (Lexicon.get?_of_kept outcome here)
      · intro count done word member filled absent
        obtain ⟨others, counted⟩ := exists_eq_ok_of_map done
        cases now : change.lexicon.get? word with
        | some entry =>
          -- The word was just added, perhaps under another spelling.
          rcases Lexicon.level_of_get?_defined outcome now with old | new
          · rw [absent] at old
            cases old
          · exact ⟨entry, later.kept word entry now, new⟩
        | none =>
          rcases List.mem_cons.mp member with rfl | inside
          · obtain ⟨entry, here⟩ := Lexicon.exists_get?_of_defined outcome filled success
            rw [now] at here
            cases here
          · exact later.found others counted word inside filled now

end Session

/-! ## Offers -/

namespace Spelling

/-- A correction is an edit and comes with no command. -/
theorem edit_of_mem_corrections {workspace : Workspace} {line : String} {token : Token}
    {suggestion : Suggestion} (member : suggestion ∈ corrections workspace line token) :
    suggestion.edit.isSome = true ∧ suggestion.command = none := by
  obtain ⟨candidate, -, made⟩ := List.mem_filterMap.mp member
  rw [Option.ite_none_left_eq_some, Option.some.injEq] at made
  rw [← made.2]
  exact ⟨rfl, rfl⟩

/-- The words that are offered for addition are words that were offered before or texts of
tokens. -/
theorem mem_words_of_mem_fixTokens {workspace : Workspace} {line : String} {offered : List String}
    {tokens : List Token} {suggestion : Suggestion}
    (member : suggestion ∈ fixTokens workspace line offered tokens) {words : List String}
    {level : Level} (command : suggestion.command = some (.addWords words level)) :
    ∀ word ∈ words, word ∈ offered ∨ ∃ token ∈ tokens, token.text = word := by
  induction tokens generalizing offered with
  | nil =>
    rw [fixTokens, additionOfAll] at member
    split at member
    · rw [List.mem_singleton] at member
      subst member
      cases command
      exact fun word inside => .inl inside
    · cases member
  | cons token rest ih =>
    have text : ∃ other ∈ token :: rest, other.text = token.text :=
      ⟨token, List.mem_cons_self, rfl⟩
    have later {word : String} :
        (∃ other ∈ rest, other.text = word) → ∃ other ∈ token :: rest, other.text = word := by
      rintro ⟨other, inside, same⟩
      exact ⟨other, List.mem_cons_of_mem _ inside, same⟩
    rw [fixTokens] at member
    rcases List.mem_append.mp member with correction | offer
    · rw [(edit_of_mem_corrections correction).2] at command
      cases command
    · split at offer
      · exact fun word inside => (ih offer word inside).imp_right later
      · rcases List.mem_cons.mp offer with rfl | others
        · cases command
          intro word inside
          rw [List.mem_singleton.mp inside]
          exact .inr text
        · intro word inside
          rcases ih others word inside with known | there
          · rcases List.mem_append.mp known with before | now
            · exact .inl before
            · rw [List.mem_singleton.mp now]
              exact .inr text
          · exact .inr (later there)

/-- The words of an offer for a line have to be corrected. -/
theorem needsCorrection_of_mem_fixLine {workspace : Workspace} {line : String}
    {suggestion : Suggestion} (member : suggestion ∈ fixLine workspace line) {words : List String}
    {level : Level} (command : suggestion.command = some (.addWords words level)) :
    ∀ word ∈ words, workspace.checker.needsCorrection word = true := by
  intro word inside
  rcases mem_words_of_mem_fixTokens member command word inside with impossible | there
  · cases impossible
  · obtain ⟨token, flag, rfl⟩ := there
    exact ((mem_flagged workspace).mp flag).2.2

/-- A warning names its word. -/
theorem text_eq_of_warning_eq {index other : Nat} {token second : Token}
    (same : warning index token = warning other second) : token.text = second.text := by
  have message : "Unknown word: '" ++ token.text ++ "'" = "Unknown word: '" ++ second.text ++ "'" :=
    congrArg Suggestion.message same
  rwa [String.append_left_inj, String.append_right_inj] at message

/-- Every warning about lines is one about a flagged token of a line. -/
theorem exists_of_mem_diagnoseFrom {workspace : Workspace} {index : Nat} {lines : List String}
    {suggestion : Suggestion} (member : suggestion ∈ diagnoseFrom workspace index lines) :
    ∃ number, ∃ line ∈ lines, ∃ token ∈ flagged workspace line,
      suggestion = warning number token := by
  induction lines generalizing index with
  | nil => cases member
  | cons line rest ih =>
    rw [diagnoseFrom] at member
    rcases List.mem_append.mp member with here | later
    · obtain ⟨token, flag, rfl⟩ := List.mem_map.mp here
      exact ⟨index, line, List.mem_cons_self, token, flag, rfl⟩
    · obtain ⟨number, other, inside, flag⟩ := ih later
      exact ⟨number, other, List.mem_cons_of_mem _ inside, flag⟩

end Spelling

namespace Session

/-- A document is reported to have a word to correct: one of its diagnostics is the warning about a
token with the key of the word. -/
def Reports (session : Session) (document : Document) (word : String) : Prop :=
  ∃ diagnostic ∈ (session.diagnostics document).1, ∃ index token,
    diagnostic.suggestion = Spelling.warning index token ∧ Word.key token.text = Word.key word

/-- A word with an accepted entry is reported in no document. -/
theorem OnlySpelling.not_reports {session : Session} (only : session.OnlySpelling) {word : String}
    {entry : Entry} (found : session.lexicon.get? word = some entry)
    (accepted : session.workspace.settings.accepts entry.level = true) (document : Document) :
    ¬ session.Reports document word := by
  rintro ⟨diagnostic, member, index, token, warned, same⟩
  rw [only.diagnostics_eq_diagnose] at member
  obtain ⟨suggestion, said, rfl⟩ := List.mem_map.mp member
  obtain ⟨number, line, -, other, flag, rfl⟩ := Spelling.exists_of_mem_diagnoseFrom said
  have needs := ((Spelling.mem_flagged session.workspace).mp flag).2.2
  have there : session.workspace.checker.lexicon.get? other.text = some entry := by
    rw [Lexicon.get?, Spelling.text_eq_of_warning_eq warned, same]
    exact found
  have known : session.workspace.checker.settings.accepts entry.level = true := accepted
  rw [Checker.needsCorrection, there] at needs
  simp [known] at needs

/-- **Words that are added are not flagged any more**, at a level that counts as correct.

* After a definition that succeeds, a word with a key has to be corrected only if it is checked at
  all and had an entry of a level that does not count: such an entry stays as it is.
* After an offer to add words of a line is taken, entries that were there stay as they are, and the
  words that had none are reported in no document. -/
theorem added_words_cleared (session : Session) (world : World) {level : Level}
    (accepted : session.workspace.settings.accepts level = true) :
    (∀ word added, Word.key word ≠ "" →
      let change := session.lexicon.define world word level
      change.result = .ok added →
        ((Checker.mk change.lexicon session.workspace.settings).needsCorrection word = true ↔
          session.checker.ignores word = false ∧
            ∃ entry, session.lexicon.get? word = some entry ∧
              session.workspace.settings.accepts entry.level = false)) ∧
    (session.OnlySpelling → ∀ line, ∀ suggestion ∈ Spelling.fixLine session.workspace line,
      ∀ words count, suggestion.command = some (.addWords words level) →
        let change := session.apply world (.addWords words level)
        change.result = .ok count → ∀ word ∈ words,
          (∀ entry, session.lexicon.get? word = some entry →
            change.session.lexicon.get? word = some entry) ∧
          (session.lexicon.get? word = none →
            ∀ document, ¬ change.session.Reports document word)) := by
  refine ⟨?one, ?several⟩
  case one =>
    intro word added filled change success
    have outcome : Lexicon.Defined session.lexicon world word level change :=
      Lexicon.defined session.lexicon world word level
    exact Checker.needsCorrection_of_defined outcome accepted filled success
  case several =>
    intro only line suggestion offered words count command change success word inside
    have adding : Adds session level words change := adds session world level words
    refine ⟨adding.kept word, fun absent document => ?_⟩
    have needs := Spelling.needsCorrection_of_mem_fixLine offered command word inside
    obtain ⟨entry, found, same⟩ :=
      adding.found count success word inside (Checker.key_ne_empty needs) absent
    have still : change.session.OnlySpelling := by
      rw [adding.session_eq]
      exact only.withLexicon _
    refine still.not_reports found ?_ document
    rw [adding.session_eq, same]
    exact accepted

/-- A session whose lexicon has one word, at a level that does not count. -/
def unverifiedSession : Session :=
  { workspace :=
      { configuration := Configuration.default
        settings := {}
        lexicon := (Lexicon.inMemory.define ⟨{}, ⟨0⟩⟩ "hello" .unverified).lexicon }
    registry := initialRegistry Configuration.default }

/-- **A word that is known at another level stays to be corrected.**  Adding it at an accepted level
succeeds and changes nothing. -/
theorem known_word_not_cleared :
    Word.key "hello" ≠ "" ∧
      unverifiedSession.workspace.settings.accepts .verified = true ∧
      let change := unverifiedSession.lexicon.define ⟨{}, ⟨1⟩⟩ "hello" .verified
      change.result = .ok false ∧
        (Checker.mk change.lexicon unverifiedSession.workspace.settings).needsCorrection "hello"
          = true := by
  refine ⟨by decide +kernel, by decide +kernel, ?_⟩
  exact ⟨eq_ok_of_toOption (by decide +kernel), by decide +kernel⟩

/-- Two words are offered together.  The unknown one is not reported any more, and is correct when it
is added alone. -/
theorem added_words_cleared_unverifiedSession :
    let change := unverifiedSession.apply ⟨{}, ⟨1⟩⟩ (.addWords ["hello", "helo"] .verified)
    let alone := unverifiedSession.lexicon.define ⟨{}, ⟨1⟩⟩ "helo" .verified
    change.result = .ok 1 ∧ (∀ document, ¬ change.session.Reports document "helo") ∧
      alone.result = .ok true ∧
      (Checker.mk alone.lexicon unverifiedSession.workspace.settings).needsCorrection "helo"
        = false := by
  intro change alone
  have only : unverifiedSession.OnlySpelling := slot_initialRegistry Configuration.default
  have accepted : unverifiedSession.workspace.settings.accepts .verified = true := by
    decide +kernel
  obtain ⟨suggestion, offered, command⟩ :
      ∃ suggestion ∈ Spelling.fixLine unverifiedSession.workspace "hello, helo",
        suggestion.command = some (.addWords ["hello", "helo"] .verified) := by
    decide +kernel
  have unknown : (unverifiedSession.lexicon.get? "helo").isNone = true := by decide +kernel
  rw [Option.isNone_iff_eq_none] at unknown
  have several : change.result = .ok 1 := eq_ok_of_toOption (by decide +kernel)
  have one : alone.result = .ok true := eq_ok_of_toOption (by decide +kernel)
  obtain ⟨cleared, together⟩ := added_words_cleared unverifiedSession ⟨{}, ⟨1⟩⟩ accepted
  have silent := together only "hello, helo" suggestion offered ["hello", "helo"] 1 command several
    "helo" (by decide)
  refine ⟨several, silent.2 unknown, one, ?_⟩
  have needs := cleared "helo" true (by decide +kernel) one
  cases outcome : (Checker.mk alone.lexicon
    unverifiedSession.workspace.settings).needsCorrection "helo" with
  | false => rfl
  | true =>
    obtain ⟨-, entry, found, -⟩ := needs.mp outcome
    rw [unknown] at found
    cases found

end Session

end Orthography
