import Orthography.Proofs.Addition

/-!
# What a change of the lexicon does to diagnostics

A document has the same words to check whatever is in the lexicon: its tokens on lines without a
scripture reference (`Spelling.checked`).  Its diagnostics are those among them that have to be
corrected (`Session.OnlySpelling.diagnostics_eq_diagnosed`), and whether a word has to be corrected
depends on what the lexicon has under its key (`Checker.needsCorrection_congr`).

So it is enough to know what a change does to look-up: a definition that adds a word changes it at
the key of this word only (`Lexicon.get?_of_added`), any other definition does not change it at all
(`Lexicon.eq_of_not_added`), and a removal that succeeds leaves nothing at the key of its word and all
else as it was (`Lexicon.get?_of_removed`).  From this follows which diagnostics go, come and stay
(`Session.OnlySpelling.diagnostics_follow_lexicon`).
-/

namespace Orthography

set_option autoImplicit false

/-! ## Look-up after a change -/

namespace Lexicon

variable {lexicon : Lexicon} {world : World} {word : String} {level : Level}

/-- A definition that adds a word changes look-up at its key only, and there was nothing before. -/
theorem get?_of_added {change : Change Bool} (outcome : Defined lexicon world word level change)
    (added : change.result = .ok true) :
    lexicon.get? word = none ∧ ∀ other, change.lexicon.get? other =
      if Word.key other = Word.key word then some (Entry.ofWord word level world.supply.draw.1)
      else lexicon.get? other := by
  cases outcome with
  | known => cases added
  | failed => cases added
  | inMemory _ absent => exact ⟨absent, fun other => KeyMap.get?_insert ..⟩
  | saved _ absent => exact ⟨absent, fun other => KeyMap.get?_insert ..⟩

/-- A definition that adds nothing leaves the lexicon as it was, whether it fails or not. -/
theorem eq_of_not_added {change : Change Bool} (outcome : Defined lexicon world word level change)
    (idle : change.result ≠ .ok true) : change.lexicon = lexicon := by
  cases outcome with
  | known => rfl
  | failed => rfl
  | inMemory => exact absurd rfl idle
  | saved => exact absurd rfl idle

/-- After a removal that succeeds nothing is found under the key of the word, and under any other key
what was there before. -/
theorem get?_of_removed {change : Change Nat} (outcome : Removed lexicon world word change)
    {count : Nat} (success : change.result = .ok count) (other : String) :
    change.lexicon.get? other =
      if Word.key other = Word.key word then none else lexicon.get? other := by
  cases outcome with
  | failed => cases success
  | done => exact KeyMap.get?_erase ..
  | unknown absent =>
    split
    · next same =>
      rw [get?, same]
      exact absent
    · rfl

end Lexicon

/-! ## Verdicts -/

namespace Checker

variable {first second : Lexicon} {settings : Settings} {word : String}

/-- Whether a word has to be corrected depends on what is found under its key only. -/
theorem needsCorrection_congr (same : first.get? word = second.get? word) :
    (Checker.mk first settings).needsCorrection word
      = (Checker.mk second settings).needsCorrection word := by
  simp only [needsCorrection, ignores, same]

/-- A word without an entry has to be corrected, unless it is not checked at all. -/
theorem needsCorrection_of_absent (absent : first.get? word = none) :
    (Checker.mk first settings).needsCorrection word
      = !(Checker.mk first settings).ignores word := by
  simp only [needsCorrection, absent, Bool.and_true]

/-- A word with an accepted entry does not have to be corrected. -/
theorem needsCorrection_of_accepted {entry : Entry} (found : first.get? word = some entry)
    (accepted : settings.accepts entry.level = true) :
    (Checker.mk first settings).needsCorrection word = false := by
  simp only [needsCorrection, found, accepted, Bool.not_true, Bool.and_false]

/-- A word with an entry that is not accepted is judged like one without. -/
theorem needsCorrection_of_not_accepted {entry : Entry} (found : first.get? word = some entry)
    (refused : settings.accepts entry.level = false) :
    (Checker.mk first settings).needsCorrection word
      = !(Checker.mk first settings).ignores word := by
  simp only [needsCorrection, found, refused, Bool.not_false, Bool.and_true]

end Checker

/-! ## The words to check -/

namespace Spelling

/-- The tokens of a line that are checked, each with the warning about it in its place; a line with a
scripture reference has none. -/
def checkedOn (document : Document) (index : Nat) (line : String) : List (Placed × Token) :=
  if Word.isScriptureReference line then []
  else (Token.ofLine line).map fun token => ((warning index token).place document, token)

/-- The tokens of a document that are checked, each with the warning about it in its place. -/
def checked (document : Document) : List (Placed × Token) :=
  document.lines.zipIdx.flatMap fun numbered => checkedOn document numbered.2 numbered.1

/-- A token on a line without a scripture reference is checked. -/
theorem mem_checked {document : Document} {index : Nat} {line : String}
    (here : document.line? index = some line)
    (plain : Word.isScriptureReference line = false) {token : Token}
    (inside : token ∈ Token.ofLine line) :
    ((warning index token).place document, token) ∈ checked document := by
  refine List.mem_flatMap.mpr ⟨(line, index), List.mem_zipIdx_iff_getElem?.mpr here, ?_⟩
  rw [checkedOn, plain, if_neg Bool.false_ne_true]
  exact List.mem_map_of_mem inside

variable (workspace : Workspace) (document : Document)

/-- The warnings about a line are about those of its checked tokens that have to be corrected. -/
theorem place_flagged (index : Nat) (line : String) :
    ((flagged workspace line).map (warning index)).map (·.place document)
      = ((checkedOn document index line).filter fun flag =>
          workspace.checker.needsCorrection flag.2.text).map Prod.fst := by
  unfold flagged checkedOn
  split
  · rfl
  · rw [List.filter_map, List.map_map, List.map_map]
    rfl

/-- So are the warnings about lines. -/
theorem place_diagnoseFrom_eq_filter (index : Nat) (lines : List String) :
    (diagnoseFrom workspace index lines).map (·.place document)
      = (((lines.zipIdx index).flatMap fun numbered =>
          checkedOn document numbered.2 numbered.1).filter fun flag =>
            workspace.checker.needsCorrection flag.2.text).map Prod.fst := by
  induction lines generalizing index with
  | nil => rfl
  | cons line rest ih =>
    rw [diagnoseFrom, List.map_append, ih, place_flagged, List.zipIdx_cons, List.flatMap_cons,
      List.filter_append, List.map_append]

end Spelling

namespace Session

open Spelling (checked)

/-- The diagnostics of a document, each with the token that it flags. -/
def diagnosed (session : Session) (document : Document) : List (Placed × Token) :=
  (checked document).filter fun flag => session.checker.needsCorrection flag.2.text

/-- **The diagnostics of a document are the warnings about its flagged tokens**, however many lines
it has. -/
theorem OnlySpelling.diagnostics_eq_diagnosed {session : Session} (only : session.OnlySpelling)
    (document : Document) :
    (session.diagnostics document).1 = (session.diagnosed document).map Prod.fst := by
  rw [only.diagnostics_eq_diagnose]
  exact Spelling.place_diagnoseFrom_eq_filter session.workspace document 0 document.lines

/-! ## Diagnostics after a change -/

/-- Whether a flagged token is another word than some word. -/
def isOther (word : String) (flag : Placed × Token) : Bool :=
  Word.key flag.2.text ≠ Word.key word

variable {session : Session} {world : World} {word : String} {level : Level}

/-- With another lexicon, the words to check are judged by that lexicon. -/
theorem diagnosed_withLexicon (session : Session) (lexicon : Lexicon) (document : Document) :
    (session.withLexicon lexicon).diagnosed document = (checked document).filter fun flag =>
      (Checker.mk lexicon session.workspace.settings).needsCorrection flag.2.text :=
  rfl

/-- The words to check are judged by the lexicon of the session. -/
theorem diagnosed_eq (session : Session) (document : Document) :
    session.diagnosed document = (checked document).filter fun flag =>
      (Checker.mk session.lexicon session.workspace.settings).needsCorrection flag.2.text :=
  rfl

/-- A lexicon with the same entries under all keys but that of a word leaves the diagnostics of other
words. -/
theorem filter_diagnosed_congr {lexicon : Lexicon}
    (frame : ∀ other, Word.key other ≠ Word.key word →
      lexicon.get? other = session.lexicon.get? other) (document : Document) :
    ((session.withLexicon lexicon).diagnosed document).filter (isOther word)
      = (session.diagnosed document).filter (isOther word) := by
  rw [diagnosed_withLexicon, diagnosed_eq, List.filter_filter, List.filter_filter]
  refine List.filter_congr fun flag _ => ?_
  by_cases same : Word.key flag.2.text = Word.key word
  · rw [isOther, decide_eq_false (not_not_intro same), Bool.false_and, Bool.false_and]
  · rw [Checker.needsCorrection_congr (frame flag.2.text same)]

/-- A definition that adds a word at an accepted level takes away the diagnostics of this word. -/
theorem diagnosed_of_added {change : Lexicon.Change Bool}
    (outcome : Lexicon.Defined session.lexicon world word level change)
    (added : change.result = .ok true)
    (accepted : session.workspace.settings.accepts level = true) (document : Document) :
    (session.withLexicon change.lexicon).diagnosed document
      = (session.diagnosed document).filter (isOther word) := by
  obtain ⟨-, found⟩ := Lexicon.get?_of_added outcome added
  have others : ∀ flag ∈ (session.withLexicon change.lexicon).diagnosed document,
      isOther word flag = true := by
    intro flag member
    have flagged := (List.mem_filter.mp member).2
    by_contra same
    rw [isOther, decide_eq_true_eq, not_not] at same
    have unflagged := Checker.needsCorrection_of_accepted
      ((found flag.2.text).trans (if_pos same)) accepted
    exact Bool.false_ne_true (unflagged.symm.trans flagged)
  rw [← List.filter_eq_self.mpr others]
  exact filter_diagnosed_congr
    (fun other different => (found other).trans (if_neg different)) document

/-- A definition at a level that is not accepted changes no diagnostic, even if it adds a word. -/
theorem diagnosed_of_not_accepted {change : Lexicon.Change Bool}
    (outcome : Lexicon.Defined session.lexicon world word level change)
    (added : change.result = .ok true)
    (refused : session.workspace.settings.accepts level = false) (document : Document) :
    (session.withLexicon change.lexicon).diagnosed document = session.diagnosed document := by
  obtain ⟨absent, found⟩ := Lexicon.get?_of_added outcome added
  rw [diagnosed_withLexicon, diagnosed_eq]
  refine List.filter_congr fun flag _ => ?_
  have after := found flag.2.text
  by_cases same : Word.key flag.2.text = Word.key word
  · -- The word had no entry before and has none that counts now.
    have before : session.lexicon.get? flag.2.text = none := by
      rw [Lexicon.get?, same]
      exact absent
    rw [if_pos same] at after
    rw [Checker.needsCorrection_of_not_accepted after refused,
      Checker.needsCorrection_of_absent before]
    rfl
  · rw [if_neg same] at after
    rw [Checker.needsCorrection_congr after]

/-- A removal keeps the diagnostics of other words. -/
theorem filter_diagnosed_of_removed {change : Lexicon.Change Nat}
    (outcome : Lexicon.Removed session.lexicon world word change) {count : Nat}
    (success : change.result = .ok count) (document : Document) :
    ((session.withLexicon change.lexicon).diagnosed document).filter (isOther word)
      = (session.diagnosed document).filter (isOther word) :=
  filter_diagnosed_congr
    (fun other different =>
      (Lexicon.get?_of_removed outcome success other).trans (if_neg different)) document

/-- After a removal every token with the key of the word is flagged if it is checked at all. -/
theorem mem_diagnosed_of_removed {change : Lexicon.Change Nat}
    (outcome : Lexicon.Removed session.lexicon world word change) {count : Nat}
    (success : change.result = .ok count) {document : Document} {flag : Placed × Token}
    (inside : flag ∈ checked document) (same : Word.key flag.2.text = Word.key word)
    (judged : session.checker.ignores flag.2.text = false) :
    flag ∈ (session.withLexicon change.lexicon).diagnosed document := by
  have absent := Lexicon.get?_of_removed outcome success flag.2.text
  rw [if_pos same] at absent
  rw [diagnosed_withLexicon]
  refine List.mem_filter.mpr ⟨inside, ?_⟩
  rw [Checker.needsCorrection_of_absent absent, Bool.not_eq_true']
  exact judged

/-- What a session does to define a word is what its lexicon does. -/
theorem exists_defined (session : Session) (world : World) (word : String) (level : Level) :
    ∃ change, Lexicon.Defined session.lexicon world word level change ∧
      session.define world word level
        = ⟨change.result, session.withLexicon change.lexicon, change.world⟩ :=
  ⟨_, Lexicon.defined session.lexicon world word level, rfl⟩

/-- What a session does to take out a word is what its lexicon does. -/
theorem exists_removed (session : Session) (world : World) (word : String) :
    ∃ change, Lexicon.Removed session.lexicon world word change ∧
      session.remove world word
        = ⟨change.result, session.withLexicon change.lexicon, change.world⟩ :=
  ⟨_, Lexicon.removed session.lexicon world word, rfl⟩

/-- **Changes of the lexicon change the diagnostics of a document exactly where they should.**  The
diagnostics are told with the tokens that they flag (`diagnosed`), before the change and after it.

* A definition that adds a word at an accepted level takes away the diagnostics of the tokens with the
  key of this word, and leaves the others in their order.
* A definition that adds nothing, that fails, or whose level is not accepted, changes nothing.
* A removal that succeeds leaves the diagnostics of tokens with another key in their order, and every
  token with the key of the word is flagged if it is not exempt, no pattern to be ignored occurs in it
  and its line has no scripture reference. -/
theorem OnlySpelling.diagnostics_follow_lexicon (only : session.OnlySpelling) (world : World)
    (document : Document) (word : String) (level : Level) :
    let added := session.define world word level
    let removed := session.remove world word
    (∀ now ∈ [session, added.session, removed.session],
      (now.diagnostics document).1 = (now.diagnosed document).map Prod.fst) ∧
    (added.result = .ok true → session.workspace.settings.accepts level = true →
      added.session.diagnosed document = (session.diagnosed document).filter fun flag =>
        Word.key flag.2.text ≠ Word.key word) ∧
    (added.result ≠ .ok true ∨ session.workspace.settings.accepts level = false →
      added.session.diagnosed document = session.diagnosed document) ∧
    (∀ count, removed.result = .ok count →
      ((removed.session.diagnosed document).filter fun flag =>
          Word.key flag.2.text ≠ Word.key word)
        = ((session.diagnosed document).filter fun flag =>
          Word.key flag.2.text ≠ Word.key word) ∧
      ∀ index line, document.line? index = some line →
        Word.isScriptureReference line = false → ∀ token ∈ Token.ofLine line,
          Word.key token.text = Word.key word → Word.isExempt token.text = false →
          (∀ pattern ∈ session.workspace.settings.ignorePatterns,
            pattern.isIn (Word.surface token.text) = false) →
          ((Spelling.warning index token).place document, token)
            ∈ removed.session.diagnosed document) := by
  obtain ⟨addition, defining, definition⟩ := exists_defined session world word level
  obtain ⟨removal, removing, deletion⟩ := exists_removed session world word
  rw [definition, deletion]
  intro added removed
  refine ⟨?told, ?cleared, ?unchanged, fun count success => ⟨?others, ?flagged⟩⟩
  case told =>
    intro now member
    have known : now.OnlySpelling := by
      simp only [List.mem_cons, List.not_mem_nil, or_false] at member
      rcases member with rfl | rfl | rfl
      · exact only
      · exact only.withLexicon _
      · exact only.withLexicon _
    exact known.diagnostics_eq_diagnosed document
  case cleared =>
    exact fun success accepted => diagnosed_of_added defining success accepted document
  case unchanged =>
    intro idle
    by_cases success : addition.result = .ok true
    · have refused := idle.resolve_left (not_not_intro success)
      exact diagnosed_of_not_accepted defining success refused document
    · show (session.withLexicon addition.lexicon).diagnosed document = _
      rw [Lexicon.eq_of_not_added defining success]
      rfl
  case others => exact filter_diagnosed_of_removed removing success document
  case flagged =>
    intro index line here plain token inside same checked unmatched
    refine mem_diagnosed_of_removed removing success (Spelling.mem_checked here plain inside) same ?_
    show (Word.isExempt token.text || session.workspace.settings.ignorePatterns.any fun pattern =>
      pattern.isIn (Word.surface token.text)) = false
    rw [checked, Bool.false_or, List.any_eq_false]
    exact fun pattern member => Bool.eq_false_iff.mp (unmatched pattern member)

/-- A session that knows one word. -/
def greetingSession : Session :=
  { workspace :=
      { configuration := Configuration.default
        settings := {}
        lexicon := (Lexicon.inMemory.define ⟨{}, ⟨0⟩⟩ "hello" .verified).lexicon }
    registry := initialRegistry Configuration.default }

/-- A document with the known word in two spellings, an unknown one, and a line that is not
checked. -/
def greeting : Document :=
  ⟨"greeting", ["Hello wrld, hello!", "GEN 1:1 wrld"]⟩

/-- Adding the unknown word takes its diagnostic away; taking out the known one brings one for each of
its spellings. -/
theorem diagnostics_follow_lexicon_greeting :
    let added := greetingSession.define ⟨{}, ⟨1⟩⟩ "wrld" .verified
    let idle := greetingSession.define ⟨{}, ⟨1⟩⟩ "wrld" .unverified
    let removed := greetingSession.remove ⟨{}, ⟨1⟩⟩ "HELLO."
    let hello : Token := ⟨"Hello", 0, 0, 5⟩
    greetingSession.OnlySpelling ∧
      (greetingSession.diagnosed greeting).map (fun flag => flag.2.text) = ["wrld"] ∧
      added.result = .ok true ∧ greetingSession.workspace.settings.accepts .verified = true ∧
      (added.session.diagnostics greeting).1 = [] ∧
      idle.result = .ok true ∧ greetingSession.workspace.settings.accepts .unverified = false ∧
      idle.session.diagnosed greeting = greetingSession.diagnosed greeting ∧
      removed.result = .ok 1 ∧
      ((Spelling.warning 0 hello).place greeting, hello) ∈ removed.session.diagnosed greeting := by
  intro added idle removed hello
  have only : greetingSession.OnlySpelling := slot_initialRegistry Configuration.default
  have before : (greetingSession.diagnosed greeting).map (fun flag => flag.2.text) = ["wrld"] := by
    decide +kernel
  have wasAdded : added.result = .ok true := eq_ok_of_toOption (by decide +kernel)
  have wasIdle : idle.result = .ok true := eq_ok_of_toOption (by decide +kernel)
  have wasRemoved : removed.result = .ok 1 := eq_ok_of_toOption (by decide +kernel)
  have accepted : greetingSession.workspace.settings.accepts .verified = true := by decide +kernel
  have refused : greetingSession.workspace.settings.accepts .unverified = false := by
    decide +kernel
  obtain ⟨told, cleared, -, -⟩ :=
    only.diagnostics_follow_lexicon ⟨{}, ⟨1⟩⟩ greeting "wrld" .verified
  obtain ⟨-, -, unchanged, -⟩ :=
    only.diagnostics_follow_lexicon ⟨{}, ⟨1⟩⟩ greeting "wrld" .unverified
  obtain ⟨-, -, -, back⟩ :=
    only.diagnostics_follow_lexicon ⟨{}, ⟨1⟩⟩ greeting "HELLO." .verified
  refine ⟨only, before, wasAdded, accepted, ?_, wasIdle, refused, unchanged (.inr refused),
    wasRemoved, ?_⟩
  · have after := told added.session (by simp [added])
    have left : (greetingSession.diagnosed greeting).filter (fun flag =>
        Word.key flag.2.text ≠ Word.key "wrld") = [] := by decide +kernel
    rw [after, cleared wasAdded accepted, left]
    rfl
  · exact (back 1 wasRemoved).2 0 "Hello wrld, hello!" rfl (by decide +kernel) hello
      (by decide +kernel) (by decide +kernel) (by decide +kernel) (by decide)

end Session

end Orthography
