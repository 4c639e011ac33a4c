import Orthography.Proofs.Firsts
import Orthography.Proofs.Recheck

/-!
# Offers for the words of a line

Diagnostics and actions look at the same tokens of a line, those that have to be corrected.  A
diagnostic stands at each of them, also where a word comes again; an offer to add the word is made
the first time only.

**What is offered.**  A token is new if no word that was offered before is the same word.  The keys
of the new tokens are the keys of all tokens, each of them once and in the order in which they come
first (`Spelling.keys_newcomers`), and each new token is the first one with its key
(`Spelling.find?_of_mem_newcomers`).  The suggestions for the tokens are edits and one offer for
each new token, and after them the offer to add all of these at once
(`Spelling.exists_fixTokens_eq`, `Spelling.offersEach`).

**What it comes to.**  The largest offer has the words of all new tokens
(`Spelling.OffersEach.most`), so that every flagged token has the key of one of them.  When it is
taken, the flagged tokens are known and nothing else becomes unknown
(`Session.flagged_eq_nil_of_adds`): the line has no diagnostics any more
(`Session.offers_cover_diagnostics`).
-/

namespace Orthography

set_option autoImplicit false

/-- The key of the word that a token is. -/
def Token.key (token : Token) : String :=
  Word.key token.text

namespace Spelling

/-! ## New tokens -/

/-- Whether one of some words has a key. -/
def listed (words : List String) (key : String) : Bool :=
  words.any fun word => Word.key word = key

/-- The tokens that are not the same word as one that was offered before, or as a token before
them. -/
def newcomers (offered : List String) : List Token → List Token
  | [] => []
  | token :: rest =>
    if listed offered token.key then newcomers offered rest
    else token :: newcomers (offered ++ [token.text]) rest

/-- With one more word, its key is listed as well. -/
theorem listed_concat (words : List String) (word key : String) :
    listed (words ++ [word]) key = (listed words key || key == Word.key word) := by
  rw [listed, listed, List.any_append, List.any_cons, List.any_nil, Bool.or_false,
    beq_eq_decide, decide_eq_decide.mpr eq_comm]

/-- The new tokens are the first ones with the keys that are not listed. -/
theorem newcomers_eq_firsts (offered : List String) (tokens : List Token) :
    newcomers offered tokens = firsts Token.key (listed offered) tokens := by
  induction tokens generalizing offered with
  | nil => rfl
  | cons token rest ih =>
    have next : listed (offered ++ [token.text])
        = fun other => listed offered other || other == token.key :=
      funext (listed_concat offered token.text)
    rw [newcomers, firsts, ih, ih, next]

/-- The keys of the new tokens are the keys of all tokens that were not offered before, each of them
once and in the order in which they come first. -/
theorem keys_newcomers (offered : List String) (tokens : List Token) :
    (newcomers offered tokens).map Token.key
      = ((tokens.map Token.key).filter fun key => !listed offered key).eraseDups := by
  rw [newcomers_eq_firsts, map_firsts]

/-- A new token is not offered before, and is the first one with its key. -/
theorem find?_of_mem_newcomers {offered : List String} {tokens : List Token} {token : Token}
    (member : token ∈ newcomers offered tokens) :
    listed offered token.key = false ∧
      tokens.find? (fun other => other.key = token.key) = some token := by
  rw [newcomers_eq_firsts] at member
  exact find?_of_mem_firsts Token.key member

/-! ## Suggestions for a line -/

/-- The suggestions for a token and those after it: the offer to add it is left out when its key is
listed. -/
theorem fixTokens_cons (workspace : Workspace) (line : String) (offered : List String)
    (token : Token) (rest : List Token) :
    fixTokens workspace line offered (token :: rest)
      = corrections workspace line token ++
          if listed offered token.key then fixTokens workspace line offered rest
          else
            addition workspace.configuration.addedWordLevel token.text
              :: fixTokens workspace line (offered ++ [token.text]) rest :=
  rfl

/-- The suggestions for some tokens: edits, with one offer for each new token between them, and at
the end the offer to add all words at once. -/
theorem exists_fixTokens_eq (workspace : Workspace) {level : Level}
    (configured : workspace.configuration.addedWordLevel = level) (line : String)
    (offered : List String) (tokens : List Token) :
    ∃ suggestions,
      fixTokens workspace line offered tokens
          = suggestions
            ++ additionOfAll level (offered ++ (newcomers offered tokens).map Token.text) ∧
        suggestions.filterMap Suggestion.command
          = (newcomers offered tokens).map (fun token => .addWords [token.text] level) ∧
        ∀ suggestion ∈ suggestions, suggestion.edit.isSome = suggestion.command.isNone := by
  induction tokens generalizing offered with
  | nil =>
    refine ⟨[], ?_, rfl, nofun⟩
    rw [fixTokens, newcomers, List.map_nil, List.append_nil, List.nil_append, configured]
  | cons token rest ih =>
    have edits : ∀ suggestion ∈ corrections workspace line token,
        suggestion.edit.isSome = suggestion.command.isNone := by
      intro suggestion member
      obtain ⟨edit, command⟩ := edit_of_mem_corrections member
      rw [edit, command, Option.isNone_none]
    have silent : (corrections workspace line token).filterMap Suggestion.command = [] :=
      List.filterMap_eq_nil_iff.mpr fun suggestion member => (edit_of_mem_corrections member).2
    rw [newcomers, fixTokens_cons, configured]
    by_cases known : listed offered token.key = true
    · obtain ⟨others, whole, commands, shape⟩ := ih offered
      rw [if_pos known, if_pos known]
      refine ⟨corrections workspace line token ++ others, ?_, ?_, ?_⟩
      · rw [whole, List.append_assoc]
      · rw [List.filterMap_append, silent, commands, List.nil_append]
      · exact List.forall_mem_append.mpr ⟨edits, shape⟩
    · obtain ⟨others, whole, commands, shape⟩ := ih (offered ++ [token.text])
      rw [if_neg known, if_neg known]
      refine ⟨corrections workspace line token ++ addition level token.text :: others, ?_, ?_, ?_⟩
      · rw [whole, List.map_cons]
        simp only [List.append_assoc, List.cons_append, List.nil_append]
      · rw [List.filterMap_append, silent, List.nil_append, List.map_cons, ← commands]
        rfl
      · exact List.forall_mem_append.mpr ⟨edits, List.forall_mem_cons.mpr ⟨rfl, shape⟩⟩

/-- Suggestions offer each of some words once: they offer to add the first token with each key, and
nothing else. -/
structure OffersEach (level : Level) (tokens firsts : List Token) (suggestions : List Suggestion) :
    Prop where
  /-- There is one token for each key, in the order in which the keys come first. -/
  keys : firsts.map Token.key = (tokens.map Token.key).eraseDups
  /-- It is the first token with its key. -/
  first : ∀ token ∈ firsts, tokens.find? (fun other => other.key = token.key) = some token
  /-- There is one command for each of them, in this order; then, if there are several, the command
  for all of them; and no other command. -/
  commands : suggestions.filterMap Suggestion.command
    = firsts.map (fun token => .addWords [token.text] level)
      ++ if 1 < firsts.length then [.addWords (firsts.map Token.text) level] else []
  /-- If there are several, the last suggestion is the one with the command for all. -/
  last : 1 < firsts.length → ∃ others final, suggestions = others ++ [final] ∧
    final.command = some (.addWords (firsts.map Token.text) level)
  /-- A suggestion without a command is an edit, and one with a command is none. -/
  edits : ∀ suggestion ∈ suggestions, suggestion.edit.isSome = suggestion.command.isNone

/-- The suggestions for a line offer each of its flagged words once. -/
theorem offersEach (workspace : Workspace) (line : String) :
    OffersEach workspace.configuration.addedWordLevel (flagged workspace line)
      (newcomers [] (flagged workspace line)) (fixLine workspace line) := by
  obtain ⟨others, whole, commands, shape⟩ :=
    exists_fixTokens_eq workspace rfl line [] (flagged workspace line)
  rw [List.nil_append, additionOfAll, List.length_map] at whole
  rw [fixLine, whole]
  refine ⟨?keys, fun token member => (find?_of_mem_newcomers member).2, ?commands, ?last, ?edits⟩
  case keys =>
    rw [keys_newcomers, List.filter_eq_self.mpr]
    exact fun key _ => rfl
  case commands =>
    rw [List.filterMap_append, commands]
    split <;> rfl
  case last =>
    intro several
    rw [if_pos several]
    exact ⟨others, _, rfl, rfl⟩
  case edits =>
    refine List.forall_mem_append.mpr ⟨shape, ?_⟩
    split
    · exact List.forall_mem_singleton.mpr rfl
    · exact List.forall_mem_nil _

/-- A command to add words is offered, and none is offered that adds more. -/
structure OffersMost (suggestions : List Suggestion) (words : List String) (level : Level) :
    Prop where
  offered : .addWords words level ∈ suggestions.filterMap Suggestion.command
  most : ∀ fewer other, .addWords fewer other ∈ suggestions.filterMap Suggestion.command →
    fewer.length ≤ words.length

namespace OffersEach

variable {level : Level} {tokens firsts : List Token} {suggestions : List Suggestion}
  (each : OffersEach level tokens firsts suggestions)

include each

/-- Every token has the key of one that is offered. -/
theorem exists_first {token : Token} (member : token ∈ tokens) :
    ∃ first ∈ firsts, first.key = token.key := by
  have listed : token.key ∈ firsts.map Token.key := by
    rw [each.keys, List.mem_eraseDups]
    exact List.mem_map_of_mem member
  exact List.mem_map.mp listed

/-- The largest command adds all of them. -/
theorem most {words : List String} {other : Level} (largest : OffersMost suggestions words other) :
    words = firsts.map Token.text ∧ other = level := by
  have offered := largest.offered
  rw [each.commands, List.mem_append] at offered
  by_cases several : 1 < firsts.length
  · rw [if_pos several] at offered
    rcases offered with one | all
    · -- The command for all adds more than a command for one.
      obtain ⟨token, -, same⟩ := List.mem_map.mp one
      cases same
      have bound := largest.most (firsts.map Token.text) level (by
        rw [each.commands, if_pos several]
        exact List.mem_append_right _ List.mem_cons_self)
      rw [List.length_map, List.length_singleton] at bound
      omega
    · cases List.mem_singleton.mp all
      exact ⟨rfl, rfl⟩
  · rw [if_neg several] at offered
    obtain ⟨token, member, same⟩ := List.mem_map.mp (offered.resolve_right List.not_mem_nil)
    have one : firsts.length = 1 := by
      have some := List.length_pos_of_mem member
      omega
    obtain ⟨first, rfl⟩ := List.length_eq_one_iff.mp one
    cases List.mem_singleton.mp member
    cases same
    exact ⟨rfl, rfl⟩

end OffersEach

/-- Nothing is suggested for a line exactly if none of its tokens is flagged. -/
theorem fixLine_eq_nil_iff {workspace : Workspace} {line : String} :
    fixLine workspace line = [] ↔ flagged workspace line = [] := by
  constructor
  · intro silent
    have each := offersEach workspace line
    rw [silent] at each
    rw [List.eq_nil_iff_forall_not_mem]
    intro token member
    obtain ⟨first, new, -⟩ := each.exists_first member
    have nothing := List.append_eq_nil_iff.mp each.commands.symm
    rw [List.map_eq_nil_iff.mp nothing.1] at new
    cases new
  · intro clean
    rw [fixLine, clean]
    rfl

/-! ## Diagnostics of a line -/

/-- No diagnostic of a document is about the line with a number. -/
def QuietOn (workspace : Workspace) (lines : List String) (index : Nat) : Prop :=
  ∀ warning ∈ diagnose workspace lines, warning.line ≠ some index

/-- The warnings about lines are those about each line with its number. -/
theorem diagnoseFrom_eq_flatMap (workspace : Workspace) (index : Nat) (lines : List String) :
    diagnoseFrom workspace index lines
      = (lines.zipIdx index).flatMap fun numbered =>
          (flagged workspace numbered.1).map (warning numbered.2) := by
  induction lines generalizing index with
  | nil => rfl
  | cons line rest ih => rw [diagnoseFrom, ih, List.zipIdx_cons, List.flatMap_cons]

/-- A line has no diagnostics exactly if none of its tokens is flagged. -/
theorem quietOn_iff {workspace : Workspace} {lines : List String} {index : Nat} {line : String}
    (here : lines[index]? = some line) :
    QuietOn workspace lines index ↔ flagged workspace line = [] := by
  rw [QuietOn, diagnose, diagnoseFrom_eq_flatMap]
  constructor
  · intro quiet
    rw [List.eq_nil_iff_forall_not_mem]
    intro token flag
    refine quiet (warning index token) (List.mem_flatMap.mpr ⟨(line, index), ?_, ?_⟩) rfl
    · exact List.mem_zipIdx_iff_getElem?.mpr here
    · exact List.mem_map_of_mem flag
  · rintro clean _ said place
    obtain ⟨⟨other, number⟩, numbered, member⟩ := List.mem_flatMap.mp said
    obtain ⟨token, flag, rfl⟩ := List.mem_map.mp member
    cases place
    rw [List.mem_zipIdx_iff_getElem?, here] at numbered
    cases numbered
    rw [clean] at flag
    cases flag

end Spelling

namespace Session

open Spelling (flagged fixLine OffersEach OffersMost QuietOn)

/-! ## After an offer is taken -/

section Adding

variable {session : Session} {level : Level} {words : List String} {change : Change Nat}
  (adding : Adds session level words change)

include adding

/-- No word has to be corrected after others are added that did not have to be before. -/
theorem Adds.needsCorrection {word : String}
    (needs : change.session.checker.needsCorrection word = true) :
    session.checker.needsCorrection word = true := by
  have after : change.session.checker
      = ⟨change.session.lexicon, session.workspace.settings⟩ := by
    rw [adding.session_eq]
    rfl
  rw [after] at needs
  have before : session.checker = ⟨session.lexicon, session.workspace.settings⟩ := rfl
  rw [before]
  cases known : session.lexicon.get? word with
  | none =>
    rw [Checker.needsCorrection_of_absent known]
    exact (Bool.and_eq_true_iff.mp needs).1
  | some entry =>
    rw [Checker.needsCorrection_congr (known.trans (adding.kept word entry known).symm)]
    exact needs

/-- After words are added at an accepted level, no token of a line is flagged any more, if none of
the flagged ones was known and each was one of the words. -/
theorem flagged_eq_nil_of_adds {count : Nat} (success : change.result = .ok count)
    (accepted : session.workspace.settings.accepts level = true) {line : String}
    (unknown : ∀ token ∈ flagged session.workspace line, session.lexicon.get? token.text = none)
    (covered : ∀ token ∈ flagged session.workspace line,
      ∃ word ∈ words, Word.key word = token.key) :
    flagged change.session.workspace line = [] := by
  rw [List.eq_nil_iff_forall_not_mem]
  intro token member
  obtain ⟨plain, inside, needs⟩ := (Spelling.mem_flagged _).mp member
  have before := adding.needsCorrection needs
  have flag : token ∈ flagged session.workspace line :=
    (Spelling.mem_flagged _).mpr ⟨plain, inside, before⟩
  obtain ⟨word, added, same⟩ := covered token flag
  have one (lexicon : Lexicon) : lexicon.get? word = lexicon.get? token.text := by
    rw [Lexicon.get?, Lexicon.get?, same, Token.key]
  have filled : Word.key word ≠ "" := by
    rw [same]
    exact Checker.key_ne_empty before
  obtain ⟨entry, found, leveled⟩ :=
    adding.found count success word added filled ((one _).trans (unknown token flag))
  rw [one] at found
  have settings : change.session.workspace.settings = session.workspace.settings := by
    rw [adding.session_eq]
    rfl
  have known : change.session.workspace.checker.needsCorrection token.text = false :=
    Checker.needsCorrection_of_accepted found (by rw [settings, leveled, accepted])
  rw [known] at needs
  cases needs

end Adding

/-- **Diagnostics and actions cover the same words.**

* Nothing is suggested for a line exactly if no diagnostic is about it, in whichever document it
  stands.
* The suggestions for a line offer each of its flagged words once, and all of them together if there
  are several.
* If none of these words is known and the level of the configuration counts as correct, no
  diagnostic is about the line any more after the largest offer was taken with success. -/
theorem offers_cover_diagnostics (session : Session) (line : String) :
    let level := session.configuration.addedWordLevel
    let tokens := flagged session.workspace line
    let suggestions := fixLine session.workspace line
    (∀ (lines : List String) (index : Nat), lines[index]? = some line →
        (suggestions = [] ↔ QuietOn session.workspace lines index)) ∧
      (∃ firsts, OffersEach level tokens firsts suggestions) ∧
      (session.workspace.settings.accepts level = true →
        (∀ token ∈ tokens, session.lexicon.get? token.text = none) →
        ∀ words other, OffersMost suggestions words other → ∀ world count,
          let change := session.apply world (.addWords words other)
          change.result = .ok count → ∀ (lines : List String) (index : Nat),
            lines[index]? = some line → QuietOn change.session.workspace lines index) := by
  intro level tokens suggestions
  have each := Spelling.offersEach session.workspace line
  refine ⟨?empty, ⟨_, each⟩, ?cleared⟩
  case empty =>
    intro lines index here
    rw [Spelling.quietOn_iff here]
    exact Spelling.fixLine_eq_nil_iff
  case cleared =>
    intro accepted unknown words other largest world count change success lines index here
    obtain ⟨rfl, rfl⟩ := each.most largest
    have adding : Adds session level _ change := adds session world level _
    rw [Spelling.quietOn_iff here]
    refine flagged_eq_nil_of_adds adding success accepted unknown fun token flag => ?_
    obtain ⟨first, new, same⟩ := each.exists_first flag
    exact ⟨first.text, List.mem_map_of_mem new, same⟩

/-- Two words come twice each, the second time in small letters or without quotes: three offers are
made, and the one for both leaves nothing to report. -/
theorem offers_cover_diagnostics_repeated :
    let line := "Selah! selah, «Amen» amen"
    let suggestions := fixLine unverifiedSession.workspace line
    let change := unverifiedSession.apply ⟨{}, ⟨1⟩⟩ (.addWords ["Selah", "Amen"] .verified)
    (flagged unverifiedSession.workspace line).length = 4 ∧
      suggestions.filterMap Suggestion.command
        = [.addWords ["Selah"] .verified, .addWords ["Amen"] .verified,
            .addWords ["Selah", "Amen"] .verified] ∧
      ¬ QuietOn unverifiedSession.workspace ["hello", line] 1 ∧
      change.result = .ok 2 ∧ QuietOn change.session.workspace ["hello", line] 1 := by
  intro line suggestions change
  have commands : suggestions.filterMap Suggestion.command
      = [.addWords ["Selah"] .verified, .addWords ["Amen"] .verified,
          .addWords ["Selah", "Amen"] .verified] := by decide +kernel
  have largest : OffersMost suggestions ["Selah", "Amen"] .verified := by
    refine ⟨by simp [commands], fun fewer other offered => ?_⟩
    simp only [commands, List.mem_cons, List.not_mem_nil, or_false, Command.addWords.injEq]
      at offered
    rcases offered with ⟨rfl, -⟩ | ⟨rfl, -⟩ | ⟨rfl, -⟩ <;> decide
  have unknown : ∀ token ∈ flagged unverifiedSession.workspace line,
      (unverifiedSession.lexicon.get? token.text).isNone = true := by decide +kernel
  have done : change.result = .ok 2 := eq_ok_of_toOption (by decide +kernel)
  have accepted : unverifiedSession.workspace.settings.accepts
      unverifiedSession.configuration.addedWordLevel = true := by decide +kernel
  obtain ⟨silent, -, cleared⟩ := offers_cover_diagnostics unverifiedSession line
  have some : ¬ suggestions = [] := by
    intro none
    rw [none] at commands
    cases commands
  exact ⟨by decide +kernel, commands, mt (silent ["hello", line] 1 rfl).mpr some, done,
    cleared accepted (fun token flag => Option.isNone_iff_eq_none.mp (unknown token flag))
      _ _ largest _ _ done ["hello", line] 1 rfl⟩

end Session

end Orthography
