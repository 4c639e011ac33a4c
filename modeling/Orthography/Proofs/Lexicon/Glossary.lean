import Orthography.Proofs.Lexicon.Removal

/-!
# A lexicon replies like a map

A user of a lexicon asks it to add and to take out words, and what it has (`Request`).  Its replies
can be compared with those of a *glossary*, a finite map from keys to a head word and a level
(`Glossary`).

**Simulation.**  A lexicon mirrors a glossary if it has the same entries but for what a glossary
does not tell, and if its files have every known key once at most and no other key
(`Lexicon.Mirrors`).  The second part is what makes a removal say the same: a lexicon counts the
entries in its files, and a lexicon without files counts none and says one.  Every reply that is no
failure is the reply of the glossary, and the lexicon mirrors the glossary afterwards
(`Lexicon.Mirrors.ask`); so the same holds of any sequence of requests (`Lexicon.Mirrors.replies`).
-/

namespace Orthography

set_option autoImplicit false

/-! ## Requests and replies -/

/-- What a lexicon can be asked for. -/
inductive Request where
  | define (word : String) (level : Level)
  | remove (word : String)
  | get (word : String)
  | contains (word : String)
  | size
  | entries
  | entriesAt (levels : List Level)

/-- What is replied; entries are told in some form. -/
inductive Reply (α : Type) where
  | added (isNew : Bool)
  | removed (count : Nat)
  | found (entry : Option α)
  | known (isKnown : Bool)
  | counted (size : Nat)
  | listed (entries : List α)
  | failed (failure : Failure)

namespace Reply

variable {α β : Type}

/-- The reply to a change with some result. -/
def ofResult (told : β → Reply α) : Except Failure β → Reply α
  | .ok value => told value
  | .error failure => .failed failure

/-- Whether a reply is a failure. -/
def isFailure : Reply α → Bool
  | .failed _ => true
  | _ => false

/-- A reply to a change is no failure only if the change is none. -/
theorem isOk_of_ofResult {told : β → Reply α} {result : Except Failure β}
    (fine : (ofResult told result).isFailure = false) : result.isOk = true := by
  cases result with
  | error failure => cases fine
  | ok value => rfl

/-- A reply to a change that is no failure is none. -/
theorem isFailure_ofResult {told : β → Reply α} (plain : ∀ value, (told value).isFailure = false)
    {result : Except Failure β} (fine : result.isOk = true) :
    (ofResult told result).isFailure = false := by
  cases result with
  | error failure => cases fine
  | ok value => exact plain value

/-- The same reply with entries told in another form. -/
def map (form : α → β) : Reply α → Reply β
  | .added isNew => .added isNew
  | .removed count => .removed count
  | .found entry => .found (entry.map form)
  | .known isKnown => .known isKnown
  | .counted size => .counted size
  | .listed entries => .listed (entries.map form)
  | .failed failure => .failed failure

end Reply

/-- What a lexicon in some world replies, with the lexicon and the world after it. -/
def Store.ask (store : Store) : Request → Reply Entry × Store
  | .define word level =>
    let change := store.lexicon.define store.world word level
    (.ofResult .added change.result, ⟨change.lexicon, change.world⟩)
  | .remove word =>
    let change := store.lexicon.remove store.world word
    (.ofResult .removed change.result, ⟨change.lexicon, change.world⟩)
  | .get word => (.found (store.lexicon.get? word), store)
  | .contains word => (.known (store.lexicon.contains word), store)
  | .size => (.counted store.lexicon.size, store)
  | .entries => (.listed store.lexicon.entries, store)
  | .entriesAt levels => (.listed (store.lexicon.entriesAt levels), store)

/-- A request to add a word is a definition with one of its outcomes, and changes no path. -/
theorem Store.exists_defined (store : Store) (word : String) (level : Level) :
    ∃ change, Lexicon.Defined store.lexicon store.world word level change ∧
      change.lexicon.paths = store.lexicon.paths ∧
      store.ask (.define word level)
        = (.ofResult .added change.result, ⟨change.lexicon, change.world⟩) :=
  ⟨_, Lexicon.defined store.lexicon store.world word level,
    Lexicon.paths_perform store.lexicon store.world (.define word level), rfl⟩

/-- A request to take out a word is a removal with one of its outcomes, and changes no path. -/
theorem Store.exists_removed (store : Store) (word : String) :
    ∃ change, Lexicon.Removed store.lexicon store.world word change ∧
      change.lexicon.paths = store.lexicon.paths ∧
      store.ask (.remove word)
        = (.ofResult .removed change.result, ⟨change.lexicon, change.world⟩) :=
  ⟨_, Lexicon.removed store.lexicon store.world word,
    Lexicon.paths_perform store.lexicon store.world (.remove word), rfl⟩

/-- The replies to requests that are made one after the other, each in the world that the one before
it left. -/
def Store.replies (store : Store) : List Request → List (Reply Entry)
  | [] => []
  | request :: rest => (store.ask request).1 :: (store.ask request).2.replies rest

/-- The replies to requests that are made one after the other, each in a world of its own. -/
def Lexicon.replies (lexicon : Lexicon) : List (World × Request) → List (Reply Entry)
  | [] => []
  | (world, request) :: rest =>
    let (reply, store) := (Store.mk lexicon world).ask request
    reply :: store.lexicon.replies rest

/-! ## Glossaries -/

/-- A finite map from keys to a head word and its level. -/
abbrev Glossary := KeyMap (String × Level)

namespace Glossary

/-- What a glossary replies, with the glossary after it.  A word is added under its key if that is
not empty and not there, and taken out with its key. -/
def ask (glossary : Glossary) : Request → Reply (String × Level) × Glossary
  | .define word level =>
    let key := Word.key word
    if key = "" ∨ (glossary.get? key).isSome then (.added false, glossary)
    else (.added true, glossary.insert key (Word.surface word, level))
  | .remove word =>
    let key := Word.key word
    if (glossary.get? key).isSome then (.removed 1, glossary.erase key)
    else (.removed 0, glossary)
  | .get word => (.found (glossary.get? (Word.key word)), glossary)
  | .contains word => (.known (glossary.contains (Word.key word)), glossary)
  | .size => (.counted glossary.size, glossary)
  | .entries => (.listed glossary.values, glossary)
  | .entriesAt levels =>
    (.listed (glossary.values.filter fun told => levels.contains told.2), glossary)

/-- The replies of a glossary to requests that are made one after the other. -/
def replies (glossary : Glossary) : List Request → List (Reply (String × Level))
  | [] => []
  | request :: rest => (glossary.ask request).1 :: (glossary.ask request).2.replies rest

end Glossary

namespace Entry

/-- An entry without its identifier. -/
def anonymous (entry : Entry) : Entry :=
  { entry with id := ⟨0⟩ }

/-- The entry that a head word and a level make up, without an identifier. -/
def bare (told : String × Level) : Entry :=
  { headWord := told.1, level := told.2, id := ⟨0⟩ }

/-- An entry for a word is, without its identifier, what a glossary tells of the word. -/
theorem anonymous_ofWord (word : String) (level : Level) (id : Identifier) :
    (ofWord word level id).anonymous = bare (Word.surface word, level) :=
  rfl

end Entry

/-! ## The files have no key twice -/

namespace BackingFile

/-- A file without the entries with a key has none of them and all others. -/
theorem count_without (file : BackingFile) (key other : String) :
    (file.without key).count other = if other = key then 0 else file.count other := by
  rw [count, count, without, List.filter_filter]
  split
  · next same =>
    rw [List.length_eq_zero_iff, List.filter_eq_nil_iff]
    simp [same]
  · next different =>
    refine congrArg List.length (List.filter_congr fun entry _ => ?_)
    by_cases here : entry.key = other
    · simp [here, different]
    · simp [here]

end BackingFile

namespace Lexicon

/-- An entry at the end of some file is counted under its key. -/
theorem countAll_set_append {files : List BackingFile} {position : Nat} {file : BackingFile}
    (here : files[position]? = some file) (entry : Entry) (key : String) :
    countAll key (files.set position (file.append entry))
      = countAll key files + if entry.key = key then 1 else 0 := by
  obtain ⟨before, after, split, replaced⟩ := exists_split here
  rw [replaced, split, countAll_eq_countP, countAll_eq_countP]
  simp only [allEntries_append, allEntries_cons, BackingFile.append, List.countP_append,
    List.countP_cons, List.countP_nil, decide_eq_true_eq]
  omega

/-- Entries that are taken out of every file are not counted any more, and all others are. -/
theorem countAll_map_without (files : List BackingFile) (key other : String) :
    countAll other (files.map (BackingFile.without · key))
      = if other = key then 0 else countAll other files := by
  induction files with
  | nil => simp [countAll]
  | cons file rest ih =>
    rw [List.map_cons, countAll, countAll, ih, BackingFile.count_without]
    split <;> rfl

/-! ## Simulation -/

/-- A lexicon mirrors a glossary. -/
structure Mirrors (lexicon : Lexicon) (glossary : Glossary) : Prop where
  /-- It has the same entries under the same keys. -/
  get?_eq : ∀ key,
    (lexicon.index.get? key).map Entry.anonymous = (glossary.get? key).map Entry.bare
  /-- Its files have no key twice, and none that the glossary does not have. -/
  once : ∀ key, countAll key lexicon.files ≤ if (glossary.get? key).isSome then 1 else 0

namespace Mirrors

variable {lexicon : Lexicon} {glossary : Glossary} (mirrors : Mirrors lexicon glossary)

include mirrors

/-- It has the same keys. -/
theorem isSome_eq (key : String) :
    (lexicon.index.get? key).isSome = (glossary.get? key).isSome := by
  have same := congrArg Option.isSome (mirrors.get?_eq key)
  rwa [Option.isSome_map, Option.isSome_map] at same

/-- The whole map is the same. -/
theorem map_eq : lexicon.index.map Entry.anonymous = glossary.map Entry.bare := by
  refine KeyMap.ext_get? fun key => ?_
  rw [KeyMap.get?_map, KeyMap.get?_map]
  exact mirrors.get?_eq key

/-- The entries are the same, in the same order. -/
theorem entries_eq : lexicon.entries.map Entry.anonymous = glossary.values.map Entry.bare := by
  rw [Lexicon.entries, ← KeyMap.values_map, ← KeyMap.values_map, mirrors.map_eq]

/-- There are as many. -/
theorem size_eq : lexicon.size = glossary.size := by
  rw [Lexicon.size, ← KeyMap.size_map Entry.anonymous, mirrors.map_eq, KeyMap.size_map]

/-- So are those of some levels. -/
theorem entriesAt_eq (levels : List Level) :
    (lexicon.entriesAt levels).map Entry.anonymous
      = (glossary.values.filter fun told => levels.contains told.2).map Entry.bare := by
  have anonymous : (lexicon.entriesAt levels).map Entry.anonymous
      = (lexicon.entries.map Entry.anonymous).filter fun entry => levels.contains entry.level := by
    rw [List.filter_map]
    rfl
  rw [anonymous, mirrors.entries_eq, List.filter_map]
  rfl

/-- A lexicon with a new entry mirrors the glossary with the word, as long as its files have at most
this entry more. -/
theorem insert {word : String} {level : Level} (id : Identifier) {files : List BackingFile}
    {primary : Option Nat} (absent : lexicon.index.get? (Word.key word) = none)
    (more : ∀ key, countAll key files
      ≤ countAll key lexicon.files + if Word.key word = key then 1 else 0) :
    Mirrors ⟨lexicon.index.insert (Word.key word) (Entry.ofWord word level id), files, primary⟩
      (glossary.insert (Word.key word) (Word.surface word, level)) := by
  constructor
  · intro key
    rw [KeyMap.get?_insert, KeyMap.get?_insert]
    split
    · rfl
    · exact mirrors.get?_eq key
  · intro key
    have before := mirrors.once key
    have now := more key
    show countAll key files ≤ _
    rw [KeyMap.get?_insert]
    by_cases same : key = Word.key word
    · subst same
      rw [← mirrors.isSome_eq, absent, Option.isSome_none, if_neg Bool.false_ne_true] at before
      rw [if_pos rfl] at now
      rw [if_pos rfl, Option.isSome_some, if_pos rfl]
      omega
    · rw [if_neg (Ne.symm same)] at now
      rw [if_neg same]
      exact Nat.le_trans now before

/-- A lexicon without the entries with a key mirrors the glossary without the key. -/
theorem erase (key : String) {primary : Option Nat} :
    Mirrors ⟨lexicon.index.erase key, lexicon.files.map (BackingFile.without · key), primary⟩
      (glossary.erase key) := by
  constructor
  · intro other
    rw [KeyMap.get?_erase, KeyMap.get?_erase]
    split
    · rfl
    · exact mirrors.get?_eq other
  · intro other
    rw [countAll_map_without, KeyMap.get?_erase]
    split
    · exact Nat.zero_le _
    · exact mirrors.once other

/-! ## One request -/

/-- A definition that does not fail replies like the glossary, and goes on to mirror it. -/
theorem defined {world : World} {word : String} {level : Level} {change : Change Bool}
    (outcome : Defined lexicon world word level change)
    (fine : change.result.isOk = true) :
    (Reply.ofResult .added change.result).map Entry.anonymous
        = (glossary.ask (.define word level)).1.map Entry.bare ∧
      Mirrors change.lexicon (glossary.ask (.define word level)).2 := by
  have known := mirrors.isSome_eq (Word.key word)
  cases outcome with
  | failed => cases fine
  | known reason =>
    rw [known] at reason
    rw [Glossary.ask, if_pos reason]
    exact ⟨rfl, mirrors⟩
  | inMemory filled absent =>
    rw [absent] at known
    rw [Glossary.ask, if_neg (by rw [← known]; simp [filled])]
    exact ⟨rfl, mirrors.insert _ absent fun key => Nat.le_add_right _ _⟩
  | saved filled absent primary =>
    rw [absent] at known
    rw [Glossary.ask, if_neg (by rw [← known]; simp [filled])]
    refine ⟨rfl, mirrors.insert _ absent fun key => ?_⟩
    rw [countAll_set_append (getElem?_of_primaryFile? primary).2, Entry.key_ofWord]

/-- A removal that does not fail replies like the glossary, and goes on to mirror it. -/
theorem removed {world : World} {word : String} {change : Change Nat}
    (outcome : Removed lexicon world word change)
    (fine : change.result.isOk = true) :
    (Reply.ofResult .removed change.result).map Entry.anonymous
        = (glossary.ask (.remove word)).1.map Entry.bare ∧
      Mirrors change.lexicon (glossary.ask (.remove word)).2 := by
  have known := mirrors.isSome_eq (Word.key word)
  cases outcome with
  | failed => cases fine
  | unknown absent =>
    rw [absent] at known
    rw [Glossary.ask, if_neg (by rw [← known]; simp)]
    exact ⟨rfl, mirrors⟩
  | done present =>
    rw [present] at known
    -- At most one entry has the key, and one is said if there is none.
    have one : max (countAll (Word.key word) lexicon.files) 1 = 1 := by
      have once := mirrors.once (Word.key word)
      rw [← known] at once
      exact Nat.max_eq_right once
    rw [Glossary.ask, if_pos (by rw [← known]; rfl), one]
    exact ⟨rfl, mirrors.erase (Word.key word)⟩

/-- **Every reply that is no failure is that of the glossary**, and the lexicon mirrors the glossary
afterwards. -/
theorem ask {world : World} {request : Request}
    (fine : ((Store.mk lexicon world).ask request).1.isFailure = false) :
    ((Store.mk lexicon world).ask request).1.map Entry.anonymous
        = (glossary.ask request).1.map Entry.bare ∧
      Mirrors ((Store.mk lexicon world).ask request).2.lexicon (glossary.ask request).2 := by
  cases request with
  | define word level =>
    obtain ⟨change, outcome, -, reply⟩ := (Store.mk lexicon world).exists_defined word level
    rw [reply] at fine ⊢
    exact mirrors.defined outcome (Reply.isOk_of_ofResult fine)
  | remove word =>
    obtain ⟨change, outcome, -, reply⟩ := (Store.mk lexicon world).exists_removed word
    rw [reply] at fine ⊢
    exact mirrors.removed outcome (Reply.isOk_of_ofResult fine)
  | get word => exact ⟨congrArg Reply.found (mirrors.get?_eq (Word.key word)), mirrors⟩
  | contains word => exact ⟨congrArg Reply.known (mirrors.isSome_eq (Word.key word)), mirrors⟩
  | size => exact ⟨congrArg Reply.counted mirrors.size_eq, mirrors⟩
  | entries => exact ⟨congrArg Reply.listed mirrors.entries_eq, mirrors⟩
  | entriesAt levels => exact ⟨congrArg Reply.listed (mirrors.entriesAt_eq levels), mirrors⟩

end Mirrors

/-- **All replies are those of the glossary**, as long as none of them is a failure. -/
theorem Mirrors.replies {lexicon : Lexicon} {glossary : Glossary}
    (mirrors : Mirrors lexicon glossary) {requests : List (World × Request)}
    (fine : ∀ reply ∈ lexicon.replies requests, reply.isFailure = false) :
    (lexicon.replies requests).map (Reply.map Entry.anonymous)
      = (glossary.replies (requests.map Prod.snd)).map (Reply.map Entry.bare) := by
  induction requests generalizing lexicon glossary with
  | nil => rfl
  | cons step rest ih =>
    obtain ⟨world, request⟩ := step
    obtain ⟨reply, still⟩ := mirrors.ask (fine _ List.mem_cons_self)
    have later := ih still fun other member => fine other (List.mem_cons_of_mem _ member)
    rw [Lexicon.replies, List.map_cons, List.map_cons, Glossary.replies, List.map_cons]
    exact congrArg₂ List.cons reply later

end Lexicon

end Orthography
