import Orthography.Proofs.Text.Token
import Orthography.Session

/-!
# Sessions with no analyzers but their own

A session that was just opened holds the spelling analyzers and no others
(`Session.onlySpelling_ofLexicon`), and changes of its lexicon leave it so.  In such a session the
actions for a document are known (`Session.OnlySpelling.actions_eq`), and so are its diagnostics: one
warning for each flagged token, in the order of the lines and of the tokens
(`Session.OnlySpelling.diagnostics_eq`).
-/

namespace Orthography

set_option autoImplicit false

namespace Registry

variable {Context : Type}

/-- An analyzer of the right shape can be registered under a name when its kind has none yet. -/
theorem register_first (registry : Registry Context) {kind : AnalyzerKind}
    {analyzer : Analyzer Context} {name : String} (description : Option String)
    (free : registry.slot kind = []) (shape : analyzer.shape = kind.shape)
    (named : (Word.trimmed name).isEmpty = false) :
    registry.register kind analyzer name description
      = .ok (⟨kind, registry.nextId⟩,
          { registry.setSlot kind [⟨registry.nextId, name, description, analyzer⟩] with
            nextId := registry.nextId + 1 }) := by
  have accepted : registry.refusal? kind analyzer name = none := by
    rw [refusal?, if_neg (Bool.eq_false_iff.mp named), if_neg (fun other => other shape), free]
    rfl
  rw [register, accepted, free]
  rfl

end Registry

namespace Spelling

/-- The built-in analyzer of each kind. -/
def builtIn : AnalyzerKind → Analyzer Workspace
  | .action => actionAnalyzer
  | .completion => completionAnalyzer
  | .diagnostic => diagnosticAnalyzer

/-- The name of the spelling analyzers is a name. -/
theorem source_named : (Word.trimmed source).isEmpty = false := by
  decide +kernel

variable (workspace : Workspace)

/-- The warning about a token, in its place on a line. -/
def report (index : Nat) (token : Token) : Placed :=
  ⟨warning index token, Range.onLine index token.start token.stop⟩

/-- The warnings about lines in their places, the first line having the given number. -/
def reportsFrom (index : Nat) : List String → List Placed
  | [] => []
  | line :: rest =>
    (flagged workspace line).map (report index) ++ reportsFrom (index + 1) rest

/-- There is one warning for each flagged token. -/
theorem length_reportsFrom (index : Nat) (lines : List String) :
    (reportsFrom workspace index lines).length = (lines.flatMap (flagged workspace)).length := by
  induction lines generalizing index with
  | nil => rfl
  | cons line rest ih =>
    rw [reportsFrom, List.flatMap_cons, List.length_append, List.length_append, List.length_map,
      ih]

/-- The flagged tokens of a line are those that have to be corrected, if the line has no scripture
reference. -/
theorem mem_flagged {line : String} {token : Token} :
    token ∈ flagged workspace line ↔
      Word.isScriptureReference line = false ∧ token ∈ Token.ofLine line ∧
        workspace.checker.needsCorrection token.text = true := by
  unfold flagged
  cases Word.isScriptureReference line with
  | true => simp
  | false => simp [List.mem_filter]

/-- The flagged tokens of a line stand in it one after the other. -/
theorem laid_flagged (line : String) : Token.Laid line.toList 0 (flagged workspace line) := by
  unfold flagged
  split
  · exact Token.Laid.none line.toList 0
  · exact (Token.laid_ofLine line).filter _

/-- A warning is placed at its token as long as the number of the line has 32 bits. -/
theorem place_warning (document : Document) {index : Nat} (numbered : index < Nat.pow 2 32)
    {token : Token} (ordered : token.start ≤ token.stop) :
    (warning index token).place document = report index token := by
  have line : index % Nat.pow 2 32 = index := Nat.mod_eq_of_lt numbered
  have first : min token.start token.stop = token.start := Nat.min_eq_left ordered
  have last : max token.start token.stop = token.stop := Nat.max_eq_right ordered
  unfold report warning Suggestion.place Suggestion.range Span.between
  simp only [line, first, last]

/-- The diagnostics of lines are placed at the flagged tokens. -/
theorem place_diagnoseFrom (document : Document) (index : Nat) (lines : List String)
    (numbered : index + lines.length ≤ Nat.pow 2 32) :
    (diagnoseFrom workspace index lines).map (·.place document)
      = reportsFrom workspace index lines := by
  induction lines generalizing index with
  | nil => rfl
  | cons line rest ih =>
    rw [List.length_cons] at numbered
    rw [diagnoseFrom, reportsFrom, List.map_append, ih (index + 1) (by omega), List.map_map]
    congr 1
    refine List.map_congr_left fun token flag => ?_
    exact place_warning document (by omega) ((laid_flagged workspace line).start_le_stop flag)

end Spelling

namespace Session

/-- A session that holds the built-in spelling analyzers and no others. -/
def OnlySpelling (session : Session) : Prop :=
  ∀ kind, (session.registry.slot kind).map Registered.analyzer = [Spelling.builtIn kind]

/-- The registry of a new session has one analyzer of each kind, the built-in one. -/
theorem slot_initialRegistry (configuration : Configuration) (kind : AnalyzerKind) :
    ((initialRegistry configuration).slot kind).map Registered.analyzer
      = [Spelling.builtIn kind] := by
  unfold initialRegistry Spelling.register
  rw [Registry.register_first _ _ rfl rfl Spelling.source_named]
  dsimp only
  rw [Registry.register_first _ _ rfl rfl Spelling.source_named]
  dsimp only
  rw [Registry.register_first _ _ rfl rfl Spelling.source_named]
  cases kind with
  | action => rfl
  | completion => rfl
  | diagnostic => rfl

/-- A new session holds the spelling analyzers and no others. -/
theorem onlySpelling_ofLexicon {configuration : Configuration} {lexicon : Lexicon}
    {session : Session} (opened : ofLexicon configuration lexicon = .ok session) :
    session.OnlySpelling := by
  unfold ofLexicon at opened
  cases read : Settings.ofConfiguration configuration with
  | error failure =>
    rw [read] at opened
    cases opened
  | ok settings =>
    rw [read] at opened
    cases opened
    exact slot_initialRegistry configuration

variable {session : Session}

/-- Another lexicon changes nothing about the analyzers. -/
theorem OnlySpelling.withLexicon (only : session.OnlySpelling) (lexicon : Lexicon) :
    (session.withLexicon lexicon).OnlySpelling :=
  only

/-- The one analyzer of a kind is the built-in one. -/
theorem OnlySpelling.exists_registered (only : session.OnlySpelling) (kind : AnalyzerKind) :
    ∃ registered, session.registry.slot kind = [registered]
      ∧ registered.analyzer = Spelling.builtIn kind :=
  List.map_eq_singleton_iff.mp (only kind)

/-- The actions for lines of a document are what the spelling analyzer has to say about each of
them. -/
theorem OnlySpelling.actions_eq (only : session.OnlySpelling) (document : Document)
    (first last : Nat) :
    session.actions document first last
      = (Registry.numbers first (min last (document.lines.length - 1))).flatMap fun index =>
          match document.line? index with
          | some line =>
            (Spelling.fixLine session.workspace line).map fun suggestion =>
              { suggestion with line := some index }.place document
          | none => [] := by
  obtain ⟨registered, alone, builtIn⟩ := only.exists_registered .action
  have answer (line : String) : Registry.Registered.onLine registered session.workspace line
      = Spelling.fixLine session.workspace line := by
    rw [Registry.Registered.onLine, builtIn]
    rfl
  have onLine (index : Nat) (line : String) :
      session.registry.actionsOnLine session.workspace document index line
        = (Spelling.fixLine session.workspace line).map fun suggestion =>
            { suggestion with line := some index }.place document := by
    rw [Registry.actionsOnLine, show session.registry.actions = [registered] from alone,
      List.flatMap_singleton, answer]
  rw [actions, Registry.runActions]
  congr 1
  funext index
  cases document.line? index with
  | none => rfl
  | some line => exact onLine index line

/-- The diagnostics of a document are what the spelling analyzer has to say about its lines. -/
theorem OnlySpelling.diagnostics_eq_diagnose (only : session.OnlySpelling)
    (document : Document) :
    (session.diagnostics document).1
      = (Spelling.diagnose session.workspace document.lines).map (·.place document) := by
  obtain ⟨registered, alone, builtIn⟩ := only.exists_registered .diagnostic
  have answer : Registry.Registered.diagnose registered session.workspace ⟨document.lines, none⟩
      = Spelling.diagnose session.workspace document.lines := by
    rw [Registry.Registered.diagnose, builtIn]
    rfl
  show session.registry.diagnosticsOf session.workspace document = _
  rw [Registry.diagnosticsOf, show session.registry.diagnostics = [registered] from alone,
    List.flatMap_singleton, answer]
  cases lines : document.lines with
  | nil => rfl
  | cons line rest => rfl

/-- **The diagnostics of a document are one warning for each flagged token.**  A line number has 32
bits in an editor, so the document has no more lines than that. -/
theorem OnlySpelling.diagnostics_eq (only : session.OnlySpelling) {document : Document}
    (numbered : document.lines.length ≤ Nat.pow 2 32) :
    (session.diagnostics document).1 = Spelling.reportsFrom session.workspace 0 document.lines := by
  rw [only.diagnostics_eq_diagnose, Spelling.diagnose]
  exact Spelling.place_diagnoseFrom session.workspace document 0 document.lines (by omega)

end Session

end Orthography
