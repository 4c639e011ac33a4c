import Orthography.Analyzer.Spelling
import Orthography.Lexicon.Archive

/-!
# Sessions

A session has a configuration, a lexicon and a registry of analyzers.  Analyzers see all but the
registry; only the session changes its lexicon.
-/

namespace Orthography

set_option autoImplicit false

/-- An open project. -/
structure Session where
  workspace : Workspace
  registry : Registry Workspace

namespace Session

/-- What comes of a change of the lexicon: its result, and the session and the world after it. -/
structure Change (α : Type) where
  result : Except Failure α
  session : Session
  world : World

/-- The lexicon of a session. -/
def lexicon (session : Session) : Lexicon :=
  session.workspace.lexicon

/-- The configuration of a session. -/
def configuration (session : Session) : Configuration :=
  session.workspace.configuration

/-- The checker of a session. -/
def checker (session : Session) : Checker :=
  session.workspace.checker

/-- The session with another lexicon. -/
def withLexicon (session : Session) (lexicon : Lexicon) : Session :=
  { session with workspace := { session.workspace with lexicon := lexicon } }

/-- The registry of a new session: the spelling analyzers. -/
def initialRegistry (configuration : Configuration) : Registry Workspace :=
  (Spelling.register { firstCompletionsOnly := configuration.firstCompletionsOnly }).2

/-- A session with a configuration and a lexicon. -/
def ofLexicon (configuration : Configuration) (lexicon : Lexicon) : Except Failure Session :=
  (Settings.ofConfiguration configuration).map fun settings =>
    ⟨⟨configuration, settings, lexicon⟩, initialRegistry configuration⟩

/-- The directory of the lexicon of a project. -/
def dataDirectory (project : String) (configuration : Configuration) : String :=
  Path.join project configuration.dataDirectory

/-- Opens a project.  A configuration that makes no sense is refused; a lexicon that cannot be
loaded is replaced by an empty one in memory. -/
def openProject (world : World) (project : String) (configuration : Configuration) :
    Except Failure Session × World :=
  let (lexicon, world) :=
    Lexicon.loadOrEmpty world (dataDirectory project configuration) configuration.language
  (ofLexicon configuration lexicon, world)

/-- The actions for lines of a document. -/
def actions (session : Session) (document : Document) (first last : Nat) : List Placed :=
  session.registry.runActions session.workspace document first last

/-- The completions at a cursor. -/
def completions (session : Session) (document : Document) (cursor : Position) : List Placed :=
  session.registry.runCompletions session.workspace document cursor

/-- The diagnostics of a document, and what is announced. -/
def diagnostics (session : Session) (document : Document) : List Placed × List Announcement :=
  session.registry.runDiagnostics session.workspace document

/-- Adds a word to the lexicon. -/
def define (session : Session) (world : World) (word : String) (level : Level) : Change Bool :=
  let change := session.lexicon.define world word level
  ⟨change.result, session.withLexicon change.lexicon, change.world⟩

/-- Takes a word out of the lexicon. -/
def remove (session : Session) (world : World) (word : String) : Change Nat :=
  let change := session.lexicon.remove world word
  ⟨change.result, session.withLexicon change.lexicon, change.world⟩

/-- Adds words one after the other, up to the first failure: says how many were new. -/
def addWordsAt (session : Session) (world : World) (level : Level) : List String → Change Nat
  | [] => ⟨.ok 0, session, world⟩
  | word :: rest =>
    let change := session.define world word level
    match change.result with
    | .error failure => ⟨.error failure, change.session, change.world⟩
    | .ok isNew =>
      let after := addWordsAt change.session change.world level rest
      { after with result := after.result.map fun count => count + if isNew then 1 else 0 }

/-- Adds words at a level, or at the level of the configuration: says how many were new. -/
def addWords (session : Session) (world : World) (words : List String) (level : Option Level) :
    Change Nat :=
  session.addWordsAt world (level.getD session.configuration.addedWordLevel) words

/-- Does what a command says: says how many words were new. -/
def apply (session : Session) (world : World) : Command → Change Nat
  | .addWords words level => session.addWords world words (some level)

end Session

end Orthography
