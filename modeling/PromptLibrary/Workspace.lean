import PromptLibrary.Config
import PromptLibrary.Library.Answer
import PromptLibrary.Library.File
import PromptLibrary.Run

/-!
# Workspaces

A workspace holds what is loaded: the settings, the library and the catalog of models. Questions
about it are pure, or need files only to be answered. Changes are made in a session, which keeps the
workspace as a state below the errors, so that a failure leaves a workspace to be looked at.

An edit of the library is committed as a whole: it is made on a copy, the copy is saved, and only
then does the copy take the place of the loaded library.
-/

namespace PromptLibrary

/-- What is loaded. -/
structure Workspace where
  /-- The settings. -/
  config : Config
  /-- The library. -/
  library : Library := {}
  /-- The models that are known. -/
  catalog : ModelCatalog := {}
  /-- The loaders for file placeholders. -/
  loaders : LoaderRegistry := .standard

/-- Operations that change a workspace. -/
abbrev Session (m : Type → Type) : Type → Type :=
  ExceptT Error (StateT Workspace m)

namespace Workspace

/-! ## Questions -/

/-- The placeholders of a template. -/
def scan (w : Workspace) (name : String) : Except Error Placeholder.Names := do
  return Placeholder.scan (← w.library.require name).promptText

/-- The fields of a template's answer. -/
def outputFields (w : Workspace) (name : String) : Except Error (List Schema.Field) :=
  w.library.outputFields name

/-- The fields that an answer gives, checked against the template's schema. -/
def checkResponse (w : Workspace) (name : String) (answer : String) (nulls : Bool) :
    Except Error (List (String × Json)) :=
  w.library.checkResponse name answer nulls

/-- The request for a run; the configured model is taken if none is named. -/
def request (w : Workspace) (mode : ResponseMode) (model : Option String) : RunRequest :=
  ⟨mode, model.getD w.config.defaultModel, w.config.systemPrompt⟩

variable {m : Type → Type} [Monad m] [FileStore m]

/-- Prepares a run of a template. -/
def prepareRun (w : Workspace) (mode : ResponseMode) (model : Option String)
    (provider : Placeholder.Provider m) (name : String) : ExceptT Error m RunOutcome :=
  PromptLibrary.prepareRun w.loaders w.library w.catalog (w.request mode model) provider name

/-! ## Opening -/

/-- Loads the library. A library file that is missing stands for an empty library. -/
def loadLibrary (config : Config) : ExceptT Error m Library := do
  if ← (FileStore.has config.libraryFile : m Bool) then Library.load config.libraryFile
  else return {}

/-- Loads the catalog. A list of models that cannot be read stands for an empty catalog. -/
def loadCatalog (config : Config) : m ModelCatalog :=
  match config.modelsFile with
  | none => return {}
  | some path => do
    let (_, catalog) ←
      ((ModelCatalog.refresh path).run.run {} : m (Except Error Nat × ModelCatalog))
    return catalog

/-- Opens the workspace of some settings. -/
def ofConfig (config : Config) : ExceptT Error m Workspace := do
  let library ← loadLibrary config
  let catalog ← (loadCatalog config : m ModelCatalog)
  return { config, library, catalog }

/-- The header of the library file of a new workspace. -/
def newHeader : Header :=
  ⟨"pmgr", "1", "prompt_library"⟩

/-- What was missing and has been created. -/
structure InitReport where
  /-- The configuration file was created. -/
  configCreated : Bool
  /-- The library file was created. -/
  libraryCreated : Bool
  deriving DecidableEq

/-- Creates the configuration file and the library file where they are missing. The loaded library
does not change. -/
def init (w : Workspace) : ExceptT Error m InitReport := do
  let configCreated ← Config.writeDefault w.config.root
  if ← (FileStore.has w.config.libraryFile : m Bool) then
    return ⟨configCreated, false⟩
  else
    withFileErrors (FileStore.write w.config.libraryFile (Library.toText { header := newHeader }))
    return ⟨configCreated, true⟩

/-- Saves the library after backing up the previous file. -/
def save (w : Workspace) : ExceptT Error m Unit :=
  w.library.save w.config.libraryFile w.config.maxBackups

/-- Backs up the library file; tells whether there was one. -/
def backup (w : Workspace) : ExceptT Error m Bool :=
  (Rotator.mk w.config.libraryFile w.config.maxBackups).backup

end Workspace

/-! ## Changes -/

namespace Session

variable {m : Type → Type} [Monad m] [FileStore m]

/-- Commits an edit of the library: nothing is loaded that has not been saved. -/
def commit (edit : Library.Change Unit) : Session m Unit := do
  let w ← get
  let staged ← ExceptT.mk (pure (edit.after w.library))
  staged.save w.config.libraryFile w.config.maxBackups
  set { w with library := staged }

/-- Adds a template. -/
def addTemplate (name : String) (t : Template) : Session m Unit :=
  commit (.insert name t)

/-- Stores the schema for a list of fields. The configured title is taken if none is given. -/
def applyOutputSchema (name : String) (fields : List Schema.Field) (title : Option String) :
    Session m Unit := do
  let w ← get
  commit (.applyOutputSchema name fields (title.getD w.config.schemaTitle))

/-- Stores a response format that somebody has written. -/
def setResponseFormat (name text : String) : Session m Unit :=
  commit (.setResponseFormat name text)

/-- Fills the catalog of models anew; tells how many there are. -/
def refreshCatalog (path : Path) : Session m Nat := do
  let w ← get
  let (count, catalog) ←
    ((ModelCatalog.refresh path).run.run w.catalog :
      StateT Workspace m (Except Error Nat × ModelCatalog))
  set { w with catalog }
  ExceptT.mk (pure count)

/-- Carries a session out on a workspace. After a failure the workspace is given up. -/
def carryOut {α : Type} (x : Session m α) (w : Workspace) : ExceptT Error m (α × Workspace) :=
  ExceptT.mk do
    let (result, w) ← (x.run.run w : m (Except Error α × Workspace))
    return result.map (·, w)

end Session

end PromptLibrary
