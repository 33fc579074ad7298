import PromptLibrary.Error
import PromptLibrary.Schema.Format
import PromptLibrary.Template
import PromptLibrary.Text.Blank
import PromptLibrary.Toml.Reader

/-!
# Configuration

The settings of a workspace. They are kept in a file below the root directory; every setting has a
default, and without the file all of them are at their defaults. Relative paths in the file are
relative to the root.
-/

namespace PromptLibrary

/-- The settings of a workspace. -/
structure Config where
  /-- The root directory. -/
  root : Path
  /-- The configuration file. -/
  configFile : Path
  /-- The library file. -/
  libraryFile : Path
  /-- The file that lists the models, if any. -/
  modelsFile : Option Path := none
  /-- The model of a run that names none. -/
  defaultModel : String := "llama-3.1-405b"
  /-- The number of backup generations. -/
  maxBackups : Nat := 3
  /-- The system prompt of a run whose template has none of its own. -/
  systemPrompt : String := defaultSystemPrompt
  /-- The title of schemas. -/
  schemaTitle : String := Schema.defaultTitle

namespace Config

/-- The name of the library file below the root. -/
def defaultLibraryFile : String := "prompts.json"

/-- The configuration file below a root. -/
def pathBelow (root : Path) : Path :=
  (root.join ".pmgr").join "config.toml"

/-- The defaults for a root. -/
def new (root : Path) : Config :=
  { root := root, configFile := pathBelow root, libraryFile := root.join defaultLibraryFile }

/-! ## Settings in a file -/

/-- A setting that is a text, if it is given. -/
def textSetting (es : Entries String Toml.Item) (key : String) : Option (Option String) :=
  match Entries.get? es key with
  | none => some none
  | some item => item.string?.map some

/-- A setting that is a count, if it is given. -/
def countSetting (es : Entries String Toml.Item) (key : String) : Option (Option Nat) :=
  match Entries.get? es key with
  | none => some none
  | some item => item.integer?.bind fun n ↦ if n < 0 then none else some (some n.toNat)

/-- The settings with those of a file in place of the defaults; keys that are no settings do not
matter. -/
def withSettings (c : Config) (es : Entries String Toml.Item) : Option Config := do
  let libraryFile ← textSetting es "library_file"
  let modelsFile ← textSetting es "models_file"
  let defaultModel ← textSetting es "default_model"
  let maxBackups ← countSetting es "max_backups"
  let systemPrompt ← textSetting es "default_system_prompt"
  let schemaTitle ← textSetting es "schema_title"
  return { c with
    libraryFile := (libraryFile.map c.root.join).getD c.libraryFile
    modelsFile := (modelsFile.map c.root.join).or c.modelsFile
    defaultModel := defaultModel.getD c.defaultModel
    maxBackups := maxBackups.getD c.maxBackups
    systemPrompt := systemPrompt.getD c.systemPrompt
    schemaTitle := schemaTitle.getD c.schemaTitle }

/-- Checks the ranges of the settings. -/
def validate (c : Config) : Except ConfigFault Unit :=
  if c.maxBackups < 1 then .error .noBackups
  else if Text.isBlankText c.defaultModel then .error .noModel
  else if Text.isBlankText c.schemaTitle then .error .noTitle
  else .ok ()

/-- The settings of a configuration file's text. -/
def ofText (root : Path) (text : String) : Except Error Config :=
  let c := new root
  match (Toml.parse? text).bind c.withSettings with
  | none => .error (.configParse c.configFile)
  | some c => (c.validate.mapError Error.invalidConfig).map fun _ ↦ c

/-- The text of a configuration file with every default spelled out. -/
def defaultText : String :=
  "# pmgr configuration\n" ++
  "library_file = \"prompts.json\"\n" ++
  "default_model = \"llama-3.1-405b\"\n" ++
  "max_backups = 3\n" ++
  "default_system_prompt = \"You are a helpful AI assistant.\"\n" ++
  "schema_title = \"PromptOutputSchema\"\n"

/-! ## Files -/

variable {m : Type → Type} [Monad m] [FileStore m]

/-- Loads the settings for a root. -/
def load (root : Path) : ExceptT Error m Config := do
  let c := new root
  if ← (FileStore.has c.configFile : m Bool) then
    let text ← withFileErrors (FileStore.read c.configFile)
    ExceptT.mk (pure (ofText root text))
  else
    return c

/-- Writes the default settings for a root, unless there is a file; tells whether it was written. -/
def writeDefault (root : Path) : ExceptT Error m Bool := do
  let path := pathBelow root
  if ← (FileStore.has path : m Bool) then
    return false
  else
    if let some directory := path.parent then
      withFileErrors (FileStore.makeDirs directory)
    withFileErrors (FileStore.write path defaultText)
    return true

end Config

end PromptLibrary
