import PromptLibrary.Store.Basic
import PromptLibrary.Text.Quoted

/-!
# Errors

The causes for which an operation of the library fails, and their wording.
-/

namespace PromptLibrary

/-! ## Parts of causes -/

/-- A word that is not one of the names it should be one of. -/
structure InvalidName where
  /-- What the word should name. -/
  noun : String
  /-- The word. -/
  word : String
  deriving DecidableEq

/-- The wording for a word that is not a name. -/
def InvalidName.message (e : InvalidName) : String :=
  "invalid " ++ e.noun ++ ": " ++ e.word

/-- What is wrong with a response format or with an answer to it. -/
inductive SchemaFault where
  /-- A response format is not a JSON document. -/
  | invalidFormat
  /-- A response format is not an object. -/
  | formatNotObject
  /-- An answer is not a JSON document. -/
  | invalidAnswer
  /-- An answer is not an object. -/
  | answerNotObject
  /-- An answer lacks a field that is required. -/
  | missingField (name : String)
  deriving DecidableEq

/-- The wording of a fault of a response format or an answer. -/
def SchemaFault.message : SchemaFault → String
  | .invalidFormat => "invalid JSON"
  | .formatNotObject => "response format must be a JSON object"
  | .invalidAnswer => "response is not valid JSON"
  | .answerNotObject => "response is not a JSON object"
  | .missingField name => "missing required field: " ++ name

/-- A setting that is out of range. -/
inductive ConfigFault where
  /-- There is to be no backup at all. -/
  | noBackups
  /-- The default model is blank. -/
  | noModel
  /-- The title of schemas is blank. -/
  | noTitle
  deriving DecidableEq

/-- The wording for a setting that is out of range. -/
def ConfigFault.message : ConfigFault → String
  | .noBackups => "max_backups must be at least 1"
  | .noModel => "default_model must not be empty"
  | .noTitle => "schema_title must not be empty"

/-- A step of a backup. -/
inductive BackupStep where
  /-- An older generation is moved on. -/
  | rotate (older : Path)
  /-- The guarded file is copied. -/
  | copyTo (first : Path)

/-- The wording for a step of a backup. -/
def BackupStep.message : BackupStep → String
  | .rotate older => "rotate " ++ older.text
  | .copyTo first => "copy to " ++ first.text

/-! ## Causes -/

/-- Why an operation failed. -/
inductive Error where
  /-- There is no template of that name. -/
  | templateNotFound (name : String)
  /-- There is a template of that name. -/
  | templateExists (name : String)
  /-- A template cannot have that name. -/
  | invalidTemplateName (name : String)
  /-- The text is not a template library. -/
  | libraryParse (path : Path)
  /-- A step of a backup failed, and what was to follow the backup was not done. -/
  | backupFailed (path : Path) (step : BackupStep) (cause : FileError)
  /-- A system template cannot be run. -/
  | systemPromptNotRunnable (name : String)
  /-- The selected system prompt is not a system template. -/
  | invalidSystemPrompt (name : String)
  /-- A chat cannot have a response format. -/
  | chatWithResponseFormat
  /-- The model cannot honour a response format. -/
  | modelLacksResponseSchema (model : String)
  /-- The template has no response format. -/
  | noResponseFormat (name : String)
  /-- The list of models could not be read, or not be understood. -/
  | modelCatalog (path : Path) (cause : Option FileError)
  /-- An operation on a file failed. -/
  | file (cause : FileError)
  /-- A setting is out of range. -/
  | invalidConfig (fault : ConfigFault)
  /-- The text is not a configuration. -/
  | configParse (path : Path)
  /-- A response format or an answer is wrong. -/
  | schemaParse (fault : SchemaFault)
  /-- Values could not be asked for. -/
  | providerFailed (reason : String)

/-- The wording of an error. -/
def Error.message : Error → String
  | .templateNotFound name => "template not found: " ++ name
  | .templateExists name => "template already exists: " ++ name
  | .invalidTemplateName name => "invalid template name: " ++ Text.quoted name
  | .libraryParse path => "cannot parse template library " ++ path.text
  | .backupFailed path step cause =>
    "backup of " ++ path.text ++ " failed: " ++ step.message ++ ": " ++ cause.message
  | .systemPromptNotRunnable name => "template " ++ name ++ " is a system prompt and cannot be run"
  | .invalidSystemPrompt name => "selected prompt " ++ name ++ " is not a valid system prompt"
  | .chatWithResponseFormat => "a response_format cannot be used with chat prompts"
  | .modelLacksResponseSchema model =>
    "model " ++ model ++ " does not support structured JSON responses"
  | .noResponseFormat name => "template " ++ name ++ " has no response format"
  | .modelCatalog path none => "model catalog error: " ++ path.text
  | .modelCatalog path (some cause) => "model catalog error: " ++ path.text ++ ": " ++ cause.message
  | .file cause => cause.message
  | .invalidConfig fault => "invalid config: " ++ fault.message
  | .configParse path => "config parse error: " ++ path.text
  | .schemaParse fault => "schema parse error: " ++ fault.message
  | .providerFailed reason => "value provider failed: " ++ reason

/-! ## Errors of files in larger operations -/

/-- An operation on a file as part of an operation of the library. -/
def withFileErrors {m : Type → Type} [Monad m] {α : Type} (x : ExceptT FileError m α) :
    ExceptT Error m α :=
  ExceptT.adapt Error.file x

end PromptLibrary
