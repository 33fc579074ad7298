import PromptLibrary.CommandLine.Command
import PromptLibrary.Form
import PromptLibrary.Schema.Edit
import PromptLibrary.Text.Split
import PromptLibrary.Workspace

/-!
# Carrying out commands

What a command does to the files and what it shows. Everything is shown at the end: a command that
fails shows nothing but its error, although it may have changed files before.
-/

namespace PromptLibrary.CommandLine

/-! ## Failures -/

/-- Why a command failed. -/
inductive CommandFault where
  /-- An operation of the library failed. -/
  | operation (cause : Error)
  /-- A file that was named on the command line cannot be read. -/
  | unreadable (cause : Fault)
  /-- A template does not declare the field that is to be changed. -/
  | noField (template field : String)
  /-- A type has no such name. -/
  | invalidName (cause : InvalidName)
  /-- An item type is given for something that is not an array. -/
  | itemTypeOfScalar (spelling : String)

/-- The wording for the fault of a command. -/
def CommandFault.message : CommandFault → String
  | .operation e => e.message
  | .unreadable f => f.message
  | .noField template field => template ++ " has no output placeholder @@ " ++ field ++ " @@"
  | .invalidName e => e.message
  | .itemTypeOfScalar spelling => "item type only applies to arrays: " ++ spelling

/-- A command that failed. -/
structure Failure where
  /-- What could not be done, if that is told. -/
  context : Option String
  /-- Why. -/
  fault : CommandFault

/-- The wording for a command that failed. -/
def Failure.message (f : Failure) : String :=
  f.context.elim "" (· ++ ": ") ++ f.fault.message

variable {m : Type → Type} [Monad m] [FileStore m] {α : Type}

/-- An operation whose failure is told as it is. -/
def plainly (x : ExceptT Error m α) : ExceptT Failure m α :=
  ExceptT.adapt (fun e ↦ ⟨none, .operation e⟩) x

/-- An operation whose failure is told together with what could not be done. -/
def within (context : String) (x : ExceptT Error m α) : ExceptT Failure m α :=
  ExceptT.adapt (fun e ↦ ⟨some context, .operation e⟩) x

/-- The answer to a question about a workspace. -/
def answered (x : Except Error α) : ExceptT Failure m α :=
  plainly (ExceptT.mk (pure x))

/-! ## Parts of commands -/

/-- Opens the workspace. -/
def openWorkspace (config : Config) : ExceptT Failure m Workspace :=
  within "Failed to open template library" (Workspace.ofConfig config)

/-- Reads a file that was named on the command line. -/
def readNamedFile (path : Path) : ExceptT Failure m String :=
  ExceptT.adapt (fun e ↦ ⟨some ("Failed to read " ++ path.text), .unreadable e.fault⟩)
    (FileStore.read path : ExceptT FileError m String)

/-- Reads the spelling of a type: the name of a type, and for arrays perhaps a colon and the name of
the type of the items. -/
def parseType (spelling : String) : Except CommandFault Schema.FieldChange := do
  let (base, item) := Text.splitFirst ':' spelling
  let type ← (Schema.FieldType.parse base).mapError CommandFault.invalidName
  match item with
  | none => return .retype type none
  | some item =>
    let itemType ← (Schema.ItemType.parse item).mapError CommandFault.invalidName
    if type ≠ .array then throw (.itemTypeOfScalar spelling)
    return .retype type (some itemType)

/-- The change to a field that a word asks for. -/
def EditWord.change : EditWord → Except CommandFault Schema.FieldChange
  | .require => .ok (.required true)
  | .optional => .ok (.required false)
  | .type spelling => parseType spelling
  | .describe text => .ok (.describe text)

/-- Makes the changes that are asked for, one after the other. -/
def applyEdits (template : String) (fields : List Schema.Field) (edits : List (String × EditWord)) :
    Except CommandFault (List Schema.Field) :=
  edits.foldlM (fun fields e ↦ do
    let c ← e.2.change
    match Schema.change? e.1 c fields with
    | some fields => .ok fields
    | none => .error (.noField template e.1)) fields

/-! ## Commands -/

/-- Creates what is missing. -/
def runInit (config : Config) : ExceptT Failure m (List String) := do
  let w ← openWorkspace config
  let report ← within "Failed to initialize" w.init
  let mark (created : Bool) : String := if created then "✔ Created " else "• Kept existing "
  return [mark report.configCreated ++ config.configFile.text,
    mark report.libraryCreated ++ config.libraryFile.text,
    "",
    "Next steps:",
    "  pmgr new <name> --text \"...\"    Add a template",
    "  pmgr run <name>                 Fill placeholders and prepare a run"]

/-- Lists the templates with role and subtype; a system template shows no subtype. -/
def runList (config : Config) : ExceptT Failure m (List String) := do
  let w ← openWorkspace config
  if w.library.templates.isEmpty then return ["No templates in " ++ config.libraryFile.text]
  return w.library.templates.map fun e ↦
    e.1 ++ "\t" ++ e.2.role.name ++ "\t" ++ if e.2.isSystem then "-" else e.2.subtype.name

/-- Adds a template. -/
def runNew (config : Config) (name : String) (t : Template) : ExceptT Failure m (List String) := do
  let w ← openWorkspace config
  let _ ← within ("Failed to create template " ++ Text.quoted name)
    ((Session.addTemplate name t).carryOut w)
  return ["✔ Created template " ++ Text.trim name]

/-- Shows the placeholders of a template. -/
def runScan (config : Config) (name : String) : ExceptT Failure m (List String) := do
  let w ← openWorkspace config
  let found ← answered (w.scan name)
  return ["text:   " ++ String.intercalate ", " found.text,
    "file:   " ++ String.intercalate ", " found.file,
    "output: " ++ String.intercalate ", " found.output]

/-- What is shown of a run. -/
def showOutcome : RunOutcome → List String
  | .cancelled _ _ => ["Run cancelled."]
  | .ready p =>
    ["model:  " ++ p.model, "mode:   " ++ p.mode.name, "system: " ++ p.systemPrompt] ++
      (if p.attributes.isEmpty then []
        else ["attributes:", Json.pretty 2 (.object p.attributes)]) ++
      ["", p.promptText]

/-- Prepares a run. If the given values are not all that the prompt needs, a form that is filled in
with them asks for the rest. -/
def runRun (keys : m (Option (List Key))) (config : Config) (name : String) (mode : ResponseMode)
    (model : Option String) (values : Placeholder.Values) : ExceptT Failure m (List String) := do
  let w ← openWorkspace config
  let t ← answered (w.library.require name)
  let needed := Placeholder.scan (Placeholder.stripOutput t.promptText)
  let provider :=
    if values.covers needed.text needed.file then Placeholder.Provider.always (.values values)
    else Form.provider keys values
  return showOutcome (← plainly (w.prepareRun mode model provider name))

/-- Stores the output schema of a template and shows it. -/
def runSchema (config : Config) (name : String) (edits : List (String × EditWord))
    (title : Option String) : ExceptT Failure m (List String) := do
  let w ← openWorkspace config
  let fields ← answered (w.outputFields name)
  let fields ← ExceptT.mk (pure ((applyEdits name fields edits).mapError (Failure.mk none)))
  let (_, w) ← within "Failed to store output schema"
    ((Session.applyOutputSchema name fields title).carryOut w)
  match (← answered (w.library.require name)).responseFormat with
  | some format => return [Json.pretty 2 format]
  | none => return [name ++ " has no output placeholders; response format removed."]

/-- Stores a response format from a file. -/
def runSetFormat (config : Config) (name : String) (file : Path) :
    ExceptT Failure m (List String) := do
  let text ← readNamedFile file
  let w ← openWorkspace config
  let _ ← within "Failed to set response format" ((Session.setResponseFormat name text).carryOut w)
  return ["✔ Updated response format of " ++ name]

/-- Checks the answer in a file and shows its fields. -/
def runCheck (config : Config) (name : String) (file : Path) (nulls : Bool) :
    ExceptT Failure m (List String) := do
  let text ← readNamedFile file
  let w ← openWorkspace config
  let fields ← within "Response does not match the output schema"
    (ExceptT.mk (pure (w.checkResponse name text nulls)))
  return fields.map fun e ↦ e.1 ++ ": " ++ e.2.compact

/-- Backs up the library file. -/
def runBackup (config : Config) : ExceptT Failure m (List String) := do
  let w ← openWorkspace config
  if ← within "Backup failed" w.backup then return ["✔ Backed up " ++ config.libraryFile.text]
  else return ["Nothing to back up: " ++ config.libraryFile.text ++ " does not exist"]

/-- Carries out a command and gives the lines to be shown. The keys are asked for only if a form has
to be shown. -/
def Command.execute (keys : m (Option (List Key))) (config : Config) :
    Command → ExceptT Failure m (List String)
  | .init => runInit config
  | .list => runList config
  | .new name role subtype text => runNew config name { Template.withText text with role, subtype }
  | .scan name => runScan config name
  | .run name mode model texts files =>
    runRun keys config name mode model (.ofPairs texts (files.map fun p ↦ (p.1, ⟨p.2⟩)))
  | .schema name edits title => runSchema config name edits title
  | .setFormat name file => runSetFormat config name file
  | .check name file nulls => runCheck config name file nulls
  | .backup => runBackup config

/-! ## The program -/

/-- How a use of the program ends. -/
structure Outcome where
  /-- The exit code. -/
  code : Nat
  /-- What is shown. -/
  output : String
  /-- The error that is reported. -/
  error : Option String

/-- Lines as a text. -/
def unlines (lines : List String) : String :=
  String.join (lines.map (· ++ "\n"))

/-- Uses the program with the words of a command line. -/
def invoke (workingDirectory : Path) (keys : m (Option (List Key))) (words : List String) :
    m Outcome := do
  match Invocation.parse words with
  | .error .misuse => return ⟨2, "", none⟩
  | .error (.version program) => return ⟨0, unlines [program ++ " " ++ programVersion], none⟩
  | .ok i =>
    let work : ExceptT Failure m (List String) := do
      let config ← within "Failed to load pmgr configuration"
        (Config.load (i.root.getD workingDirectory))
      i.command.execute keys config
    match ← work.run with
    | .ok lines => return ⟨0, unlines lines, none⟩
    | .error failure => return ⟨1, "", some failure.message⟩

end PromptLibrary.CommandLine
