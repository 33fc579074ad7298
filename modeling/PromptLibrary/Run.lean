import PromptLibrary.Library.Basic
import PromptLibrary.Models
import PromptLibrary.Placeholder.Fill

/-!
# Preparing a run

A run of a template is planned before anybody is asked for values. The plan is a pure matter: it
selects the system prompt, checks that the response format can be honoured, removes the attributes
that must not reach the request and strips the output placeholders. Only a run that has a plan fills
its prompt.
-/

namespace PromptLibrary

/-! ## Requests and outcomes -/

/-- How the response is going to be used. -/
inductive ResponseMode where
  /-- One question with one answer, which may be structured. -/
  | question
  /-- A conversation, which is plain text. -/
  | chat
  deriving DecidableEq

namespace ResponseMode

/-- The name of a mode. -/
def name : ResponseMode → String
  | .question => "question"
  | .chat => "chat"

/-- All modes with their names. -/
def choices : List (String × ResponseMode) :=
  [ResponseMode.question, .chat].map fun r ↦ (r.name, r)

/-- The mode of a name, or the complaint that there is none. -/
def parse (s : String) : Except InvalidName ResponseMode :=
  (choices.lookup s).elim (.error ⟨"response mode", s⟩) .ok

end ResponseMode

/-- What is chosen anew for every run. -/
structure RunRequest where
  /-- How the response is going to be used. -/
  mode : ResponseMode
  /-- The id of the model. -/
  model : String
  /-- The system prompt of a template that has none of its own. -/
  systemPrompt : String

/-- Everything that a request to a model needs. -/
structure PreparedPrompt where
  /-- The name of the template. -/
  template : String
  /-- The id of the model. -/
  model : String
  /-- How the response is going to be used. -/
  mode : ResponseMode
  /-- The system prompt. -/
  systemPrompt : String
  /-- The prompt without placeholders. -/
  promptText : String
  /-- The attributes of the request. -/
  attributes : Entries String Json

/-- The outcome of preparing a run. -/
inductive RunOutcome where
  /-- The run can go ahead. -/
  | ready (prompt : PreparedPrompt)
  /-- The request for values was dismissed; the prompt is stripped but not filled. -/
  | cancelled (template promptText : String)

/-! ## Attributes that stay behind -/

/-- The attribute that must not reach a request: the system prompt travels apart from the
attributes. -/
def systemPromptKey : String := "system_prompt"

/-- The attribute that selects a system template. -/
def selectionKey : String := "custom_system_prompt_name"

/-- The provider's parameter without which the selection of a system template does not count. -/
def selectionFlagKey : String := "include_venice_system_prompt"

namespace Template

/-- The attributes of a request. -/
def requestAttributes (t : Template) : Entries String Json :=
  Entries.swapErase selectionKey (Entries.swapErase systemPromptKey t.attributes)

/-- The provider's parameters allow a system template to be selected. -/
def allowsSelection (t : Template) : Bool :=
  let flag := (Entries.get? t.attributes providerParametersKey).bind (·.get? selectionFlagKey)
  (flag.bind Json.bool?).getD false

/-- The name of the selected system template. -/
def selection? (t : Template) : Option String :=
  let name := (Entries.get? t.attributes selectionKey).bind Json.string?
  if t.allowsSelection then name.filter (· ≠ "") else none

end Template

/-! ## Planning -/

/-- The system prompt of a template's run: the selected one, or the template's own, or the
default. -/
def Library.systemPrompt (l : Library) (t : Template) (default : String) : Except Error String :=
  match t.selection? with
  | none => .ok (if t.ownSystemPrompt then t.systemText else default)
  | some name =>
    match (l.get? name).filter (·.isSystem) with
    | some selected => .ok selected.promptText
    | none => .error (.invalidSystemPrompt name)

/-- A template with a response format can only be run as a question to a model that honours it. -/
def checkFormat (catalog : ModelCatalog) (request : RunRequest) (t : Template) :
    Except Error Unit :=
  if t.responseFormat.isNone then .ok ()
  else if request.mode = .chat then .error .chatWithResponseFormat
  else if catalog.supportsResponseSchema request.model then .ok ()
  else .error (.modelLacksResponseSchema request.model)

/-- A run before its prompt is filled. -/
structure RunPlan where
  /-- The system prompt. -/
  systemPrompt : String
  /-- The prompt without output placeholders. -/
  promptText : String
  /-- The attributes of the request. -/
  attributes : Entries String Json

/-- The plan of a run. -/
def planRun (l : Library) (catalog : ModelCatalog) (request : RunRequest) (name : String) :
    Except Error RunPlan := do
  let t ← l.require name
  if t.isSystem then throw (.systemPromptNotRunnable name)
  let systemPrompt ← l.systemPrompt t request.systemPrompt
  checkFormat catalog request t
  return ⟨systemPrompt, Placeholder.stripOutput t.promptText, t.requestAttributes⟩

/-! ## Preparing -/

/-- What becomes of a plan whose prompt has been filled. -/
def RunPlan.outcome (p : RunPlan) (request : RunRequest) (name : String) :
    Placeholder.Resolution → RunOutcome
  | .resolved text => .ready ⟨name, request.model, request.mode, p.systemPrompt, text, p.attributes⟩
  | .cancelled text => .cancelled name text

variable {m : Type → Type} [Monad m] [FileStore m]

/-- Prepares a run of a template. The provider is not asked unless the run has a plan. -/
def prepareRun (registry : LoaderRegistry) (l : Library) (catalog : ModelCatalog)
    (request : RunRequest) (provider : Placeholder.Provider m) (name : String) :
    ExceptT Error m RunOutcome := do
  let p ← ExceptT.mk (pure (planRun l catalog request name))
  let resolution ← ExceptT.adapt Error.providerFailed
    (ExceptT.mk (Placeholder.resolve registry provider p.promptText))
  return p.outcome request name resolution

end PromptLibrary
