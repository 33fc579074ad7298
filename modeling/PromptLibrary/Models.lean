import PromptLibrary.Error
import PromptLibrary.Json.Decode

/-!
# Models

What is known about the models that a prompt can be run with. A list of models comes in one of two
layouts: plain records, or a provider's listing, where what a model can do is nested below it. The
catalog is filled by reading such a list; a list that cannot be read leaves the catalog as it was.
-/

namespace PromptLibrary

/-- What is known about a model. -/
structure ModelInfo where
  /-- The name by which a run asks for the model. -/
  id : String
  /-- The name that is shown. -/
  name : String := ""
  /-- The model honours a response format. -/
  responseSchema : Bool := false
  /-- The model reasons. -/
  reasoning : Bool := false
  deriving DecidableEq

namespace ModelInfo

/-! ## Plain records -/

/-- Reads a plain record. -/
def decode (budget : Nat) (d : Json.Document) : Option ModelInfo := do
  let r ← d.record? ["id", "name", "supports_response_schema", "supports_reasoning"] budget
  return {
    id := ← r.required "id" Json.Document.text?
    name := ← r.optional "name" Json.Document.text? ""
    responseSchema := ← r.optional "supports_response_schema" Json.Document.truth? false
    reasoning := ← r.optional "supports_reasoning" Json.Document.truth? false }

/-! ## A provider's listing -/

/-- Reads what a listed model can do: whether it honours a response format, and whether it
reasons. -/
def decodeCapabilities (budget : Nat) (d : Json.Document) : Option (Bool × Bool) := do
  let r ← d.record? ["supportsResponseSchema", "supportsReasoning"] budget
  return (← r.optional "supportsResponseSchema" Json.Document.truth? false,
    ← r.optional "supportsReasoning" Json.Document.truth? false)

/-- Reads the description of a listed model: its name, if it has one, and what it can do. -/
def decodeSpec (budget : Nat) (d : Json.Document) : Option (Option String × Bool × Bool) := do
  let r ← d.record? ["name", "capabilities"] budget
  return (← r.optional "name" (Json.Document.nullable Json.Document.text?) none,
    ← r.optional "capabilities" (decodeCapabilities r.budget) (false, false))

/-- Reads a listed model. One without a name is shown by its id. -/
def decodeListed (budget : Nat) (d : Json.Document) : Option ModelInfo := do
  let r ← d.record? ["id", "model_spec"] budget
  let id ← r.required "id" Json.Document.text?
  let (name, responseSchema, reasoning) ←
    r.optional "model_spec" (decodeSpec r.budget) (none, false, false)
  return ⟨id, name.getD id, responseSchema, reasoning⟩

/-- Reads a listing, which must be an object. -/
def decodeListing (budget : Nat) (d : Json.Document) : Option (List ModelInfo) := do
  let .object _ := d | none
  let r ← d.record? ["data"] budget
  r.required "data" (Json.Document.list? decodeListed r.budget)

/-! ## Files of models -/

/-- Reads a list of models in either layout. All of the document has to be valid, not only the parts
that are asked for. -/
def decodeFile (budget : Nat) (d : Json.Document) : Option (List ModelInfo) := do
  let _ ← d.toJson? budget
  (Json.Document.list? decode budget d).or (decodeListing budget d)

/-- The models of a text. -/
def listOfText? (text : String) : Option (List ModelInfo) :=
  Json.decodeWith decodeFile text

variable {m : Type → Type} [Monad m] [FileStore m]

/-- The models of a file. -/
def fetch (path : Path) : ExceptT Error m (List ModelInfo) := do
  let text ← ExceptT.adapt (fun e ↦ .modelCatalog path (some e))
    (FileStore.read path : ExceptT FileError m String)
  match listOfText? text with
  | some models => return models
  | none => throw (.modelCatalog path none)

end ModelInfo

/-! ## The catalog -/

/-- The models by their ids. -/
structure ModelCatalog where
  /-- The models in the order of the list they came from. -/
  models : Entries String ModelInfo := []
  /-- A list has been read. -/
  filled : Bool := false

namespace ModelCatalog

/-- The catalog of a list of models. Of a repeated id the first place and the last model count. -/
def ofList (models : List ModelInfo) : ModelCatalog :=
  ⟨Entries.ofPairs (models.map fun i ↦ (i.id, i)), true⟩

variable {m : Type → Type} [Monad m] [FileStore m]

/-- Fills the catalog anew from a file and tells how many models it has. If that fails the catalog
stays as it was. -/
def refresh (path : Path) : ExceptT Error (StateT ModelCatalog m) Nat := do
  let models ← ModelInfo.fetch path
  set (ofList models)
  return (ofList models).models.length

/-- The model of an id. -/
def get? (c : ModelCatalog) (id : String) : Option ModelInfo :=
  Entries.get? c.models id

/-- The model is known and honours a response format. -/
def supportsResponseSchema (c : ModelCatalog) (id : String) : Bool :=
  (c.get? id).any (·.responseSchema)

end ModelCatalog

end PromptLibrary
