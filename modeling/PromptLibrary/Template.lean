import PromptLibrary.Error
import PromptLibrary.Json.Decode
import PromptLibrary.Json.Printer
import PromptLibrary.Schema.Format

/-!
# Prompt templates

A template is a prompt with placeholders, together with what a run of it needs: its role, the system
prompt that goes with it, and request attributes in a fixed order. One of the attributes, the
response format, has two places; the one among the provider's parameters counts only if the other is
void.
-/

namespace PromptLibrary

/-! ## Roles and subtypes -/

/-- Whom a template speaks as. -/
inductive Role where
  /-- A prompt that can be run. -/
  | user
  /-- A system prompt that other templates may select. -/
  | system
  deriving DecidableEq

namespace Role

/-- The name of a role. -/
def name : Role → String
  | .user => "user"
  | .system => "system"

/-- All roles with their names. -/
def choices : List (String × Role) :=
  [Role.user, .system].map fun r ↦ (r.name, r)

/-- The role of a name, or the complaint that there is none. -/
def parse (s : String) : Except InvalidName Role :=
  (choices.lookup s).elim (.error ⟨"role", s⟩) .ok

end Role

/-- What a user prompt is for. -/
inductive Subtype where
  /-- A summary. -/
  | summary
  /-- An evaluation. -/
  | evaluate
  /-- A question. -/
  | query
  deriving DecidableEq

namespace Subtype

/-- The name of a subtype. -/
def name : Subtype → String
  | .summary => "summary"
  | .evaluate => "evaluate"
  | .query => "query"

/-- All subtypes with their names. -/
def choices : List (String × Subtype) :=
  [Subtype.summary, .evaluate, .query].map fun t ↦ (t.name, t)

/-- The subtype of a name, or the complaint that there is none. -/
def parse (s : String) : Except InvalidName Subtype :=
  (choices.lookup s).elim (.error ⟨"subtype", s⟩) .ok

end Subtype

/-! ## Templates -/

/-- The system prompt of a template, or of a run, that has none of its own. -/
def defaultSystemPrompt : String := "You are a helpful AI assistant."

/-- The attribute that holds the response format. -/
def responseFormatKey : String := "response_format"

/-- The attribute that holds the provider's parameters. -/
def providerParametersKey : String := "venice_parameters"

/-- A prompt template. -/
structure Template where
  /-- The prompt. -/
  promptText : String := ""
  /-- Whom the template speaks as. -/
  role : Role := .user
  /-- What a user prompt is for. -/
  subtype : Subtype := .query
  /-- Remarks. -/
  notes : String := ""
  /-- The request attributes of every run. -/
  attributes : Entries String Json := []
  /-- A run uses the template's own system prompt. -/
  ownSystemPrompt : Bool := false
  /-- The template's own system prompt. -/
  systemText : String := defaultSystemPrompt

namespace Template

/-- A user template with a prompt. -/
def withText (text : String) : Template :=
  { promptText := text }

/-- The template is a system prompt. -/
def isSystem (t : Template) : Bool :=
  t.role = .system

/-! ## The response format -/

/-- A value that counts, if there is one. -/
def substantial (v : Option Json) : Option Json :=
  v.filter fun v ↦ !v.isVoid

/-- The response format among some attributes: their own if it is not void, else the one among the
provider's parameters if that is not void. -/
def formatOf (attributes : Entries String Json) : Option Json :=
  (substantial (Entries.get? attributes responseFormatKey)).or
    (substantial ((Entries.get? attributes providerParametersKey).bind (·.get? responseFormatKey)))

/-- The response format. -/
def responseFormat (t : Template) : Option Json :=
  formatOf t.attributes

/-- An object without a key; the last entry takes the place of the removed one. -/
def withoutKey (k : String) : Json → Json
  | .object es => .object (Entries.swapErase k es)
  | v => v

/-- Stores a response format. A void one, or none, removes both places, so that the format among the
provider's parameters does not come to light. -/
def setResponseFormat (t : Template) (format : Option Json) : Template :=
  match substantial format with
  | some v => { t with attributes := Entries.insert responseFormatKey v t.attributes }
  | none =>
    let rest := Entries.swapErase responseFormatKey t.attributes
    { t with
      attributes := Entries.modify providerParametersKey (withoutKey responseFormatKey) rest }

/-! ## Templates as JSON -/

/-- The template as a record. -/
def toJson (t : Template) : Json :=
  .object [("prompt_text", .string t.promptText), ("type", .string t.role.name),
    ("subtype", .string t.subtype.name), ("notes", .string t.notes),
    ("default_attributes", .object t.attributes), ("prompt_system_use", .bool t.ownSystemPrompt),
    ("prompt_system_text", .string t.systemText)]

/-- Reads a template back. Every field may be missing. -/
def decode (budget : Nat) (d : Json.Document) : Option Template := do
  let r ← d.record? ["prompt_text", "type", "subtype", "notes", "default_attributes",
    "prompt_system_use", "prompt_system_text"] budget
  return {
    promptText := ← r.optional "prompt_text" Json.Document.text? ""
    role := ← r.optional "type" (Json.Document.choice? Role.choices r.budget) .user
    subtype := ← r.optional "subtype" (Json.Document.choice? Subtype.choices r.budget) .query
    notes := ← r.optional "notes" Json.Document.text? ""
    attributes := ← r.optional "default_attributes"
      (Json.Document.entries? Json.Document.toJson? r.budget) []
    ownSystemPrompt := ← r.optional "prompt_system_use" Json.Document.truth? false
    systemText := ← r.optional "prompt_system_text" Json.Document.text? defaultSystemPrompt }

/-- Reads a template from its text. -/
def ofText? (text : String) : Option Template :=
  Json.decodeWith decode text

end Template

end PromptLibrary
