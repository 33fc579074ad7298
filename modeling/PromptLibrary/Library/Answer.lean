import PromptLibrary.Library.Basic
import PromptLibrary.Placeholder.Scan

/-!
# Structured answers

The output placeholders of a template are the fields of its answer. The schema for them is kept as
the template's response format, and an answer can be checked against it.
-/

namespace PromptLibrary.Library

/-- The fields of a template's answer, in the order in which the prompt declares them. What the
stored response format says about a field is kept. -/
def outputFields (l : Library) (name : String) : Except Error (List Schema.Field) := do
  let t ← l.require name
  return Schema.reconcile (Placeholder.Kind.output.scan t.promptText) t.responseFormat

/-- The response format for a list of fields; without fields there is none. -/
def formatOfFields (fields : List Schema.Field) (title : String) : Option Json :=
  if fields.isEmpty then none else some (Schema.wrap (Schema.build fields title))

/-- Stores the schema for a list of fields as the response format of a template. -/
def Change.applyOutputSchema (name : String) (fields : List Schema.Field) (title : String) :
    Change Unit :=
  update name (·.setResponseFormat (formatOfFields fields title))

/-- The library with the schema for a list of fields. -/
def applyOutputSchema (l : Library) (name : String) (fields : List Schema.Field) (title : String) :
    Except Error Library :=
  (Change.applyOutputSchema name fields title).after l

/-- The fields that an answer gives, in the order of the template's schema. With `nulls`, fields
that it leaves out are listed as null. -/
def checkResponse (l : Library) (name : String) (answer : String) (nulls : Bool) :
    Except Error (List (String × Json)) := do
  let t ← l.require name
  let some format := t.responseFormat | throw (.noResponseFormat name)
  let some value := Json.parse? answer | throw (.schemaParse .invalidAnswer)
  (Schema.extract value format nulls).mapError Error.schemaParse

end PromptLibrary.Library
