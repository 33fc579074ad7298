import PromptLibrary.Error
import PromptLibrary.Json.Decode

/-!
# Fields of an answer

A field of a structured answer has a name, a type, a description, and may be required. A field whose
type is an array also has the type of its items; `Field.setType` keeps the two types consistent.
-/

namespace PromptLibrary.Schema

/-! ## Types -/

/-- The type of the items of an array field. -/
inductive ItemType where
  /-- A text. -/
  | string
  /-- A number. -/
  | number
  /-- A whole number. -/
  | integer
  /-- A truth value. -/
  | boolean
  deriving DecidableEq

/-- The type of a field. -/
inductive FieldType where
  /-- A text. -/
  | string
  /-- A number. -/
  | number
  /-- A whole number. -/
  | integer
  /-- A truth value. -/
  | boolean
  /-- A list of items of one type. -/
  | array
  deriving DecidableEq

namespace ItemType

/-- The name of a type in a schema. -/
def name : ItemType → String
  | .string => "string"
  | .number => "number"
  | .integer => "integer"
  | .boolean => "boolean"

/-- All types with their names. -/
def choices : List (String × ItemType) :=
  [ItemType.string, .number, .integer, .boolean].map fun t ↦ (t.name, t)

/-- The type of a name. -/
def ofName? (s : String) : Option ItemType :=
  choices.lookup s

/-- The type of a name, or the complaint that there is none. -/
def parse (s : String) : Except InvalidName ItemType :=
  (ofName? s).elim (.error ⟨"item type", s⟩) .ok

@[simp] theorem ofName?_name (t : ItemType) : ofName? t.name = some t := by
  cases t <;> decide

end ItemType

namespace FieldType

/-- The name of a type in a schema. -/
def name : FieldType → String
  | .string => "string"
  | .number => "number"
  | .integer => "integer"
  | .boolean => "boolean"
  | .array => "array"

/-- All types with their names. -/
def choices : List (String × FieldType) :=
  [FieldType.string, .number, .integer, .boolean, .array].map fun t ↦ (t.name, t)

/-- The type of a name. -/
def ofName? (s : String) : Option FieldType :=
  choices.lookup s

/-- The type of a name, or the complaint that there is none. -/
def parse (s : String) : Except InvalidName FieldType :=
  (ofName? s).elim (.error ⟨"field type", s⟩) .ok

@[simp] theorem ofName?_name (t : FieldType) : ofName? t.name = some t := by
  cases t <;> decide

end FieldType

/-! ## Fields -/

/-- A field of an answer. -/
structure Field where
  /-- The name, which an output placeholder declares. -/
  name : String
  /-- The type. -/
  type : FieldType
  /-- What the field is for; may be empty. -/
  description : String
  /-- The answer must have the field. -/
  required : Bool
  /-- The type of the items, if the field is an array. -/
  itemType : Option ItemType
  deriving DecidableEq

namespace Field

/-- An optional text field without a description. -/
def new (name : String) : Field :=
  ⟨name, .string, "", false, none⟩

/-- Changes the type. Items of an array are texts unless something else is asked for; a field that
is not an array has no item type. -/
def setType (f : Field) (type : FieldType) (itemType : Option ItemType) : Field :=
  { f with
    type := type
    itemType := if type = .array then some (itemType.getD .string) else none }

/-- The item type is there exactly if the field is an array. -/
def Consistent (f : Field) : Prop :=
  f.itemType.isSome = true ↔ f.type = .array

theorem consistent_new (name : String) : (new name).Consistent := by
  simp [Consistent, new]

theorem consistent_setType (f : Field) (type : FieldType) (itemType : Option ItemType) :
    (f.setType type itemType).Consistent := by
  by_cases h : type = .array <;> simp [Consistent, setType, h]

/-! ## Fields as JSON -/

/-- The field as a record. -/
def toJson (f : Field) : Json :=
  .object [("name", .string f.name), ("type", .string f.type.name),
    ("description", .string f.description), ("required", .bool f.required),
    ("item_type", f.itemType.elim .null fun t ↦ .string t.name)]

/-- Reads a field back. -/
def decode (budget : Nat) (d : Json.Document) : Option Field := do
  let r ← d.record? ["name", "type", "description", "required", "item_type"] budget
  return {
    name := ← r.required "name" Json.Document.text?
    type := ← r.required "type" (Json.Document.choice? FieldType.choices r.budget)
    description := ← r.required "description" Json.Document.text?
    required := ← r.required "required" Json.Document.truth?
    itemType := ← r.nullableField "item_type" (Json.Document.choice? ItemType.choices r.budget) }

/-- Reads a list of fields. -/
def listOfText? (text : String) : Option (List Field) :=
  Json.decodeWith (Json.Document.list? decode) text

end Field

end PromptLibrary.Schema
