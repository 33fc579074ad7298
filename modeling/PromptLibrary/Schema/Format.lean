import PromptLibrary.Schema.Field

/-!
# Response formats

The fields of an answer are stored as a JSON schema, usually inside an envelope that names it. Both
the envelope and the bare schema are understood. A stored schema is not trusted: whatever has the
wrong shape is read as if it were not there.
-/

namespace PromptLibrary.Schema

/-- The title of a schema that was given none. -/
def defaultTitle : String := "PromptOutputSchema"

/-! ## Reading a stored schema -/

/-- The schema inside an envelope, or the value itself. -/
def body (v : Json) : Json :=
  ((v.get? "json_schema").bind (·.get? "schema")).getD v

/-- The described properties of a schema. -/
def properties (v : Json) : Entries String Json :=
  (((body v).get? "properties").bind Json.object?).getD []

/-- The names that a schema requires. -/
def requiredNames (v : Json) : List String :=
  ((((body v).get? "required").bind Json.array?).getD []).filterMap Json.string?

/-- The field that a property describes. An unknown type is read as a text. -/
def fieldOfProperty (name : String) (property : Json) (required : Bool) : Field :=
  let type := (((property.get? "type").bind Json.string?).bind FieldType.ofName?).getD .string
  let item := ((((property.get? "items").bind (·.get? "type")).bind Json.string?).bind
    ItemType.ofName?).getD .string
  { name := name
    type := type
    description := ((property.get? "description").bind Json.string?).getD ""
    required := required
    itemType := if type = .array then some item else none }

/-- A field for every name, in the order of the names: as the stored schema describes it, or new. -/
def reconcile (names : List String) : Option Json → List Field
  | none => names.map Field.new
  | some previous =>
    let known := properties previous
    let required := requiredNames previous
    names.map fun n ↦
      match Entries.get? known n with
      | some property => fieldOfProperty n property (required.contains n)
      | none => Field.new n

/-! ## Building a schema -/

/-- The property that describes a field. -/
def propertyOfField (f : Field) : Json :=
  .object ([("type", .string f.type.name), ("description", .string f.description)] ++
    if f.type = .array then
      [("items", .object [("type", .string (f.itemType.getD .string).name)])]
    else [])

/-- The schema for a list of fields. -/
def build (fields : List Field) (title : String) : Json :=
  .object [("type", .string "object"), ("title", .string title),
    ("properties", .object (Entries.ofPairs (fields.map fun f ↦ (f.name, propertyOfField f)))),
    ("required", .array ((fields.filter (·.required)).map fun f ↦ .string f.name))]

/-- The envelope around a schema. It is named by the schema's title. -/
def wrap (schema : Json) : Json :=
  .object [("type", .string "json_schema"),
    ("json_schema", .object [
      ("name", .string (((schema.get? "title").bind Json.string?).getD defaultTitle)),
      ("strict", .bool true),
      ("schema", schema)])]

/-- Reads a response format that somebody has written. A blank text stands for no format, which is
an empty object. -/
def parseFormat (text : String) : Except SchemaFault Json :=
  if Text.isBlankText text then .ok (.object [])
  else
    match Json.parse? text with
    | none => .error .invalidFormat
    | some (.object es) => .ok (.object es)
    | some _ => .error .formatNotObject

/-! ## Checking an answer -/

/-- The values of an answer for a list of fields, in the order of the fields. A field that is
missing is an error if it is required; otherwise it is null or left out. -/
def collect (answer : Entries String Json) (nulls : Bool) :
    List Field → Except SchemaFault (List (String × Json))
  | [] => .ok []
  | f :: fs =>
    match Entries.get? answer f.name with
    | some v => (collect answer nulls fs).map ((f.name, v) :: ·)
    | none =>
      if f.required then .error (.missingField f.name)
      else if nulls then (collect answer nulls fs).map ((f.name, .null) :: ·)
      else collect answer nulls fs

/-- The fields that an answer gives, in the order of the schema. With `nulls`, fields that it leaves
out are listed as null. -/
def extract (answer schema : Json) (nulls : Bool) : Except SchemaFault (List (String × Json)) :=
  match answer with
  | .object es => collect es nulls (reconcile (Entries.keys (properties schema)) (some schema))
  | _ => .error .answerNotObject

end PromptLibrary.Schema
