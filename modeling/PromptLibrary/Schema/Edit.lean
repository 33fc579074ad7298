import PromptLibrary.Schema.Field

/-!
# Editing fields

The changes that can be made to the fields of an answer before a schema is built from them. A change
is made to a field that is there; names and order of the fields stay as they are.
-/

namespace PromptLibrary.Schema

/-- A change to a field. -/
inductive FieldChange where
  /-- The field becomes required, or optional. -/
  | required (value : Bool)
  /-- The field gets a type. -/
  | retype (type : FieldType) (itemType : Option ItemType)
  /-- The field gets a description. -/
  | describe (text : String)
  deriving DecidableEq

/-- The field after a change. -/
def Field.change (f : Field) : FieldChange → Field
  | .required value => { f with required := value }
  | .retype type itemType => f.setType type itemType
  | .describe text => { f with description := text }

/-- The fields after a change to the first one of a name; nothing if there is none. -/
def change? (name : String) (c : FieldChange) : List Field → Option (List Field)
  | [] => none
  | f :: fs => if f.name = name then some (f.change c :: fs) else (change? name c fs).map (f :: ·)

end PromptLibrary.Schema
