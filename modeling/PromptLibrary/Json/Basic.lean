import PromptLibrary.Entries
import PromptLibrary.Json.Number

/-!
# JSON values

A value of a document after reading. The entries of an object keep their order, which is printed
again; an object with a repeated key cannot be read (`Json.WellFormed`), but the type does not
exclude it.
-/

namespace PromptLibrary

/-- A JSON value. -/
inductive Json where
  /-- The null value. -/
  | null
  /-- A truth value. -/
  | bool (value : Bool)
  /-- A number. -/
  | number (value : Json.Number)
  /-- A text. -/
  | string (value : String)
  /-- A sequence of values. -/
  | array (items : List Json)
  /-- Keyed values in order. -/
  | object (entries : List (String × Json))

namespace Json

instance : Inhabited Json := ⟨.null⟩

/-! ## Parts of a value -/

/-- The value under a key of an object. No other value has keys. -/
def get? : Json → String → Option Json
  | .object es, k => Entries.get? es k
  | _, _ => none

/-- The text of a text value. -/
def string? : Json → Option String
  | .string s => some s
  | _ => none

/-- The truth value. -/
def bool? : Json → Option Bool
  | .bool b => some b
  | _ => none

/-- The items of an array. -/
def array? : Json → Option (List Json)
  | .array vs => some vs
  | _ => none

/-- The entries of an object. -/
def object? : Json → Option (Entries String Json)
  | .object es => some es
  | _ => none

/-- The value counts as nothing: null or an object without entries. -/
def isVoid : Json → Bool
  | .null => true
  | .object [] => true
  | _ => false

/-! ## Well-formed values -/

mutual

/-- Integers are in range and no object repeats a key, at every level. -/
def WellFormed : Json → Prop
  | .number n => n.InRange
  | .array vs => WellFormedItems vs
  | .object es => (es.map (·.1)).Nodup ∧ WellFormedEntries es
  | _ => True

/-- Every item is well-formed. -/
def WellFormedItems : List Json → Prop
  | [] => True
  | v :: vs => v.WellFormed ∧ WellFormedItems vs

/-- Every entry has a well-formed value. -/
def WellFormedEntries : List (String × Json) → Prop
  | [] => True
  | e :: es => e.2.WellFormed ∧ WellFormedEntries es

end

mutual

/-- The number of containers on the longest way from the value to a leaf. -/
def depth : Json → Nat
  | .array vs => depthItems vs + 1
  | .object es => depthEntries es + 1
  | _ => 0

/-- The greatest depth of an item. -/
def depthItems : List Json → Nat
  | [] => 0
  | v :: vs => max v.depth (depthItems vs)

/-- The greatest depth of an entry's value. -/
def depthEntries : List (String × Json) → Nat
  | [] => 0
  | e :: es => max e.2.depth (depthEntries es)

end

end Json

end PromptLibrary
