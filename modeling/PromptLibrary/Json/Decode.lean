import PromptLibrary.Json.Basic
import PromptLibrary.Json.Document

/-!
# Decoding documents

The second step of reading JSON: a grammatical document is turned into a value, or into a record
whose shape is known. Every decoder that enters a container spends one unit of a nesting budget; a
document that asks for more than `nestingLimit` levels is refused. What nobody decodes costs
nothing.

A record may be written as an object, where unknown keys are skipped and a known key must not be
repeated, or as an array of its fields in their order, where trailing fields may be left out.
-/

namespace PromptLibrary.Json

variable {α : Type}

/-- The number of containers that may be nested in a document. -/
def nestingLimit : Nat := 127

/-! ## Strings -/

/-- The characters that the pieces of a string spell. A code unit of a surrogate pair must be
followed, or preceded, by its partner. -/
def decodePieces : List Piece → Option (List Char)
  | [] => some []
  | .char c :: ps => (decodePieces ps).map (c :: ·)
  | .unit n :: .unit m :: ps =>
    if 0xD800 ≤ n && n < 0xDC00 then
      if 0xDC00 ≤ m && m < 0xE000 then
        (decodePieces ps).map (Char.ofNat (0x10000 + (n - 0xD800) * 0x400 + (m - 0xDC00)) :: ·)
      else none
    else if 0xDC00 ≤ n && n < 0xE000 then none
    else (decodePieces (.unit m :: ps)).map (Char.ofNat n :: ·)
  | .unit n :: ps =>
    if 0xD800 ≤ n && n < 0xE000 then none else (decodePieces ps).map (Char.ofNat n :: ·)

/-- The text that the pieces of a string spell. -/
def decodeText (ps : List Piece) : Option String :=
  (decodePieces ps).map String.ofList

namespace Document

/-! ## Values of any shape -/

mutual

/-- The value of a document. Of a repeated key the first place and the last value count. -/
def toJson? : Nat → Document → Option Json
  | _, .null => some .null
  | _, .bool b => some (.bool b)
  | _, .number n => n.toNumber?.map .number
  | _, .string ps => (decodeText ps).map .string
  | 0, .array _ => none
  | budget + 1, .array vs => (toJsonItems? budget vs).map .array
  | 0, .object _ => none
  | budget + 1, .object ms => (toJsonMembers? budget ms).map fun es ↦ .object (Entries.ofPairs es)

/-- The values of the items of an array. -/
def toJsonItems? : Nat → List Document → Option (List Json)
  | _, [] => some []
  | budget, d :: ds => do
    let v ← toJson? budget d
    let vs ← toJsonItems? budget ds
    return v :: vs

/-- The entries of an object, repetitions included. -/
def toJsonMembers? : Nat → List (List Piece × Document) → Option (List (String × Json))
  | _, [] => some []
  | budget, m :: ms => do
    let k ← decodeText m.1
    let v ← toJson? budget m.2
    let es ← toJsonMembers? budget ms
    return (k, v) :: es

end

/-! ## Values of a known shape -/

/-- A text. -/
def text? : Document → Option String
  | .string ps => decodeText ps
  | _ => none

/-- A truth value. -/
def truth? : Document → Option Bool
  | .bool b => some b
  | _ => none

/-- Null, or what `decode` accepts. -/
def nullable (decode : Document → Option α) : Document → Option (Option α)
  | .null => some none
  | d => (decode d).map some

/-- One of a list of named choices, written as its name or as an object that maps the name to
null. -/
def choice? (choices : List (String × α)) (budget : Nat) : Document → Option α
  | .string ps => (decodeText ps).bind fun name ↦ choices.lookup name
  | .object [(k, .null)] =>
    if budget = 0 then none else (decodeText k).bind fun name ↦ choices.lookup name
  | _ => none

/-- An array whose items `decode` accepts. -/
def list? (decode : Nat → Document → Option α) : Nat → Document → Option (List α)
  | budget + 1, .array ds => ds.mapM (decode budget)
  | _, _ => none

/-- An object whose values `decode` accepts, with free keys. Of a repeated key the first place and
the last value count. -/
def entries? (decode : Nat → Document → Option α) : Nat → Document → Option (Entries String α)
  | budget + 1, .object ms => do
    let es ← ms.mapM fun m ↦ do return (← decodeText m.1, ← decode budget m.2)
    return Entries.ofPairs es
  | _, _ => none

/-! ## Records -/

/-- A record whose fields are still to be decoded. -/
structure Record where
  /-- The fields that are given. -/
  fields : Entries String Document
  /-- The record is written as an array. -/
  positional : Bool
  /-- The nesting that is left for the fields. -/
  budget : Nat

/-- The members of an object that are fields of a record. A field must not be repeated. -/
def selectFields (names : List String) :
    List (List Piece × Document) → Option (Entries String Document)
  | [] => some []
  | (k, d) :: ms => do
    let k ← decodeText k
    let fields ← selectFields names ms
    if !names.contains k then return fields
    else if Entries.contains fields k then none
    else return (k, d) :: fields

/-- A record with the given fields, written in either way. -/
def record? (names : List String) : Nat → Document → Option Record
  | budget + 1, .object ms => (selectFields names ms).map fun fields ↦ ⟨fields, false, budget⟩
  | budget + 1, .array ds =>
    if ds.length ≤ names.length then some ⟨names.zip ds, true, budget⟩ else none
  | _, _ => none

namespace Record

/-- A field that must be given. -/
def required (r : Record) (name : String) (decode : Document → Option α) : Option α :=
  (Entries.get? r.fields name).bind decode

/-- A field that has a default. -/
def optional (r : Record) (name : String) (decode : Document → Option α) (default : α) : Option α :=
  match Entries.get? r.fields name with
  | some d => decode d
  | none => some default

/-- A field that may be null. An object may leave it out, an array may not. -/
def nullableField (r : Record) (name : String) (decode : Document → Option α) : Option (Option α) :=
  match Entries.get? r.fields name with
  | some d => nullable decode d
  | none => if r.positional then none else some none

end Record

end Document

/-! ## Texts -/

/-- Reads a text as a document and decodes it. -/
def decodeWith (decode : Nat → Document → Option α) (text : String) : Option α :=
  (Document.parse? text.toList).bind (decode nestingLimit)

/-- The value that a text spells. -/
def parse? (text : String) : Option Json :=
  decodeWith Document.toJson? text

end PromptLibrary.Json
