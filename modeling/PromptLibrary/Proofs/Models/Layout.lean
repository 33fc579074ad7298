import Mathlib.Data.List.Forall2
import PromptLibrary.Models
import PromptLibrary.Proofs.Library.RoundTrip

/-!
# The layouts of a list of models

A list of models says of each its id and, each if it is given, its name and what it can do
(`ModelEntry`). It is written as plain records or as a provider's listing, where the name and what
the model can do are nested below it. What a text spells is all that counts: the members of an
object may stand in any order and between others, keys and texts may be spelled with or without
escapes, and a nested member in which nothing would be said may be left out.

A layout is a shape of the members of an object (`ModelEntry.Plain`, `ModelEntry.Listed`), and what
has the shape is decoded in one way, whatever else it holds: a record is read field by field, and a
nested member is read as its shape says also where it is left out (`Document.optional_nested`).
-/

namespace PromptLibrary

open Json

/-! ## Objects -/

namespace Json.Document

variable {α : Type} {shape : Entries String Document → Prop} {fields : Entries String Document}
  {names : List String} {key : String}

/-- The document is an object whose members have different keys and are as a shape asks for. -/
def Object (shape : Entries String Document → Prop) (d : Document) : Prop :=
  ∃ ms fields, d = .object ms ∧ (Entries.keys fields).Nodup ∧
    ms.map (fun m ↦ (decodeText m.1, m.2)) = fields.map (fun e ↦ (some e.1, e.2)) ∧ shape fields

/-- The member under a key is an object of a shape. It may be left out if it would be empty. -/
def Nested (shape : Entries String Document → Prop) (fields : Entries String Document)
    (key : String) : Prop :=
  (Entries.get? fields key).elim (shape []) (Object shape)

/-- The fields of a record that are given in an object. -/
def selected (names : List String) (fields : Entries String Document) (budget : Nat) : Record :=
  ⟨fields.filter fun e ↦ names.contains e.1, false, budget⟩

@[simp] theorem budget_selected (names : List String) (fields : Entries String Document)
    (budget : Nat) : (selected names fields budget).budget = budget := rfl

theorem Object.record? {d : Document} (h : d.Object shape) (names : List String) (budget : Nat) :
    ∃ fields, shape fields ∧
      d.record? names (budget + 1) = some (selected names fields budget) := by
  obtain ⟨ms, fields, rfl, hdistinct, hmap, hshape⟩ := h
  refine ⟨fields, hshape, ?_⟩
  rw [Document.record?, selectFields_of_map_eq hdistinct hmap]
  rfl

theorem get?_selected (hkey : key ∈ names) (budget : Nat) :
    Entries.get? (selected names fields budget).fields key = Entries.get? fields key := by
  rw [Entries.get?, Entries.get?, selected, List.find?_filter]
  congr 2
  funext e
  by_cases he : e.1 = key
  · simp [he, hkey]
  · simp [he]

theorem required_selected {decode : Document → Option α} {a : α} (hkey : key ∈ names) (budget : Nat)
    (h : (Entries.get? fields key).map decode = some (some a)) :
    (selected names fields budget).required key decode = some a := by
  obtain ⟨d, hd, ha⟩ := Option.map_eq_some_iff.mp h
  rw [Record.required, get?_selected hkey, hd]
  exact ha

theorem optional_selected {decode : Document → Option α} {part : Option α} (hkey : key ∈ names)
    (budget : Nat) (h : (Entries.get? fields key).map decode = part.map some) (default : α) :
    (selected names fields budget).optional key decode default = some (part.getD default) := by
  rw [Record.optional, get?_selected hkey]
  cases part with
  | none => rw [Option.map_eq_none_iff.mp h]; rfl
  | some a =>
    obtain ⟨d, hd, ha⟩ := Option.map_eq_some_iff.mp h
    rw [hd]
    exact ha

/-- A nested member is read as what every object of its shape is read as, if this is the default
where it is left out. -/
theorem optional_nested {decode : Document → Option α} {a default : α} (hkey : key ∈ names)
    (budget : Nat) (h : Nested shape fields key) (hdefault : shape [] → default = a)
    (hdecode : ∀ d, Object shape d → decode d = some a) :
    (selected names fields budget).optional key decode default = some a := by
  rw [Record.optional, get?_selected hkey]
  rw [Nested] at h
  cases hfield : Entries.get? fields key with
  | none =>
    rw [hfield] at h
    exact congrArg some (hdefault h)
  | some d =>
    rw [hfield] at h
    exact hdecode d h

end Json.Document

/-! ## What a list says of a model -/

/-- What a list of models says of a model. -/
structure ModelEntry where
  /-- The name by which a run asks for the model. -/
  id : String
  /-- The name that is shown. -/
  name : Option String
  /-- Whether the model honours a response format. -/
  responseSchema : Option Bool
  /-- Whether the model reasons. -/
  reasoning : Option Bool

namespace ModelEntry

open Document

/-! ### Layouts -/

/-- A plain record of the model has these members. -/
structure Plain (e : ModelEntry) (fields : Entries String Document) : Prop where
  /-- The id is given. -/
  id : (Entries.get? fields "id").map text? = some (some e.id)
  /-- The name is given if there is one. -/
  name : (Entries.get? fields "name").map text? = e.name.map some
  /-- It is given whether the model honours a response format, if this is known. -/
  responseSchema :
    (Entries.get? fields "supports_response_schema").map truth? = e.responseSchema.map some
  /-- It is given whether the model reasons, if this is known. -/
  reasoning : (Entries.get? fields "supports_reasoning").map truth? = e.reasoning.map some

/-- What a listed model can do is written with these members. -/
structure Capabilities (e : ModelEntry) (fields : Entries String Document) : Prop where
  /-- It is given whether the model honours a response format, if this is known. -/
  responseSchema :
    (Entries.get? fields "supportsResponseSchema").map truth? = e.responseSchema.map some
  /-- It is given whether the model reasons, if this is known. -/
  reasoning : (Entries.get? fields "supportsReasoning").map truth? = e.reasoning.map some

/-- The description of a listed model has these members. -/
structure Spec (e : ModelEntry) (fields : Entries String Document) : Prop where
  /-- The name is given if there is one. -/
  name : (Entries.get? fields "name").map text? = e.name.map some
  /-- What the model can do is nested below. -/
  capabilities : Nested e.Capabilities fields "capabilities"

/-- A listed model has these members. -/
structure Listed (e : ModelEntry) (fields : Entries String Document) : Prop where
  /-- The id is given. -/
  id : (Entries.get? fields "id").map text? = some (some e.id)
  /-- The description is nested below. -/
  spec : Nested e.Spec fields "model_spec"

/-! ### Readings -/

/-- The model of a plain record. -/
def plain (e : ModelEntry) : ModelInfo :=
  ⟨e.id, e.name.getD "", e.responseSchema.getD false, e.reasoning.getD false⟩

/-- The model of an entry of a listing. -/
def listed (e : ModelEntry) : ModelInfo :=
  ⟨e.id, e.name.getD e.id, e.responseSchema.getD false, e.reasoning.getD false⟩

theorem plain_eq_listed_iff {e : ModelEntry} :
    e.plain = e.listed ↔ (e.name = none → e.id = "") := by
  obtain ⟨id, name, responseSchema, reasoning⟩ := e
  cases name <;> simp [plain, listed, eq_comm]

variable {e : ModelEntry} {d : Document}

theorem decode_of_plain (h : d.Object e.Plain) (budget : Nat) :
    ModelInfo.decode (budget + 1) d = some e.plain := by
  obtain ⟨fields, hfields, hrecord⟩ :=
    h.record? ["id", "name", "supports_response_schema", "supports_reasoning"] budget
  rw [ModelInfo.decode, hrecord, Option.bind_eq_bind, Option.bind_some,
    required_selected (by decide) budget hfields.id,
    optional_selected (by decide) budget hfields.name,
    optional_selected (by decide) budget hfields.responseSchema,
    optional_selected (by decide) budget hfields.reasoning]
  rfl

theorem decodeCapabilities_of_object (h : d.Object e.Capabilities) (budget : Nat) :
    ModelInfo.decodeCapabilities (budget + 1) d =
      some (e.responseSchema.getD false, e.reasoning.getD false) := by
  obtain ⟨fields, hfields, hrecord⟩ :=
    h.record? ["supportsResponseSchema", "supportsReasoning"] budget
  rw [ModelInfo.decodeCapabilities, hrecord, Option.bind_eq_bind, Option.bind_some,
    optional_selected (by decide) budget hfields.responseSchema,
    optional_selected (by decide) budget hfields.reasoning]
  rfl

theorem Capabilities.of_nil (h : e.Capabilities []) :
    (false, false) = (e.responseSchema.getD false, e.reasoning.getD false) := by
  rw [Option.map_eq_none_iff.mp h.responseSchema.symm, Option.map_eq_none_iff.mp h.reasoning.symm]
  rfl

/-- A name that is given is not null. -/
theorem map_nullable_text? {o : Option Document} {name : Option String}
    (h : o.map text? = name.map some) : o.map (nullable text?) = (name.map some).map some := by
  cases name with
  | none => rw [Option.map_eq_none_iff.mp h]; rfl
  | some name =>
    obtain ⟨d, rfl, hd⟩ := Option.map_eq_some_iff.mp h
    have hread : nullable text? d = (text? d).map some := by
      cases d with
      | null => cases hd
      | _ => rfl
    rw [Option.map_some, hread, hd]
    rfl

theorem decodeSpec_of_object (h : d.Object e.Spec) (budget : Nat) :
    ModelInfo.decodeSpec (budget + 2) d =
      some (e.name, e.responseSchema.getD false, e.reasoning.getD false) := by
  obtain ⟨fields, hfields, hrecord⟩ := h.record? ["name", "capabilities"] (budget + 1)
  rw [ModelInfo.decodeSpec, hrecord, Option.bind_eq_bind, Option.bind_some, budget_selected,
    optional_selected (by decide) (budget + 1) (map_nullable_text? hfields.name),
    optional_nested (by decide) (budget + 1) hfields.capabilities Capabilities.of_nil
      fun d hd ↦ decodeCapabilities_of_object hd budget]
  cases e.name <;> rfl

theorem Spec.of_nil (h : e.Spec []) :
    (none, false, false) = (e.name, e.responseSchema.getD false, e.reasoning.getD false) := by
  rw [Option.map_eq_none_iff.mp h.name.symm, ← Capabilities.of_nil h.capabilities]

theorem decodeListed_of_listed (h : d.Object e.Listed) (budget : Nat) :
    ModelInfo.decodeListed (budget + 3) d = some e.listed := by
  obtain ⟨fields, hfields, hrecord⟩ := h.record? ["id", "model_spec"] (budget + 2)
  rw [ModelInfo.decodeListed, hrecord, Option.bind_eq_bind, Option.bind_some, budget_selected,
    required_selected (by decide) (budget + 2) hfields.id,
    optional_nested (by decide) (budget + 2) hfields.spec Spec.of_nil
      fun d hd ↦ decodeSpec_of_object hd budget]
  rfl

/-! ### Files -/

/-- The text is a file of plain records. -/
def PlainFile (es : List ModelEntry) (text : String) : Prop :=
  (Json.parse? text).isSome = true ∧
    ∃ ds, Document.parse? text.toList = some (.array ds) ∧
      List.Forall₂ (fun e d ↦ d.Object e.Plain) es ds

/-- A provider's listing has the listed models under one key. -/
def Listing (es : List ModelEntry) (fields : Entries String Document) : Prop :=
  ∃ ds, Entries.get? fields "data" = some (.array ds) ∧
    List.Forall₂ (fun e d ↦ d.Object e.Listed) es ds

/-- The text is a file with a provider's listing. -/
def ListingFile (es : List ModelEntry) (text : String) : Prop :=
  (Json.parse? text).isSome = true ∧
    ∃ d, Document.parse? text.toList = some d ∧ d.Object (Listing es)

theorem list?_of_forall₂ {α β : Type} {written : β → Document → Prop} {read : β → α}
    {decode : Nat → Document → Option α} {budget : Nat} {bs : List β} {ds : List Document}
    (h : List.Forall₂ written bs ds)
    (hdecode : ∀ b d, written b d → decode budget d = some (read b)) :
    list? decode (budget + 1) (.array ds) = some (bs.map read) := by
  rw [list?]
  induction h with
  | nil => rfl
  | cons hd _ ih =>
    rw [List.mapM_cons, hdecode _ _ hd, ih]
    rfl

theorem listOfText?_eq {text : String} (hvalid : (Json.parse? text).isSome = true) {d : Document}
    (hd : Document.parse? text.toList = some d) :
    ModelInfo.listOfText? text =
      (list? ModelInfo.decode nestingLimit d).or (ModelInfo.decodeListing nestingLimit d) := by
  rw [Json.parse?, Json.decodeWith, hd, Option.bind_some] at hvalid
  obtain ⟨v, hv⟩ := Option.isSome_iff_exists.mp hvalid
  rw [ModelInfo.listOfText?, Json.decodeWith, hd, Option.bind_some, ModelInfo.decodeFile, hv]
  rfl

variable {es : List ModelEntry} {text : String}

theorem listOfText?_of_plainFile (h : PlainFile es text) :
    ModelInfo.listOfText? text = some (es.map plain) := by
  obtain ⟨hvalid, ds, hd, hds⟩ := h
  have hread := list?_of_forall₂ hds fun e d hd ↦ decode_of_plain hd 125
  rw [listOfText?_eq hvalid hd]
  exact congrArg (Option.or · _) hread

theorem decodeListing_of_object {d : Document} (h : d.Object (Listing es)) (budget : Nat) :
    ModelInfo.decodeListing (budget + 5) d = some (es.map listed) := by
  obtain ⟨fields, ⟨ds, hdata, hds⟩, hrecord⟩ := h.record? ["data"] (budget + 4)
  have hread := list?_of_forall₂ hds fun e d hd ↦ decodeListed_of_listed hd budget
  have hlist : (Entries.get? fields "data").map (list? ModelInfo.decodeListed (budget + 4)) =
      some (some (es.map listed)) := by
    rw [hdata, Option.map_some, hread]
  obtain ⟨ms, _, rfl, -⟩ := h
  rw [ModelInfo.decodeListing, hrecord, Option.bind_eq_bind, Option.bind_some, budget_selected,
    required_selected (by decide) (budget + 4) hlist]

theorem listOfText?_of_listingFile (h : ListingFile es text) :
    ModelInfo.listOfText? text = some (es.map listed) := by
  obtain ⟨hvalid, d, hd, hobject⟩ := h
  have hread := decodeListing_of_object hobject 122
  have hnot : list? ModelInfo.decode nestingLimit d = none := by
    obtain ⟨ms, _, rfl, -⟩ := hobject
    rfl
  rw [listOfText?_eq hvalid hd, hnot, Option.none_or]
  exact hread

end ModelEntry

end PromptLibrary
