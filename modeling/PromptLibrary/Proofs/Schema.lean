import PromptLibrary.Proofs.Entries
import PromptLibrary.Schema.Edit
import PromptLibrary.Schema.Format

/-!
# Fields and their schema

A schema that is built from fields describes them completely: they are read back from it under their
names (`Schema.reconcile_wrap_build`). This asks two things of the fields. Each of them must be
consistent, since a schema has an item type for arrays only, and fields of the same name must be the
same, since a schema has one property for a name.

The fields of a list of names are consistent whatever schema was stored before, and they stay so
under every change. `Schema.FieldsOf` is what a sequence of changes carries along; the names are
kept as well, so distinct names stay distinct.
-/

namespace PromptLibrary.Schema

open Json

/-! ## One field -/

theorem fieldOfProperty_propertyOfField {f : Field} (h : f.Consistent) :
    fieldOfProperty f.name (propertyOfField f) f.required = f := by
  obtain ⟨name, type, description, required, itemType⟩ := f
  rw [Field.Consistent] at h
  dsimp only at h
  -- only the property of an array has a third entry
  by_cases harray : type = .array
  · subst harray
    obtain ⟨item, rfl⟩ := Option.isSome_iff_exists.mp (h.mpr rfl)
    have htype : (propertyOfField ⟨name, .array, description, required, some item⟩).get? "type" =
        some (.string FieldType.array.name) := rfl
    have hdescription : (propertyOfField ⟨name, .array, description, required, some item⟩).get?
        "description" = some (.string description) := rfl
    have hitems : (propertyOfField ⟨name, .array, description, required, some item⟩).get? "items" =
        some (.object [("type", .string item.name)]) := rfl
    have hitem : (object [("type", .string item.name)]).get? "type" =
        some (.string item.name) := rfl
    simp [fieldOfProperty, htype, hdescription, hitems, hitem, Json.string?]
  · obtain rfl : itemType = none := by
      rw [← Option.not_isSome_iff_eq_none]
      exact fun hsome ↦ harray (h.mp hsome)
    have htype : (propertyOfField ⟨name, type, description, required, none⟩).get? "type" =
        some (.string type.name) := rfl
    have hdescription : (propertyOfField ⟨name, type, description, required, none⟩).get?
        "description" = some (.string description) := rfl
    simp [fieldOfProperty, htype, hdescription, Json.string?, harray]

theorem consistent_fieldOfProperty (name : String) (property : Json) (required : Bool) :
    (fieldOfProperty name property required).Consistent := by
  rw [Field.Consistent, fieldOfProperty]
  dsimp only
  split
  · rename_i h
    simp [h]
  · rename_i h
    simp [h]

/-- The field of a name, as a stored schema describes it. -/
def describedField (previous : Json) (name : String) : Field :=
  match Entries.get? (properties previous) name with
  | some property => fieldOfProperty name property ((requiredNames previous).contains name)
  | none => Field.new name

theorem reconcile_some (names : List String) (previous : Json) :
    reconcile names (some previous) = names.map (describedField previous) := rfl

@[simp] theorem name_describedField (previous : Json) (name : String) :
    (describedField previous name).name = name := by
  rw [describedField]
  split <;> rfl

theorem consistent_describedField (previous : Json) (name : String) :
    (describedField previous name).Consistent := by
  rw [describedField]
  split
  · exact consistent_fieldOfProperty _ _ _
  · exact Field.consistent_new name

/-! ## A schema in its envelope -/

theorem properties_wrap_build (fields : List Field) (title : String) :
    properties (wrap (build fields title)) =
      Entries.ofPairs (fields.map fun f ↦ (f.name, propertyOfField f)) := rfl

theorem requiredNames_wrap_build (fields : List Field) (title : String) :
    requiredNames (wrap (build fields title)) =
      (fields.filter (·.required)).map Field.name := by
  have hrequired : requiredNames (wrap (build fields title)) =
      ((fields.filter (·.required)).map fun f ↦ Json.string f.name).filterMap Json.string? := rfl
  rw [hrequired, List.filterMap_map, ← List.filterMap_eq_map]
  rfl

theorem describedField_wrap_build {fields : List Field} {f : Field} (hf : f ∈ fields)
    (hname : ∀ g ∈ fields, g.name = f.name → g = f) (title : String) :
    describedField (wrap (build fields title)) f.name =
      fieldOfProperty f.name (propertyOfField f) f.required := by
  have hproperty : Entries.get? (properties (wrap (build fields title))) f.name =
      some (propertyOfField f) := by
    rw [properties_wrap_build]
    refine Entries.get?_ofPairs (List.mem_map_of_mem hf) ?_
    intro p hp heq
    obtain ⟨g, hg, rfl⟩ := List.mem_map.mp hp
    rw [hname g hg heq]
  have hrequired : (requiredNames (wrap (build fields title))).contains f.name = f.required := by
    rw [requiredNames_wrap_build, Bool.eq_iff_iff, List.contains_iff_mem, List.mem_map]
    constructor
    · rintro ⟨g, hg, heq⟩
      obtain ⟨hg, hrequired⟩ := List.mem_filter.mp hg
      rwa [← hname g hg heq]
    · intro hrequired
      exact ⟨f, List.mem_filter.mpr ⟨hf, hrequired⟩, rfl⟩
  rw [describedField, hproperty, hrequired]

/-- **A schema describes its fields completely.** Consistent fields, of which those of one name are
the same, are read back from the schema that is built from them. -/
theorem reconcile_wrap_build {fields : List Field} (hconsistent : ∀ f ∈ fields, f.Consistent)
    (hnames : ∀ f ∈ fields, ∀ g ∈ fields, f.name = g.name → f = g) (title : String) :
    reconcile (fields.map Field.name) (some (wrap (build fields title))) = fields := by
  have hfield : ∀ f ∈ fields, describedField (wrap (build fields title)) f.name = f := by
    intro f hf
    rw [describedField_wrap_build hf (fun g hg ↦ hnames g hg f hf) title]
    exact fieldOfProperty_propertyOfField (hconsistent f hf)
  rw [reconcile_some, List.map_map]
  exact (List.map_congr_left hfield).trans (List.map_id fields)

/-! ## The fields of a list of names -/

/-- Consistent fields for some names, in the order of the names. -/
structure FieldsOf (names : List String) (fields : List Field) : Prop where
  /-- The fields have the names. -/
  names_eq : fields.map Field.name = names
  /-- Arrays have an item type, and no other field has. -/
  consistent : ∀ f ∈ fields, f.Consistent

theorem fieldsOf_map {g : String → Field} (hname : ∀ n, (g n).name = n)
    (hconsistent : ∀ n, (g n).Consistent) (names : List String) :
    FieldsOf names (names.map g) := by
  constructor
  · rw [List.map_map]
    exact (List.map_congr_left fun n _ ↦ hname n).trans (List.map_id names)
  · intro f hf
    obtain ⟨n, -, rfl⟩ := List.mem_map.mp hf
    exact hconsistent n

theorem fieldsOf_reconcile (names : List String) (previous : Option Json) :
    FieldsOf names (reconcile names previous) := by
  cases previous with
  | none => exact fieldsOf_map (fun _ ↦ rfl) Field.consistent_new names
  | some previous =>
    exact fieldsOf_map (name_describedField previous) (consistent_describedField previous) names

theorem FieldsOf.reconcile_wrap_build {names : List String} {fields : List Field}
    (h : FieldsOf names fields) (hdistinct : names.Nodup) (title : String) :
    reconcile names (some (wrap (build fields title))) = fields := by
  rw [← h.names_eq] at hdistinct ⊢
  refine Schema.reconcile_wrap_build h.consistent ?_ title
  exact fun f hf g hg ↦ List.inj_on_of_nodup_map hdistinct hf hg

/-! ## Changes -/

@[simp]
theorem Field.name_change (f : Field) (c : FieldChange) : (f.change c).name = f.name := by
  cases c <;> rfl

theorem Field.consistent_change {f : Field} (h : f.Consistent) (c : FieldChange) :
    (f.change c).Consistent := by
  cases c with
  | required value => exact h
  | retype type itemType => exact f.consistent_setType type itemType
  | describe text => exact h

/-- The fields after some changes, each to the first field of a name; nothing if one of the changes
is to a field that is not there. -/
def changeAll? (changes : List (String × FieldChange)) (fields : List Field) :
    Option (List Field) :=
  changes.foldlM (fun fields e ↦ change? e.1 e.2 fields) fields

theorem isSome_change? {name : String} {c : FieldChange} {fields : List Field} :
    (change? name c fields).isSome = true ↔ name ∈ fields.map Field.name := by
  induction fields with
  | nil => simp [change?]
  | cons f fields ih =>
    rw [change?, List.map_cons, List.mem_cons]
    split
    · rename_i hname
      simp [hname]
    · rename_i hname
      rw [Option.isSome_map, ih]
      simp [Ne.symm hname]

theorem FieldsOf.change {names : List String} {fields edited : List Field}
    (h : FieldsOf names fields) {name : String} {c : FieldChange}
    (hchange : change? name c fields = some edited) : FieldsOf names edited := by
  induction fields generalizing names edited with
  | nil => cases hchange
  | cons f fields ih =>
    obtain ⟨rfl, hconsistent⟩ := h
    obtain ⟨hf, hfields⟩ := List.forall_mem_cons.mp hconsistent
    rw [change?] at hchange
    split at hchange
    · obtain rfl := Option.some.inj hchange
      exact ⟨by simp, List.forall_mem_cons.mpr ⟨f.consistent_change hf c, hfields⟩⟩
    · obtain ⟨rest, hrest, rfl⟩ := Option.map_eq_some_iff.mp hchange
      obtain ⟨hnames, hrest⟩ := ih ⟨rfl, hfields⟩ hrest
      exact ⟨by simp [hnames], List.forall_mem_cons.mpr ⟨hf, hrest⟩⟩

theorem FieldsOf.exists_changeAll? {names : List String} {fields : List Field}
    (h : FieldsOf names fields) {changes : List (String × FieldChange)}
    (hchanges : ∀ e ∈ changes, e.1 ∈ names) :
    ∃ edited, changeAll? changes fields = some edited ∧ FieldsOf names edited := by
  induction changes generalizing fields with
  | nil => exact ⟨fields, rfl, h⟩
  | cons e changes ih =>
    obtain ⟨he, hchanges⟩ := List.forall_mem_cons.mp hchanges
    rw [← h.names_eq] at he
    obtain ⟨next, hnext⟩ := Option.isSome_iff_exists.mp (isSome_change?.mpr he)
    obtain ⟨edited, hedited, hfields⟩ := ih (h.change hnext) hchanges
    refine ⟨edited, ?_, hfields⟩
    rw [changeAll?, List.foldlM_cons, hnext]
    exact hedited

end PromptLibrary.Schema
