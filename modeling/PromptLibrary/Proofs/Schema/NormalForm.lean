import PromptLibrary.Proofs.Schema

/-!
# Normal forms of a field list

A stored schema can be anything: what has the wrong shape is read as if it were not there. Whatever
it is, the fields that are read from it are in a normal form already. A schema that is built from
them, bare or in its envelope, gives the same fields when it is read under the same names
(`Schema.reconcile_build_reconcile`), so a second pass has nothing left to repair.

The normal forms are described without a reference to any schema (`Schema.Normal`): the fields have
the given names, arrays and no others have an item type, and fields of one name are the same. The
last condition is about names that are listed repeatedly. A schema has one property for a name, the
one of its last field, and requires a name if one of its fields does; so of two different fields of
one name at least one is not read back.
-/

namespace PromptLibrary.Schema

open Json

/-! ## A schema with and without its envelope -/

theorem reconcile_congr {v w : Json} (h : body v = body w) (names : List String) :
    reconcile names (some v) = reconcile names (some w) := by
  have hdescribed : ∀ name, describedField v name = describedField w name := by
    intro name
    rw [describedField, describedField, properties, properties, requiredNames, requiredNames, h]
  rw [reconcile_some, reconcile_some, funext hdescribed]

@[simp] theorem body_wrap (schema : Json) : body (wrap schema) = schema := rfl

/-- A schema that is built from fields is not taken for an envelope. -/
@[simp] theorem body_build (fields : List Field) (title : String) :
    body (build fields title) = build fields title := rfl

theorem reconcile_build (names : List String) (fields : List Field) (title : String) :
    reconcile names (some (build fields title)) =
      reconcile names (some (wrap (build fields title))) :=
  reconcile_congr ((body_build fields title).trans (body_wrap _).symm) names

/-! ## Fields that are read back -/

/-- Fields for some names, in the order of the names, that a schema describes completely. -/
structure Normal (names : List String) (fields : List Field) : Prop
    extends FieldsOf names fields where
  /-- Fields of one name are the same. -/
  coherent : ∀ f ∈ fields, ∀ g ∈ fields, f.name = g.name → f = g

theorem normal_map {g : String → Field} (hname : ∀ n, (g n).name = n)
    (hconsistent : ∀ n, (g n).Consistent) (names : List String) : Normal names (names.map g) where
  toFieldsOf := fieldsOf_map hname hconsistent names
  coherent f hf f' hf' heq := by
    obtain ⟨n, -, rfl⟩ := List.mem_map.mp hf
    obtain ⟨n', -, rfl⟩ := List.mem_map.mp hf'
    rw [hname, hname] at heq
    rw [heq]

theorem normal_reconcile (names : List String) (previous : Option Json) :
    Normal names (reconcile names previous) := by
  cases previous with
  | none => exact normal_map (fun _ ↦ rfl) Field.consistent_new names
  | some previous =>
    exact normal_map (name_describedField previous) (consistent_describedField previous) names

/-- The normal fields are those that are read back from the schema that is built from them. -/
theorem reconcile_build_eq_self_iff {names : List String} {fields : List Field} (title : String) :
    reconcile names (some (build fields title)) = fields ↔ Normal names fields := by
  constructor
  · intro hself
    rw [← hself]
    exact normal_reconcile names _
  · rintro ⟨⟨rfl, hconsistent⟩, hcoherent⟩
    rw [reconcile_build]
    exact reconcile_wrap_build hconsistent hcoherent title

/-- **Reading a schema gives a normal form.** Whatever was stored before, there is one field for
each name, in the order of the names, with an item type exactly if it is an array, and the fields
are read back from the schema that is built from them, with and without its envelope. Being read
back is not a matter of course: it holds of the normal fields for the names and of no others. -/
theorem reconcile_build_reconcile (names : List String) (previous : Option Json) (title : String) :
    let fields := reconcile names previous
    fields.map Field.name = names ∧
      (∀ f ∈ fields, f.itemType.isSome = true ↔ f.type = .array) ∧
      reconcile names (some (build fields title)) = fields ∧
      reconcile names (some (wrap (build fields title))) = fields ∧
      ∀ others, reconcile names (some (build others title)) = others ↔ Normal names others := by
  intro fields
  have hnormal : Normal names fields := normal_reconcile names previous
  have hbare : reconcile names (some (build fields title)) = fields :=
    (reconcile_build_eq_self_iff title).mpr hnormal
  have hwrapped : reconcile names (some (wrap (build fields title))) = fields := by
    rw [← reconcile_build, hbare]
  exact ⟨hnormal.names_eq, hnormal.consistent, hbare, hwrapped,
    fun _ ↦ reconcile_build_eq_self_iff title⟩

/-- Two fields of one name: the property is that of the last one, and both are required. -/
example :
    reconcile ["a", "a"] (some (build [⟨"a", .number, "", true, none⟩,
      ⟨"a", .string, "", false, none⟩] "")) =
      [⟨"a", .string, "", true, none⟩, ⟨"a", .string, "", true, none⟩] := by decide +kernel

end PromptLibrary.Schema
