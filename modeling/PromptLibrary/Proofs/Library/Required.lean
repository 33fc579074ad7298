import Mathlib.Data.List.Dedup
import PromptLibrary.Proofs.Library.Answer

/-!
# Required names

A response format that was written by hand may require names that it does not describe. A check goes
through the properties of the format and looks up which of them are required. So it reports a
required name that is missing only if the name is a property, and it accepts answers in which other
required names are missing.

An answer is accepted exactly if it is an object with all required names that are properties. That
every accepted answer has all required names is therefore true of a format exactly if each of them
is a property (`Library.checkResponse_required_iff`). A schema that was built from fields describes
all that it requires; for it the two are the same.
-/

namespace PromptLibrary

namespace Schema

/-- The answer has a key for every name that the schema requires. -/
def HasRequired (schema : Json) (answer : Entries String Json) : Prop :=
  ∀ n ∈ requiredNames schema, Entries.contains answer n = true

/-- The names of the properties of a schema. -/
def propertyNames (schema : Json) : List String :=
  Entries.keys (properties schema)

/-- The fields against which an answer is checked: those of the properties. -/
def checkedFields (schema : Json) : List Field :=
  (propertyNames schema).map (describedField schema)

theorem required_describedField {schema : Json} {n : String} (hn : n ∈ propertyNames schema) :
    (describedField schema n).required = (requiredNames schema).contains n := by
  have hproperty : (Entries.get? (properties schema) n).isSome = true := by
    rw [← Entries.contains_eq_isSome_get?, Entries.contains_iff_mem_keys]
    exact hn
  obtain ⟨property, hproperty⟩ := Option.isSome_iff_exists.mp hproperty
  rw [describedField, hproperty]
  rfl

theorem satisfiedBy_checkedFields_iff {schema : Json} {answer : Entries String Json} :
    (∀ f ∈ checkedFields schema, f.SatisfiedBy answer) ↔
      ∀ n ∈ requiredNames schema, n ∈ propertyNames schema → Entries.contains answer n = true := by
  have hfield : ∀ n ∈ propertyNames schema, (describedField schema n).SatisfiedBy answer ↔
      (n ∈ requiredNames schema → Entries.contains answer n = true) := by
    intro n hn
    rw [Field.SatisfiedBy, required_describedField hn, name_describedField, List.contains_iff_mem]
  rw [checkedFields, List.forall_mem_map]
  constructor
  · exact fun h n hrequired hn ↦ (hfield n hn).mp (h n hn) hrequired
  · exact fun h n hn ↦ (hfield n hn).mpr fun hrequired ↦ h n hrequired hn

/-- A schema that was built from fields requires none but its properties. -/
theorem mem_propertyNames_wrap_build {fields : List Field}
    (hdistinct : (fields.map Field.name).Nodup) (title : String) :
    ∀ n ∈ requiredNames (wrap (build fields title)),
      n ∈ propertyNames (wrap (build fields title)) := by
  intro n hn
  rw [requiredNames_wrap_build, List.mem_map] at hn
  obtain ⟨f, hf, rfl⟩ := hn
  rw [propertyNames, properties_wrap_build, Entries.ofPairs_of_nodup (by rwa [List.map_map]),
    Entries.keys, List.map_map]
  exact List.mem_map_of_mem (List.mem_of_mem_filter hf)

/-! ## An answer without anything else -/

/-- An answer that has the names, with null for each, and nothing else. -/
def nullAnswer (names : List String) : Entries String Json :=
  names.dedup.map fun n ↦ (n, .null)

@[simp] theorem keys_nullAnswer (names : List String) :
    Entries.keys (nullAnswer names) = names.dedup := by
  rw [Entries.keys, nullAnswer, List.map_map]
  exact List.map_id _

@[simp] theorem contains_nullAnswer_iff {names : List String} {n : String} :
    Entries.contains (nullAnswer names) n = true ↔ n ∈ names := by
  rw [Entries.contains_iff_mem_keys, keys_nullAnswer, List.mem_dedup]

theorem parse?_nullAnswer (names : List String) :
    Json.parse? (Json.object (nullAnswer names)).compact = some (.object (nullAnswer names)) := by
  have hnull : ∀ e ∈ nullAnswer names, e.2 = .null := by
    intro e he
    obtain ⟨n, -, rfl⟩ := List.mem_map.mp he
    rfl
  have hwf : (Json.object (nullAnswer names)).WellFormed := by
    refine Json.wellFormed_object_iff.mpr ⟨?_, fun e he ↦ ?_⟩
    · rw [keys_nullAnswer]
      exact List.nodup_dedup names
    · rw [hnull e he]
      trivial
  have hdepth : (Json.object (nullAnswer names)).depth ≤ Json.nestingLimit := by
    have hentries : Json.depthEntries (nullAnswer names) ≤ 0 := by
      refine Json.depthEntries_le_iff.mpr fun e he ↦ ?_
      rw [hnull e he]
      exact Nat.le_refl 0
    rw [Json.depth, Nat.le_zero.mp hentries]
    decide
  have hreread : (Json.object (nullAnswer names)).reread = .object (nullAnswer names) := by
    rw [Json.reread, Json.rereadEntries_eq_map]
    refine congrArg Json.object ((List.map_congr_left fun e he ↦ ?_).trans (List.map_id _))
    obtain ⟨n, v⟩ := e
    obtain rfl : v = .null := hnull _ he
    rfl
  rw [Json.parse?_compact hwf hdepth, hreread]

end Schema

namespace Library

open Schema

variable {l : Library} {name : String} {t : Template} {format : Json}

/-- Whatever the stored format is, answers are checked against the fields of its properties. -/
theorem checked_checkedFields (ht : l.get? name = some t)
    (hformat : t.responseFormat = some format) (answer : String) (nulls : Bool) :
    Checked (checkedFields format) (Json.parse? answer) nulls
      (l.checkResponse name answer nulls) := by
  rw [checkResponse_of_get? ht hformat]
  cases Json.parse? answer with
  | none => exact checked_none
  | some v =>
    cases v with
    | object es => exact checked_object es
    | _ => exact checked_of_not_object rfl

theorem checkResponse_eq_ok_iff (ht : l.get? name = some t)
    (hformat : t.responseFormat = some format) (answer : String) (nulls : Bool) :
    (∃ pairs, l.checkResponse name answer nulls = .ok pairs) ↔
      ∃ es, Json.parse? answer = some (.object es) ∧
        ∀ n ∈ requiredNames format, n ∈ propertyNames format →
          Entries.contains es n = true := by
  rw [(checked_checkedFields ht hformat answer nulls).succeeds_iff]
  simp only [satisfiedBy_checkedFields_iff]

/-- **What an accepted answer has.** An answer is accepted exactly if it is an object with all
required names that are properties of the format. It has all required names, whatever the answer,
exactly if all of them are properties. -/
theorem checkResponse_required_iff (ht : l.get? name = some t)
    (hformat : t.responseFormat = some format) :
    (∀ answer nulls, (∃ pairs, l.checkResponse name answer nulls = .ok pairs) ↔
      ∃ es, Json.parse? answer = some (.object es) ∧
        ∀ n ∈ requiredNames format, n ∈ propertyNames format → Entries.contains es n = true) ∧
      ((∀ answer nulls pairs, l.checkResponse name answer nulls = .ok pairs →
          ∃ es, Json.parse? answer = some (.object es) ∧ HasRequired format es) ↔
        ∀ n ∈ requiredNames format, n ∈ propertyNames format) := by
  have haccepted := checkResponse_eq_ok_iff ht hformat
  refine ⟨haccepted, ?_, ?_⟩
  · intro hall n hn
    -- the answer that has the properties and nothing else is accepted
    have hnulls := parse?_nullAnswer (propertyNames format)
    obtain ⟨pairs, hpairs⟩ := (haccepted _ false).mpr
      ⟨_, hnulls, fun m _ hm ↦ contains_nullAnswer_iff.mpr hm⟩
    obtain ⟨es, hes, hrequired⟩ := hall _ false pairs hpairs
    rw [hnulls] at hes
    obtain rfl := Json.object.inj (Option.some.inj hes)
    exact contains_nullAnswer_iff.mp (hrequired n hn)
  · intro hdescribed answer nulls pairs hpairs
    obtain ⟨es, hes, hrequired⟩ := (haccepted answer nulls).mp ⟨pairs, hpairs⟩
    exact ⟨es, hes, fun n hn ↦ hrequired n hn (hdescribed n hn)⟩

/-- An envelope whose schema describes one of two required names: answers without the other one are
accepted. -/
theorem checkResponse_required_iff_half_described :
    let format : Json := .object [("json_schema", .object [("schema", .object [
      ("properties", .object [("title", .null), ("notes", .bool true)]),
      ("required", .array [.string "title", .number (.integer 7), .string "tags"])])])]
    let t : Template := { attributes := [("response_format", format)] }
    let l : Library := { templates := [("t", t)] }
    l.get? "t" = some t ∧ t.responseFormat = some format ∧
      requiredNames format = ["title", "tags"] ∧ propertyNames format = ["title", "notes"] ∧
      ¬∀ answer nulls pairs, l.checkResponse "t" answer nulls = .ok pairs →
        ∃ es, Json.parse? answer = some (.object es) ∧ HasRequired format es := by
  intro format t l
  have ht : l.get? "t" = some t := rfl
  have hformat : t.responseFormat = some format := rfl
  refine ⟨ht, hformat, by decide, by decide, ?_⟩
  rw [(checkResponse_required_iff ht hformat).2]
  decide

/-- A format that was written by hand requires a name that is no property, and an answer without it
is accepted. -/
theorem not_hasRequired_of_checkResponse :
    let format : Json := .object [("required", .array [.string "x"])]
    let t : Template := { attributes := [("response_format", format)] }
    let l : Library := { templates := [("t", {})] }
    let l' : Library := { templates := [("t", t)] }
    l.setResponseFormat "t" "\x7b\"required\":[\"x\"]\x7d" = .ok l' ∧
      l'.get? "t" = some t ∧ t.responseFormat = some format ∧
      l'.checkResponse "t" "\x7b\x7d" false = .ok [] ∧
      ¬∃ es, Json.parse? "\x7b\x7d" = some (.object es) ∧ HasRequired format es := by
  intro format t l l'
  have ht : l'.get? "t" = some t := rfl
  have hformat : t.responseFormat = some format := rfl
  have hempty : Json.parse? "\x7b\x7d" = some (.object []) := rfl
  have hcompact : format.compact = "\x7b\"required\":[\"x\"]\x7d" := by decide +kernel
  have hwf : format.WellFormed := by
    refine Json.wellFormed_object_iff.mpr ⟨by decide, fun e he ↦ ?_⟩
    obtain rfl := List.mem_singleton.mp he
    exact ⟨trivial, trivial⟩
  have hparse : Json.parse? "\x7b\"required\":[\"x\"]\x7d" = some format := by
    rw [← hcompact]
    exact Json.parse?_compact hwf (by decide)
  refine ⟨?_, ht, hformat, ?_, ?_⟩
  · rw [setResponseFormat_eq, Schema.parseFormat, if_neg (by decide), hparse]
    rfl
  · rw [checkResponse_of_get? ht hformat, hempty]
    rfl
  · rintro ⟨es, hes, hrequired⟩
    rw [hempty] at hes
    obtain rfl := Json.object.inj (Option.some.inj hes)
    have hx : Entries.contains ([] : Entries String Json) "x" = true := hrequired "x" (by decide)
    cases hx

end Library

end PromptLibrary
