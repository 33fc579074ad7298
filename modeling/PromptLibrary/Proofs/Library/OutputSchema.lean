import PromptLibrary.Proofs.Library.Change
import PromptLibrary.Proofs.Placeholder.Scan
import PromptLibrary.Proofs.Schema
import PromptLibrary.Proofs.Template

/-!
# Editing the output schema of a template

The fields of a template's answer go a long way when they are edited and stored: a schema is built
from them, put into its envelope and stored under one of two attributes, and when the fields are
asked for again it is looked up, unwrapped and reconciled with the names that the prompt declares.
They come back as they were edited (`Library.outputFields_applyOutputSchema`), whatever was stored
before.

The names that the prompt declares are distinct, and this is what the schema needs of them. A prompt
without output placeholders has no fields, so there is nothing to come back when its response format
is removed.
-/

namespace PromptLibrary.Library

open Placeholder

variable {l : Library} {name : String} {t : Template}

theorem outputFields_of_get? (h : l.get? name = some t) :
    l.outputFields name =
      .ok (Schema.reconcile (Kind.output.scan t.promptText) t.responseFormat) := by
  rw [outputFields, require_of_get? h]
  rfl

theorem reconcile_setResponseFormat {fields : List Schema.Field}
    (h : Schema.FieldsOf (Kind.output.scan t.promptText) fields) (title : String) :
    Schema.reconcile (Kind.output.scan t.promptText)
      (t.setResponseFormat (formatOfFields fields title)).responseFormat = fields := by
  cases fields with
  | nil =>
    have hnone : Kind.output.scan t.promptText = [] := h.names_eq.symm
    rw [hnone]
    exact List.map_eq_nil_iff.mp (Schema.fieldsOf_reconcile [] _).names_eq
  | cons f fields =>
    have hformat : Template.substantial (formatOfFields (f :: fields) title) =
        some (Schema.wrap (Schema.build (f :: fields) title)) := rfl
    rw [t.responseFormat_setResponseFormat_of_some hformat]
    exact h.reconcile_wrap_build (Kind.nodup_scan _ _) title

/-- **Edits of an output schema are kept.** The fields of a template can be changed in any sequence
of changes to fields that are there, and the changed fields are stored; they are then the fields of
the template, and nothing but this template has changed. -/
theorem outputFields_applyOutputSchema (ht : l.get? name = some t)
    {changes : List (String × Schema.FieldChange)}
    (hchanges : ∀ e ∈ changes, e.1 ∈ Kind.output.scan t.promptText) (title : String) :
    ∃ fields edited l', l.outputFields name = .ok fields ∧
      Schema.changeAll? changes fields = some edited ∧
      l.applyOutputSchema name edited title = .ok l' ∧
      l'.outputFields name = .ok edited ∧
      l'.header = l.header ∧ l'.names = l.names ∧
      ∀ other, other ≠ name → l'.get? other = l.get? other := by
  obtain ⟨edited, hedited, hfields⟩ :=
    (Schema.fieldsOf_reconcile _ t.responseFormat).exists_changeAll? hchanges
  let store (t : Template) : Template := t.setResponseFormat (formatOfFields edited title)
  let l' : Library := { l with templates := Entries.modify name store l.templates }
  have hget : ∀ other, l'.get? other =
      if name == other then (l.get? other).map store else l.get? other :=
    fun other ↦ Entries.get?_modify name store l.templates other
  have ht' : l'.get? name = some (store t) := by
    rw [hget, if_pos BEq.rfl, ht]
    rfl
  refine ⟨_, edited, l', outputFields_of_get? ht, hedited, update_of_get? ht _, ?_, rfl,
    Entries.keys_modify _ _ _, ?_⟩
  · rw [outputFields_of_get? ht', Template.promptText_setResponseFormat,
      reconcile_setResponseFormat hfields]
  · intro other hother
    rw [hget, if_neg fun h ↦ hother (eq_of_beq h).symm]

/-- A format among the provider's parameters that is malformed in several places: the fields are
read from it as far as this is possible, and come back after some changes. -/
theorem outputFields_applyOutputSchema_malformed :
    let stored : Json := .object [("json_schema", .object [("schema", .object [
      ("properties", .object [
        ("tags", .object [("type", .string "array"), ("items", .null), ("description", .null)]),
        ("title", .bool true)]),
      ("required", .string "tags")])])]
    let t : Template :=
      { promptText := "@@ tags @@ and @@ title @@ and @@ tags @@"
        attributes := [("response_format", .object []),
          ("venice_parameters", .object [("response_format", stored)])] }
    let l : Library := { templates := [("t", t), ("other", t)] }
    let changes : List (String × Schema.FieldChange) := [("title", .required true),
      ("tags", .retype .array (some .integer)), ("tags", .describe "keywords"),
      ("title", .retype .boolean (some .number))]
    let edited : List Schema.Field := [⟨"tags", .array, "keywords", false, some .integer⟩,
      ⟨"title", .boolean, "", true, none⟩]
    l.get? "t" = some t ∧ (∀ e ∈ changes, e.1 ∈ Kind.output.scan t.promptText) ∧
      ∃ l', l.applyOutputSchema "t" edited "Out" = .ok l' ∧ l'.outputFields "t" = .ok edited ∧
        l'.get? "other" = some t := by
  intro stored t l changes edited
  have ht : l.get? "t" = some t := rfl
  have hscan : Kind.output.scan t.promptText = ["tags", "title"] := by decide +kernel
  have hchanges : ∀ e ∈ changes, e.1 ∈ Kind.output.scan t.promptText := by
    rw [hscan]
    decide
  obtain ⟨fields, fields', l', hfields, hedited, happly, hagain, -, -, hother⟩ :=
    outputFields_applyOutputSchema ht hchanges "Out"
  obtain rfl : fields' = edited := by
    rw [outputFields_of_get? ht, hscan] at hfields
    obtain rfl := Except.ok.inj hfields
    exact (Option.some.inj hedited).symm
  exact ⟨ht, hchanges, l', happly, hagain, hother "other" (by decide)⟩

end PromptLibrary.Library
