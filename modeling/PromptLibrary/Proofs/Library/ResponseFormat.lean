import PromptLibrary.Proofs.Library.Operation
import PromptLibrary.Proofs.Library.OutputSchema

/-!
# Storing response formats

A response format has two places among the attributes, and is stored in the first of them. One that
counts hides what is in the second place; one that does not clears both places. Either way what is
read back is what was stored, and nothing else among the attributes has another value
(`Template.FormatStored`).

A response format that somebody has written is stored in a template of a library or refused, and
then nothing has changed (`Library.formatWritten_setResponseFormat`).
-/

namespace PromptLibrary

open Json

/-! ## Templates -/

/-- A template has become another one by storing a response format. -/
structure Template.FormatStored (t : Template) (format : Option Json) (t' : Template) : Prop where
  /-- A format that counts is read back. -/
  present : ∀ v, format = some v → v ≠ .null → v ≠ .object [] → t'.responseFormat = some v
  /-- There is no format after any other was stored. -/
  absent : (∀ v, format = some v → v = .null ∨ v = .object []) → t'.responseFormat = none
  /-- Attributes with other keys keep their values. -/
  attributes : ∀ k, k ≠ responseFormatKey → k ≠ providerParametersKey →
    Entries.get? t'.attributes k = Entries.get? t.attributes k
  /-- If the provider's parameters are an object, those with other keys keep their values. -/
  parameters : ∀ es, Entries.get? t.attributes providerParametersKey = some (.object es) →
    ∃ es', Entries.get? t'.attributes providerParametersKey = some (.object es') ∧
      ∀ k, k ≠ responseFormatKey → Entries.get? es' k = Entries.get? es k
  /-- Otherwise they stay as they are. -/
  noObject : (∀ es, Entries.get? t.attributes providerParametersKey ≠ some (.object es)) →
    Entries.get? t'.attributes providerParametersKey =
      Entries.get? t.attributes providerParametersKey
  /-- Nothing but the attributes has changed. -/
  rest : t' = { t with attributes := t'.attributes }

namespace Template

theorem substantial_eq_none_iff {format : Option Json} :
    substantial format = none ↔ ∀ v, format = some v → v = .null ∨ v = .object [] := by
  rw [substantial, Option.filter_eq_none_iff]
  refine forall₂_congr fun v _ ↦ ?_
  rcases v with _ | _ | _ | _ | _ | _ | _ <;> simp [isVoid]

theorem substantial_eq_some_of_ne {format : Option Json} {v : Json} (hv : format = some v)
    (hnull : v ≠ .null) (hempty : v ≠ .object []) : substantial format = some v := by
  cases hsubstantial : substantial format with
  | none => exact ((substantial_eq_none_iff.mp hsubstantial v hv).elim hnull hempty).elim
  | some w => rw [← (substantial_eq_some_iff.mp hsubstantial).1, hv]

theorem formatStored_setResponseFormat {t : Template} (h : t.WellFormed) (format : Option Json) :
    t.FormatStored format (t.setResponseFormat format) := by
  obtain ⟨hdistinct, hvalues⟩ := wellFormed_object_iff.mp h
  have hparameters : Entries.get? (t.setResponseFormat format).attributes providerParametersKey =
        Entries.get? t.attributes providerParametersKey ∨
      Entries.get? (t.setResponseFormat format).attributes providerParametersKey =
        (Entries.get? t.attributes providerParametersKey).map (withoutKey responseFormatKey) := by
    cases hsubstantial : substantial format with
    | some v => exact .inl (parameters_setResponseFormat_of_some t hsubstantial)
    | none => exact .inr (parameters_setResponseFormat_of_none hdistinct hsubstantial)
  refine ⟨fun v hv hnull hempty ↦ ?_, fun hvoid ↦ ?_, fun k ↦ ?_, fun es hes ↦ ?_, fun hno ↦ ?_, ?_⟩
  · rw [responseFormat_setResponseFormat h, substantial_eq_some_of_ne hv hnull hempty]
  · rw [responseFormat_setResponseFormat h, substantial_eq_none_iff.mpr hvoid]
  · exact get?_setResponseFormat_of_ne hdistinct format
  · rcases hparameters with hkept | hcleared
    · exact ⟨es, hkept.trans hes, fun _ _ ↦ rfl⟩
    · have hmem := (Entries.get?_eq_some_iff hdistinct).mp hes
      have hkeys : (Entries.keys es).Nodup := (wellFormed_object_iff.mp (hvalues _ hmem)).1
      rw [hes] at hcleared
      exact ⟨_, hcleared, fun k hk ↦ Entries.get?_swapErase_of_ne hkeys hk⟩
  · rcases hparameters with hkept | hcleared
    · exact hkept
    · rw [hcleared]
      cases hget : Entries.get? t.attributes providerParametersKey with
      | none => rfl
      | some v =>
        cases v with
        | object es => exact absurd hget (hno es)
        | _ => rfl
  · rw [setResponseFormat]
    split <;> rfl

end Template

/-! ## Libraries -/

/-- The text is that of an object; a blank text stands for an empty one. -/
def Schema.Writes (text : String) (es : Entries String Json) : Prop :=
  Text.isBlankText text = true ∧ es = [] ∨
    Text.isBlankText text = false ∧ Json.parse? text = some (.object es)

/-- What a text is read as, or why it is not. -/
theorem Schema.parseFormat_cases (text : String) :
    (∃ es, parseFormat text = .ok (.object es) ∧ Writes text es) ∨
      Text.isBlankText text = false ∧
        (parseFormat text = .error .invalidFormat ∧ Json.parse? text = none ∨
          ∃ v, parseFormat text = .error .formatNotObject ∧ Json.parse? text = some v ∧
            ∀ es, v ≠ .object es) := by
  rw [parseFormat]
  split
  · rename_i hblank
    exact .inl ⟨[], rfl, .inl ⟨hblank, rfl⟩⟩
  · rename_i hwritten
    have hblank : Text.isBlankText text = false := by simpa using hwritten
    split
    · rename_i hparse
      exact .inr ⟨hblank, .inl ⟨rfl, hparse⟩⟩
    · rename_i es hparse
      exact .inl ⟨es, rfl, .inr ⟨hblank, hparse⟩⟩
    · rename_i v hno hparse
      exact .inr ⟨hblank, .inr ⟨v, rfl, hparse, hno⟩⟩

/-- How it ends to store a response format that somebody has written: with a result and a
library. -/
inductive Library.FormatWritten (l : Library) (name text : String) :
    Except Error Unit → Library → Prop where
  /-- There is no such template. -/
  | notFound (h : l.get? name = none) :
    FormatWritten l name text (.error (.templateNotFound name)) l
  /-- The text cannot be read. -/
  | invalid (h : l.get? name ≠ none) (hblank : Text.isBlankText text = false)
    (hparse : Json.parse? text = none) :
    FormatWritten l name text (.error (.schemaParse .invalidFormat)) l
  /-- The text is not that of an object. -/
  | notObject (h : l.get? name ≠ none) {v : Json} (hblank : Text.isBlankText text = false)
    (hparse : Json.parse? text = some v) (hv : ∀ es, v ≠ .object es) :
    FormatWritten l name text (.error (.schemaParse .formatNotObject)) l
  /-- The object is stored and read back, unless it is empty; all other templates, the order of the
  templates and the header stay. -/
  | stored {t t' : Template} {es : Entries String Json} {l' : Library} (ht : l.get? name = some t)
    (hes : Schema.Writes text es) (ht' : l'.get? name = some t')
    (hstored : t.FormatStored (some (.object es)) t')
    (hformat : t'.responseFormat = if es = [] then none else some (.object es))
    (hothers : ∀ other, other ≠ name → l'.get? other = l.get? other)
    (hnames : l'.names = l.names) (hheader : l'.header = l.header) :
    FormatWritten l name text (.ok ()) l'

namespace Library

variable {l : Library} {name text : String} {t : Template}

/-- The library with a response format for one of its templates. -/
def withFormat (l : Library) (name : String) (v : Json) : Library :=
  { l with templates := Entries.modify name (·.setResponseFormat (some v)) l.templates }

theorem get?_withFormat (l : Library) (name : String) (v : Json) :
    (l.withFormat name v).get? name = (l.get? name).map (·.setResponseFormat (some v)) := by
  rw [get?, withFormat, Entries.get?_modify, if_pos BEq.rfl]
  rfl

theorem get?_withFormat_of_ne (l : Library) {name other : String} (h : other ≠ name) (v : Json) :
    (l.withFormat name v).get? other = l.get? other := by
  rw [get?, withFormat, Entries.get?_modify, if_neg (by simpa using h.symm)]
  rfl

theorem setResponseFormat_of_none (ht : l.get? name = none) (text : String) :
    l.setResponseFormat name text = .error (.templateNotFound name) := by
  rw [setResponseFormat_eq, require_of_none ht]
  rfl

theorem setResponseFormat_of_get? (ht : l.get? name = some t) (text : String) :
    l.setResponseFormat name text =
      ((Schema.parseFormat text).mapError Error.schemaParse).map (l.withFormat name) := by
  rw [setResponseFormat_eq, require_of_get? ht]
  cases Schema.parseFormat text with
  | error e => rfl
  | ok v => exact update_of_get? ht _

theorem formatWritten_withFormat (h : l.WellFormed) (ht : l.get? name = some t)
    {es : Entries String Json} (hes : Schema.Writes text es) :
    l.FormatWritten name text (.ok ()) (l.withFormat name (.object es)) := by
  have hwf : t.WellFormed := h.templates _ ((Entries.get?_eq_some_iff h.distinct).mp ht)
  have ht' : (l.withFormat name (.object es)).get? name =
      some (t.setResponseFormat (some (.object es))) := by
    rw [get?_withFormat, ht, Option.map_some]
  refine .stored ht hes ht' (Template.formatStored_setResponseFormat hwf _) ?_
    (fun other hne ↦ l.get?_withFormat_of_ne hne _) (Entries.keys_modify _ _ _) rfl
  rw [Template.responseFormat_setResponseFormat hwf]
  cases es <;> rfl

/-- **Response formats are stored as they are given.** A template reads back the response format
that was stored, and nothing else about it has changed. Of a response format that somebody has
written a library stores the object that it is, or changes nothing and reports why. -/
theorem formatWritten_setResponseFormat :
    (∀ t : Template, t.WellFormed → ∀ format, t.FormatStored format (t.setResponseFormat format)) ∧
    ∀ l : Library, l.WellFormed → ∀ name text,
      let done := perform (Change.setResponseFormat name text) l
      l.FormatWritten name text done.1 done.2 := by
  refine ⟨fun t ↦ Template.formatStored_setResponseFormat, fun l h name text ↦ ?_⟩
  dsimp only
  rw [Change.perform_setResponseFormat]
  cases ht : l.get? name with
  | none =>
    rw [require_of_none ht]
    exact .notFound ht
  | some t =>
    have hsome : l.get? name ≠ none := by simp [ht]
    rw [require_of_get? ht]
    rcases Schema.parseFormat_cases text with
      ⟨es, hformat, hes⟩ | ⟨hblank, ⟨hformat, hparse⟩ | ⟨v, hformat, hparse, hv⟩⟩
    · rw [hformat]
      dsimp only
      rw [Change.perform_update, require_of_get? ht]
      exact formatWritten_withFormat h ht hes
    · rw [hformat]
      exact .invalid hsome hblank hparse
    · rw [hformat]
      exact .notObject hsome hblank hparse hv

/-- A template has a response format among the provider's parameters. A new one hides it, null
clears it and nothing else among these parameters, and so does a blank text that is written for
it. -/
theorem formatWritten_setResponseFormat_hidden :
    let hidden := Json.object [("type", .string "json_object")]
    let format := Json.object [("enum", .array [])]
    let t : Template :=
      { attributes := [("venice_parameters", .object [("response_format", hidden),
          ("stop", .null), ("character_slug", .null)])] }
    let l : Library := { templates := [("t", t)] }
    let written := perform (Change.setResponseFormat "t" " \n") l
    t.responseFormat = some hidden ∧ l.WellFormed ∧
      (t.setResponseFormat (some format)).responseFormat = some format ∧
      (∃ es, Entries.get? (t.setResponseFormat (some .null)).attributes "venice_parameters" =
        some (.object es) ∧ Entries.get? es "stop" = some .null) ∧
      ∃ u, written.2.get? "t" = some u ∧ u.responseFormat = none := by
  intro hidden format t l written
  have ht : t.WellFormed := by
    simp [t, hidden, Template.WellFormed, Json.WellFormed, WellFormedEntries]
  have hl : l.WellFormed := ⟨by decide, List.forall_mem_singleton.mpr ht⟩
  obtain ⟨htemplate, hlibrary⟩ := formatWritten_setResponseFormat
  refine ⟨rfl, hl, ?_, ?_, ?_⟩
  · exact (htemplate t ht (some format)).present _ rfl (by simp [format]) (by simp [format])
  · obtain ⟨es, hes, hothers⟩ := (htemplate t ht (some .null)).parameters _ rfl
    exact ⟨es, hes, hothers "stop" (by decide)⟩
  · have hwritten : l.FormatWritten "t" " \n" written.1 written.2 := hlibrary l hl "t" " \n"
    have hblank : Text.isBlankText " \n" = true := by decide
    generalize written.1 = result, written.2 = l' at hwritten
    cases hwritten with
    | notFound h => cases h
    | invalid _ hnot | notObject _ hnot => simp [hblank] at hnot
    | stored _ hes hget _ hformat =>
      refine ⟨_, hget, hformat.trans (if_pos ?_)⟩
      rcases hes with ⟨-, hempty⟩ | ⟨hnot, -⟩
      · exact hempty
      · simp [hblank] at hnot

end Library

end PromptLibrary
