import PromptLibrary.Proofs.Json.WellFormed
import PromptLibrary.Proofs.Library.Change

/-!
# Well-formed libraries

A library is well-formed if no name occurs twice and the attributes of every template are a
well-formed object. Libraries that are read are well-formed, and every edit keeps a library
well-formed, provided that an added template is: the schemas that are built have distinct keys, and
the response formats that are written by hand have been read.
-/

namespace PromptLibrary

open Json

/-! ## Templates -/

namespace Template

/-- No object among the attributes repeats a key, and their integers are in range. -/
def WellFormed (t : Template) : Prop :=
  (Json.object t.attributes).WellFormed

theorem attributes_of_decode {budget : Nat} {d : Document} {t : Template}
    (h : decode budget d = some t) :
    ∃ r, d.record? ["prompt_text", "type", "subtype", "notes", "default_attributes",
        "prompt_system_use", "prompt_system_text"] budget = some r ∧
      r.optional "default_attributes" (Document.entries? Document.toJson? r.budget) [] =
        some t.attributes := by
  obtain ⟨r, hr, h⟩ := Option.bind_eq_some_iff.mp h
  obtain ⟨promptText, -, h⟩ := Option.bind_eq_some_iff.mp h
  obtain ⟨role, -, h⟩ := Option.bind_eq_some_iff.mp h
  obtain ⟨subtype, -, h⟩ := Option.bind_eq_some_iff.mp h
  obtain ⟨notes, -, h⟩ := Option.bind_eq_some_iff.mp h
  obtain ⟨attributes, hattributes, h⟩ := Option.bind_eq_some_iff.mp h
  obtain ⟨ownSystemPrompt, -, h⟩ := Option.bind_eq_some_iff.mp h
  obtain ⟨systemText, -, h⟩ := Option.bind_eq_some_iff.mp h
  obtain rfl := Option.some.inj h
  exact ⟨r, hr, hattributes⟩

theorem wellFormed_of_decode {budget : Nat} {d : Document} {t : Template}
    (h : decode budget d = some t) : t.WellFormed := by
  obtain ⟨r, -, hattributes⟩ := attributes_of_decode h
  rw [WellFormed]
  rcases Document.Record.optional_cases hattributes with ⟨d, hd⟩ | hempty
  · obtain ⟨hdistinct, hvalues⟩ := Document.of_entries? hd
    refine wellFormed_object_iff.mpr ⟨hdistinct, fun e he ↦ ?_⟩
    obtain ⟨n, d', -, hd'⟩ := hvalues e he
    exact Document.wellFormed_of_toJson? n d' e.2 hd'
  · rw [hempty]
    exact wellFormed_object_nil

theorem wellFormed_withoutKey (k : String) {v : Json} (h : v.WellFormed) :
    (withoutKey k v).WellFormed := by
  cases v with
  | object es => exact wellFormed_object_swapErase h
  | _ => exact h

theorem WellFormed.setResponseFormat {t : Template} {format : Option Json} (h : t.WellFormed)
    (hformat : ∀ v, format = some v → v.WellFormed) : (t.setResponseFormat format).WellFormed := by
  rw [Template.setResponseFormat]
  split
  · rename_i v hv
    have hsome : format = some v := (Option.filter_eq_some_iff.mp hv).1
    exact wellFormed_object_insert h (hformat v hsome)
  · exact wellFormed_object_modify (wellFormed_object_swapErase h) fun v hv ↦
      wellFormed_withoutKey responseFormatKey hv

end Template

/-! ## Response formats -/

namespace Schema

theorem wellFormed_propertyOfField (f : Field) : (propertyOfField f).WellFormed := by
  rw [propertyOfField, wellFormed_object_iff]
  split
  · simp [Entries.keys, WellFormed, WellFormedEntries]
  · simp [Entries.keys, WellFormed]

theorem wellFormed_build (fields : List Field) (title : String) :
    (build fields title).WellFormed := by
  have hproperties : (object (Entries.ofPairs
      (fields.map fun f ↦ (f.name, propertyOfField f)))).WellFormed := by
    refine wellFormed_object_ofPairs fun p hp ↦ ?_
    obtain ⟨f, -, rfl⟩ := List.mem_map.mp hp
    exact wellFormed_propertyOfField f
  have hrequired : ∀ fs : List Field,
      WellFormedItems (fs.map fun f ↦ .string f.name) := by
    intro fs
    induction fs with
    | nil => trivial
    | cons f fs ih => exact ⟨trivial, ih⟩
  exact ⟨by simp, trivial, trivial, hproperties, hrequired _, trivial⟩

theorem wellFormed_wrap {schema : Json} (h : schema.WellFormed) : (wrap schema).WellFormed := by
  rw [wrap, wellFormed_object_iff]
  simp [Entries.keys, WellFormed, WellFormedEntries, h]

theorem wellFormed_of_parseFormat {text : String} {v : Json} (h : parseFormat text = .ok v) :
    v.WellFormed := by
  rw [parseFormat] at h
  split at h
  · obtain rfl := Except.ok.inj h
    exact wellFormed_object_nil
  · split at h
    · cases h
    · rename_i es hes
      obtain rfl := Except.ok.inj h
      exact wellFormed_of_parse? hes
    · cases h

end Schema

/-! ## Libraries -/

/-- The names are distinct and the templates well-formed. -/
structure Library.WellFormed (l : Library) : Prop where
  /-- No name occurs twice. -/
  distinct : l.names.Nodup
  /-- Every template is well-formed. -/
  templates : ∀ e ∈ l.templates, e.2.WellFormed

namespace Library

theorem wellFormed_empty : WellFormed {} :=
  ⟨List.nodup_nil, fun _ h ↦ absurd h List.not_mem_nil⟩

/-! ### Reading -/

theorem templates_of_decode {budget : Nat} {d : Document} {l : Library}
    (h : decode budget d = some l) :
    ∃ r, d.record? ["header", "data"] budget = some r ∧
      r.optional "data" (Document.entries? Template.decode r.budget) [] = some l.templates := by
  obtain ⟨r, hr, h⟩ := Option.bind_eq_some_iff.mp h
  obtain ⟨header, -, h⟩ := Option.bind_eq_some_iff.mp h
  obtain ⟨templates, htemplates, h⟩ := Option.bind_eq_some_iff.mp h
  obtain rfl := Option.some.inj h
  exact ⟨r, hr, htemplates⟩

theorem wellFormed_of_decode {budget : Nat} {d : Document} {l : Library}
    (h : decode budget d = some l) : l.WellFormed := by
  obtain ⟨r, -, htemplates⟩ := templates_of_decode h
  rcases Document.Record.optional_cases htemplates with ⟨d, hd⟩ | hempty
  · obtain ⟨hdistinct, hvalues⟩ := Document.of_entries? hd
    refine ⟨hdistinct, fun e he ↦ ?_⟩
    obtain ⟨n, d', -, hd'⟩ := hvalues e he
    exact Template.wellFormed_of_decode hd'
  · refine ⟨?_, ?_⟩
    · rw [names, hempty]
      exact List.nodup_nil
    · rw [hempty]
      exact fun _ h ↦ absurd h List.not_mem_nil

theorem exists_decode_of_ofText {text : String} {path : Path} {l : Library}
    (h : ofText text path = .ok l) :
    ∃ d, Document.parse? text.toList = some d ∧ decode nestingLimit d = some l := by
  rw [ofText] at h
  split at h
  · rename_i l' hl'
    obtain rfl := Except.ok.inj h
    exact Option.bind_eq_some_iff.mp hl'
  · cases h

theorem wellFormed_of_ofText {text : String} {path : Path} {l : Library}
    (h : ofText text path = .ok l) : l.WellFormed := by
  obtain ⟨d, -, hd⟩ := exists_decode_of_ofText h
  exact wellFormed_of_decode hd

/-! ### Edits -/

theorem WellFormed.insert {l l' : Library} {name : String} {t : Template} (h : l.WellFormed)
    (ht : t.WellFormed) (hl' : l.insert name t = .ok l') : l'.WellFormed := by
  rw [insert_eq] at hl'
  split at hl'
  · cases hl'
  · split at hl'
    · cases hl'
    · obtain rfl := Except.ok.inj hl'
      refine ⟨Entries.nodup_keys_insert t h.distinct, fun e he ↦ ?_⟩
      rcases Entries.mem_insert he with heq | he
      · rwa [heq]
      · exact h.templates e he

theorem WellFormed.update {l l' : Library} {name : String} {f : Template → Template}
    (h : l.WellFormed) (hf : ∀ t, t.WellFormed → (f t).WellFormed)
    (hl' : l.update name f = .ok l') : l'.WellFormed := by
  rw [update_eq] at hl'
  cases hrequire : l.require name with
  | error e =>
    rw [hrequire] at hl'
    cases hl'
  | ok t =>
    rw [hrequire] at hl'
    obtain rfl := Except.ok.inj hl'
    refine ⟨?_, fun e he ↦ ?_⟩
    · rw [names, Entries.keys_modify]
      exact h.distinct
    · rcases Entries.mem_modify he with he | ⟨e', he', heq⟩
      · exact h.templates e he
      · rw [heq]
        exact hf _ (h.templates e' he')

theorem WellFormed.applyOutputSchema {l l' : Library} {name title : String}
    {fields : List Schema.Field} (h : l.WellFormed)
    (hl' : l.applyOutputSchema name fields title = .ok l') : l'.WellFormed := by
  refine h.update (fun t ht ↦ ht.setResponseFormat fun v hv ↦ ?_) hl'
  rw [formatOfFields] at hv
  split at hv
  · cases hv
  · obtain rfl := Option.some.inj hv
    exact Schema.wellFormed_wrap (Schema.wellFormed_build fields title)

theorem WellFormed.setResponseFormat {l l' : Library} {name text : String} (h : l.WellFormed)
    (hl' : l.setResponseFormat name text = .ok l') : l'.WellFormed := by
  rw [setResponseFormat_eq] at hl'
  cases hrequire : l.require name with
  | error e =>
    rw [hrequire] at hl'
    cases hl'
  | ok t =>
    rw [hrequire] at hl'
    cases hformat : Schema.parseFormat text with
    | error e =>
      rw [hformat] at hl'
      cases hl'
    | ok v =>
      rw [hformat] at hl'
      refine h.update (fun t ht ↦ ht.setResponseFormat fun w hw ↦ ?_) hl'
      obtain rfl := Option.some.inj hw
      exact Schema.wellFormed_of_parseFormat hformat

end Library

end PromptLibrary
