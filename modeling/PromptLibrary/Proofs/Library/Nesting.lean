import PromptLibrary.Proofs.Json.Nesting
import PromptLibrary.Proofs.Library.RoundTrip

/-!
# How deep a library may be nested

An attribute of a template lies four containers deep in the document of its library: in the library,
among the templates, in its template, among the attributes. A library comes back from its text if
its document is not nested deeper than a document may be, and otherwise the text is refused
(`Library.ofText_toText`). A library that was read is always of the first kind
(`Library.depth_toJson_le_of_ofText`), so it can be saved and loaded again as long as nothing deeper
is put into it.
-/

namespace PromptLibrary

open Json

/-! ## Fields that were written -/

namespace Json.Document

theorem optional_of_record?_object {α : Type} {names : List String} {es : Entries String Json}
    {budget : Nat} {r : Record} {name : String} {v : Json} {decode : Document → Option α}
    {default : α} (h : record? names budget (document (.object es)) = some r)
    (hkeys : Entries.keys es = names) (hdistinct : names.Nodup)
    (hv : Entries.get? es name = some v) :
    r.optional name decode default = decode (document v) := by
  obtain rfl := budget_of_record? h
  rw [record?_object hkeys hdistinct] at h
  rw [← Option.some.inj h, Record.optional, get?_fieldsOf, hv]
  rfl

end Json.Document

/-! ## Templates -/

namespace Template

/-- Attributes that were read leave room for the two containers around them. -/
theorem depth_le_of_decode {budget : Nat} {d : Document} {t : Template}
    (h : decode budget d = some t) : ∀ a ∈ t.attributes, a.2.depth + 2 ≤ budget := by
  obtain ⟨r, hr, hattributes⟩ := attributes_of_decode h
  have hbudget := Document.budget_of_record? hr
  intro a ha
  rcases Document.Record.optional_cases hattributes with ⟨d, hd⟩ | hempty
  · obtain ⟨n, d', hn, hd'⟩ := (Document.of_entries? hd).2 a ha
    have hdepth := Document.depth_le_of_toJson? n d' a.2 hd'
    omega
  · rw [hempty] at ha
    exact absurd ha List.not_mem_nil

theorem depth_toJson_le_of_decode_document {budget : Nat} {t t' : Template}
    (h : decode budget (document t.toJson) = some t') : t.toJson.depth ≤ budget := by
  obtain ⟨r, hr, hattributes⟩ := attributes_of_decode h
  have hbudget := Document.budget_of_record? hr
  rw [Document.optional_of_record?_object hr (by rfl) (by decide) (by rfl)] at hattributes
  obtain ⟨n, hn, hvalues⟩ := Document.of_entries?_document hattributes
  have hdepth : depthEntries t.attributes ≤ n := by
    refine depthEntries_le_iff.mpr fun a ha ↦ ?_
    obtain ⟨w, hw⟩ := hvalues a ha
    exact Document.depth_le_of_toJson?_document n a.2 w hw
  rw [depth_toJson]
  omega

end Template

/-! ## Libraries -/

namespace Library

/-- The depth of a library is that of its deepest attribute and four levels more. -/
theorem depth_toJson_le_iff {l : Library} {n : Nat} (hn : 4 ≤ n) :
    l.toJson.depth ≤ n ↔ ∀ e ∈ l.templates, ∀ a ∈ e.2.attributes, a.2.depth + 4 ≤ n := by
  rw [depth_toJson]
  constructor
  · intro h e he a ha
    have hmem := List.mem_map_of_mem (f := fun e ↦ (e.1, e.2.toJson)) he
    have htemplate : e.2.toJson.depth ≤ n - 2 := depthEntries_le_iff.mp (by omega) _ hmem
    rw [Template.depth_toJson] at htemplate
    have hattribute : a.2.depth ≤ n - 4 := depthEntries_le_iff.mp (by omega) a ha
    omega
  · intro h
    have htemplates : depthEntries (l.templates.map fun e ↦ (e.1, e.2.toJson)) ≤ n - 2 := by
      refine depthEntries_le_iff.mpr fun p hp ↦ ?_
      obtain ⟨e, he, rfl⟩ := List.mem_map.mp hp
      have hattributes : depthEntries e.2.attributes ≤ n - 4 := by
        refine depthEntries_le_iff.mpr fun a ha ↦ ?_
        have hattribute := h e he a ha
        omega
      rw [Template.depth_toJson]
      omega
    omega

theorem depth_toJson_le_of_decode {budget : Nat} {d : Document} {l : Library}
    (hbudget : 4 ≤ budget) (h : decode budget d = some l) : l.toJson.depth ≤ budget := by
  obtain ⟨r, hr, htemplates⟩ := templates_of_decode h
  have hrest := Document.budget_of_record? hr
  refine (depth_toJson_le_iff hbudget).mpr fun e he a ha ↦ ?_
  rcases Document.Record.optional_cases htemplates with ⟨d, hd⟩ | hempty
  · obtain ⟨n, d', hn, hd'⟩ := (Document.of_entries? hd).2 e he
    have hdepth := Template.depth_le_of_decode hd' a ha
    omega
  · rw [hempty] at he
    exact absurd he List.not_mem_nil

theorem depth_toJson_le_of_ofText {text : String} {path : Path} {l : Library}
    (h : ofText text path = .ok l) : l.toJson.depth ≤ nestingLimit := by
  obtain ⟨d, -, hd⟩ := exists_decode_of_ofText h
  exact depth_toJson_le_of_decode (by decide) hd

theorem depth_toJson_le_of_decode_document {budget : Nat} {l l' : Library}
    (h : decode budget (document l.toJson) = some l') : l.toJson.depth ≤ budget := by
  obtain ⟨r, hr, htemplates⟩ := templates_of_decode h
  have hbudget := Document.budget_of_record? hr
  rw [Document.optional_of_record?_object hr (by rfl) (by decide) (by rfl)] at htemplates
  obtain ⟨n, hn, hvalues⟩ := Document.of_entries?_document htemplates
  have hdepth : depthEntries (l.templates.map fun e ↦ (e.1, e.2.toJson)) ≤ n := by
    refine depthEntries_le_iff.mpr fun p hp ↦ ?_
    obtain ⟨t, ht⟩ := hvalues p hp
    obtain ⟨e, he, rfl⟩ := List.mem_map.mp hp
    exact Template.depth_toJson_le_of_decode_document ht
  rw [depth_toJson]
  omega

theorem ofText_toText_of_not_depth_le {l : Library}
    (hdepth : ¬l.toJson.depth ≤ nestingLimit) (path : Path) :
    ofText l.toText path = .error (.libraryParse path) := by
  have hnone : decode nestingLimit (document l.toJson) = none := by
    refine Option.eq_none_iff_forall_ne_some.mpr fun l' hl' ↦ ?_
    exact hdepth (depth_toJson_le_of_decode_document hl')
  rw [ofText, decodeWith_toText, hnone]

/-- **A library comes back from its text exactly if it is not nested too deep**; otherwise the text
is refused. -/
theorem ofText_toText {l : Library} (hwf : l.WellFormed) (hint : l.Integral) (path : Path) :
    ofText l.toText path =
      if l.toJson.depth ≤ nestingLimit then .ok l else .error (.libraryParse path) := by
  by_cases hdepth : l.toJson.depth ≤ nestingLimit
  · rw [if_pos hdepth]
    exact ofText_toText_of_depth_le hwf hint hdepth path
  · rw [if_neg hdepth]
    exact ofText_toText_of_not_depth_le hdepth path

/-- Every kind of value is among the attributes, with the extreme integers, empty containers, keys
in no order, and strings that need every escape. -/
theorem ofText_toText_every_kind :
    let nested : Json := .array [.array [], .object [], .object [("z", .null), ("a", .array
      [.bool true, .number (.integer (-0x8000_0000_0000_0000)),
        .number (.integer 0xFFFF_FFFF_FFFF_FFFF)])]]
    let odd : String := "\x00\x1f\x7f\"\\/\n\r\t é 😀"
    let t : Template := { notes := odd, attributes := [("venice", nested), ("", .string odd)] }
    let l : Library :=
      { header := ⟨odd, "", "prompt_library"⟩,
        templates := [("", { promptText := odd, role := .system, ownSystemPrompt := true }),
          (odd, t)] }
    l.WellFormed ∧ l.Integral ∧ ofText l.toText ⟨"/lib/prompts.json"⟩ = .ok l := by
  intro nested odd t l
  have hwf : l.WellFormed := by
    refine ⟨by decide, ?_⟩
    simp [l, t, nested, Template.WellFormed, Json.WellFormed, WellFormedEntries, WellFormedItems,
      Number.InRange]
  have hint : l.Integral := by decide
  have hread := ofText_toText hwf hint ⟨"/lib/prompts.json"⟩
  rw [if_pos (by decide)] at hread
  exact ⟨hwf, hint, hread⟩

end Library

end PromptLibrary
