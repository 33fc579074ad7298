import PromptLibrary.Proofs.Json.Nesting
import PromptLibrary.Proofs.Json.RoundTrip
import PromptLibrary.Proofs.Library.WellFormed

/-!
# Reading back a library file

A library comes back from the text of its file: header, order of templates, and every field and
attribute in order. What is needed is that no object repeats a key and that the document of the
library is not nested deeper than a document may be. Then nothing but the floats among the
attributes can change (`Library.ofText_toText_eq_reread`), and if there are none the library is the
same (`Library.ofText_toText_of_depth_le`).

Records are written with all their fields and read by field names, so a record is read back field by
field; `Record.optional_field` is the step for one field.
-/

namespace PromptLibrary

open Json

/-! ## Records and entries -/

namespace Json.Document

/-- The documents of the values of some entries, under their keys. -/
def fieldsOf (es : Entries String Json) : Entries String Document :=
  es.map fun e ↦ (e.1, document e.2)

@[simp] theorem get?_fieldsOf (es : Entries String Json) (k : String) :
    Entries.get? (fieldsOf es) k = (Entries.get? es k).map document :=
  Entries.get?_map document es k

@[simp] theorem keys_fieldsOf (es : Entries String Json) :
    Entries.keys (fieldsOf es) = Entries.keys es :=
  Entries.keys_map document es

theorem map_members (es : Entries String Json) :
    (members es).map (fun m ↦ (decodeText m.1, m.2)) =
      (fieldsOf es).map fun e ↦ (some e.1, e.2) := by
  rw [members_eq_map, fieldsOf, List.map_map, List.map_map]
  refine List.map_congr_left fun e _ ↦ ?_
  dsimp only [Function.comp]
  rw [decodeText_textPieces]

theorem selectFields_of_map_eq {ms : List (List Piece × Document)}
    {fields : Entries String Document} (hdistinct : (Entries.keys fields).Nodup)
    (h : ms.map (fun m ↦ (decodeText m.1, m.2)) = fields.map fun e ↦ (some e.1, e.2))
    (names : List String) :
    selectFields names ms = some (fields.filter fun e ↦ names.contains e.1) := by
  induction fields generalizing ms with
  | nil =>
    obtain rfl := List.map_eq_nil_iff.mp h
    rfl
  | cons e fields ih =>
    obtain ⟨m, ms, rfl, hm, hms⟩ := List.map_eq_cons_iff.mp h
    obtain ⟨he, hdistinct⟩ := List.nodup_cons.mp hdistinct
    obtain ⟨hkey, hvalue⟩ := Prod.mk.inj hm
    have hnew : Entries.contains (fields.filter fun e ↦ names.contains e.1) e.1 = false := by
      rw [Entries.contains, List.any_eq_false]
      intro f hf hsame
      have hmem : f.1 ∈ Entries.keys fields := List.mem_map_of_mem (List.mem_filter.mp hf).1
      rw [eq_of_beq hsame] at hmem
      exact he hmem
    rw [selectFields, hkey, ih hdistinct hms, List.filter_cons, hvalue]
    simp only [Option.bind_eq_bind, Option.bind_some, hnew]
    cases names.contains e.1 <;> rfl

theorem selectFields_members {names : List String} {es : Entries String Json}
    (hdistinct : (Entries.keys es).Nodup) (hnames : ∀ k ∈ Entries.keys es, k ∈ names) :
    selectFields names (members es) = some (fieldsOf es) := by
  have hall : (fieldsOf es).filter (fun e ↦ names.contains e.1) = fieldsOf es := by
    refine List.filter_eq_self.mpr fun e he ↦ List.contains_iff_mem.mpr (hnames e.1 ?_)
    rw [← keys_fieldsOf]
    exact List.mem_map_of_mem he
  rw [selectFields_of_map_eq (by rwa [keys_fieldsOf]) (map_members es), hall]

theorem record?_object {names : List String} {es : Entries String Json}
    (hkeys : Entries.keys es = names) (hdistinct : names.Nodup) (budget : Nat) :
    record? names (budget + 1) (document (.object es)) = some ⟨fieldsOf es, false, budget⟩ := by
  subst hkeys
  rw [document, record?, selectFields_members hdistinct fun _ h ↦ h]
  rfl

theorem Record.optional_field {α : Type} {es : Entries String Json} {budget : Nat} {name : String}
    {v : Json} {decode : Document → Option α} {default a : α} (hv : Entries.get? es name = some v)
    (ha : decode (document v) = some a) :
    (Record.mk (fieldsOf es) false budget).optional name decode default = some a := by
  rw [optional, get?_fieldsOf, hv]
  exact ha

@[simp] theorem text?_document (s : String) : text? (document (.string s)) = some s := by
  rw [document, text?, decodeText_textPieces]

@[simp] theorem truth?_document (b : Bool) : truth? (document (.bool b)) = some b := by
  rw [document, truth?]

theorem choice?_document {α : Type} {choices : List (String × α)} {name : String} {a : α}
    (h : choices.lookup name = some a) (budget : Nat) :
    choice? choices budget (document (.string name)) = some a := by
  rw [document, choice?, decodeText_textPieces, Option.bind_some, h]

theorem entries?_document {α : Type} {decode : Nat → Document → Option α} {toJson : α → Json}
    {read : α → α} {es : Entries String α} {budget : Nat} (hdistinct : (Entries.keys es).Nodup)
    (hes : ∀ e ∈ es, decode budget (document (toJson e.2)) = some (read e.2)) :
    entries? decode (budget + 1) (document (.object (es.map fun e ↦ (e.1, toJson e.2)))) =
      some (es.map fun e ↦ (e.1, read e.2)) := by
  have hmap : (members (es.map fun e ↦ (e.1, toJson e.2))).mapM (fun m ↦ do
      return (← decodeText m.1, ← decode budget m.2)) =
        some (es.map fun e ↦ (e.1, read e.2)) := by
    clear hdistinct
    induction es with
    | nil => rfl
    | cons e es ih =>
      have hih := ih fun f hf ↦ hes f (List.mem_cons_of_mem _ hf)
      rw [List.map_cons, members, List.mapM_cons, hih, decodeText_textPieces,
        hes e List.mem_cons_self]
      rfl
  have hkeys : (Entries.keys (es.map fun e ↦ (e.1, read e.2))).Nodup := by
    rwa [Entries.keys_map]
  rw [document, entries?, hmap]
  exact congrArg some (Entries.ofPairs_of_nodup hkeys)

end Json.Document

/-! ## Libraries whose numbers are integers -/

/-- Every number among the attributes is an integer. -/
def Template.Integral (t : Template) : Prop :=
  (Json.object t.attributes).Integral

instance (t : Template) : Decidable t.Integral :=
  inferInstanceAs (Decidable (Json.object t.attributes).Integral)

/-- Every number among the attributes of the templates is an integer. -/
def Library.Integral (l : Library) : Prop :=
  ∀ e ∈ l.templates, e.2.Integral

instance (l : Library) : Decidable l.Integral :=
  inferInstanceAs (Decidable (∀ e ∈ l.templates, e.2.Integral))

/-! ## What comes back -/

/-- The template that comes back when a template is written and read. -/
def Template.reread (t : Template) : Template :=
  { t with attributes := rereadEntries t.attributes }

/-- The library that comes back when a library is written and read. -/
def Library.reread (l : Library) : Library :=
  { l with templates := l.templates.map fun e ↦ (e.1, e.2.reread) }

theorem Template.reread_eq_self {t : Template} (hwf : t.WellFormed) (hint : t.Integral) :
    t.reread = t := by
  rw [reread, rereadEntries_eq_self hwf.2 hint]

theorem Library.reread_eq_self {l : Library} (hwf : l.WellFormed) (hint : l.Integral) :
    l.reread = l := by
  have htemplates : l.templates.map (fun e ↦ (e.1, e.2.reread)) = l.templates := by
    refine (List.map_congr_left fun e he ↦ ?_).trans (List.map_id _)
    rw [Template.reread_eq_self (hwf.templates e he) (hint e he)]
    rfl
  rw [reread, htemplates]

/-! ## Headers and templates -/

theorem Header.decode_document (h : Header) (budget : Nat) :
    Header.decode (budget + 1) (document h.toJson) = some h := by
  rw [Header.decode, Header.toJson, Document.record?_object (by rfl) (by decide)]
  simp only [Option.bind_eq_bind, Option.bind_some]
  rw [Document.Record.optional_field (by rfl) (Document.text?_document _),
    Document.Record.optional_field (by rfl) (Document.text?_document _),
    Document.Record.optional_field (by rfl) (Document.text?_document _)]
  rfl

@[simp] theorem Role.lookup_name (r : Role) : Role.choices.lookup r.name = some r := by
  cases r <;> rfl

@[simp] theorem Subtype.lookup_name (t : Subtype) : Subtype.choices.lookup t.name = some t := by
  cases t <;> rfl

theorem Template.depth_toJson (t : Template) :
    t.toJson.depth = depthEntries t.attributes + 2 := by
  simp [Template.toJson, depth, depthEntries]

theorem Template.decode_document {t : Template} (hwf : t.WellFormed) {budget : Nat}
    (hdepth : t.toJson.depth ≤ budget) :
    Template.decode budget (document t.toJson) = some t.reread := by
  rw [Template.depth_toJson] at hdepth
  obtain ⟨budget, rfl⟩ : ∃ n, budget = n + 2 := ⟨budget - 2, by omega⟩
  -- the attributes are nested below the record, so they are read with one unit less
  have hattributes : Document.entries? Document.toJson? (budget + 1)
      (document (.object t.attributes)) = some (rereadEntries t.attributes) := by
    have hvalues : ∀ e ∈ t.attributes,
        Document.toJson? budget (document (id e.2)) = some e.2.reread := fun e he ↦
      toJson?_document budget e.2 (wellFormedEntries_iff.mp hwf.2 e he)
        (depthEntries_le_iff.mp (by omega) e he)
    have hread := Document.entries?_document hwf.1 hvalues
    rw [rereadEntries_eq_map]
    simpa only [id, List.map_id'] using hread
  rw [Template.decode, Template.toJson, Document.record?_object (by rfl) (by decide)]
  simp only [Option.bind_eq_bind, Option.bind_some]
  rw [Document.Record.optional_field (by rfl) (Document.text?_document _),
    Document.Record.optional_field (by rfl) (Document.choice?_document t.role.lookup_name _),
    Document.Record.optional_field (by rfl) (Document.choice?_document t.subtype.lookup_name _),
    Document.Record.optional_field (by rfl) (Document.text?_document _),
    Document.Record.optional_field (by rfl) hattributes,
    Document.Record.optional_field (by rfl) (Document.truth?_document _),
    Document.Record.optional_field (by rfl) (Document.text?_document _)]
  rfl

/-! ## Libraries -/

namespace Library

theorem depth_toJson (l : Library) :
    l.toJson.depth = max 1 (depthEntries (l.templates.map fun e ↦ (e.1, e.2.toJson)) + 1) + 1 := by
  simp [toJson, Header.toJson, depth, depthEntries]

theorem decode_document {l : Library} (hwf : l.WellFormed) {budget : Nat}
    (hdepth : l.toJson.depth ≤ budget) : decode budget (document l.toJson) = some l.reread := by
  rw [depth_toJson] at hdepth
  obtain ⟨budget, rfl⟩ : ∃ n, budget = n + 2 := ⟨budget - 2, by omega⟩
  have htemplates : Document.entries? Template.decode (budget + 1)
      (document (.object (l.templates.map fun e ↦ (e.1, e.2.toJson)))) =
        some l.reread.templates := by
    refine Document.entries?_document hwf.distinct fun e he ↦ ?_
    refine Template.decode_document (hwf.templates e he) ?_
    have hle : depthEntries (l.templates.map fun e ↦ (e.1, e.2.toJson)) ≤ budget := by omega
    exact depthEntries_le_iff.mp hle (e.1, e.2.toJson) (List.mem_map.mpr ⟨e, he, rfl⟩)
  rw [decode, toJson, Document.record?_object (by rfl) (by decide)]
  simp only [Option.bind_eq_bind, Option.bind_some]
  rw [Document.Record.optional_field (by rfl) (Header.decode_document _ _),
    Document.Record.optional_field (by rfl) htemplates]
  rfl

/-- Decoding the text of a library is decoding its document, whatever is read from it. -/
theorem decodeWith_toText {α : Type} (decode : Nat → Document → Option α) (l : Library) :
    decodeWith decode l.toText = decode nestingLimit (document l.toJson) := by
  rw [decodeWith, toText, pretty, String.toList_ofList, parse?_render, Option.bind_some]

/-- **A library comes back from its text**, apart from its floats, if its document is not nested too
deep. -/
theorem ofText_toText_eq_reread {l : Library} (hwf : l.WellFormed)
    (hdepth : l.toJson.depth ≤ nestingLimit) (path : Path) :
    ofText l.toText path = .ok l.reread := by
  rw [ofText, decodeWith_toText, decode_document hwf hdepth]

theorem ofText_toText_of_depth_le {l : Library} (hwf : l.WellFormed) (hint : l.Integral)
    (hdepth : l.toJson.depth ≤ nestingLimit) (path : Path) : ofText l.toText path = .ok l := by
  rw [ofText_toText_eq_reread hwf hdepth, reread_eq_self hwf hint]

end Library

end PromptLibrary
