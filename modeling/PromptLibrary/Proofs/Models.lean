import PromptLibrary.Proofs.Models.Layout
import PromptLibrary.Proofs.Store.Memory

/-!
# The two layouts of a list of models

In either layout a model that is not said to be able to do something is not. But the layouts differ
where a model has no name: a plain record gives it the empty name, a listing that of its id. So they
mean the same exactly if every model without a name has an empty id (`ModelInfo.fetch_layouts_iff`).

Every list of models has files of both layouts: the texts that are written without the parts that
are not given (`ModelEntry.plainFile_plainText`, `ModelEntry.listingFile_listingText`).
-/

namespace PromptLibrary

open Json

/-! ## Writing -/

namespace Json

/-- A well-formed value that is not nested deeper than a bound. -/
def Shallow (bound : Nat) (v : Json) : Prop :=
  v.WellFormed ∧ v.depth ≤ bound

theorem shallow_string (n : Nat) (s : String) : Shallow n (.string s) :=
  ⟨trivial, Nat.zero_le n⟩

theorem shallow_bool (n : Nat) (b : Bool) : Shallow n (.bool b) :=
  ⟨trivial, Nat.zero_le n⟩

theorem shallow_array {n : Nat} {vs : List Json} (h : ∀ v ∈ vs, Shallow n v) :
    Shallow (n + 1) (.array vs) := by
  have hitems : WellFormedItems vs ∧ depthItems vs ≤ n := by
    induction vs with
    | nil => exact ⟨trivial, Nat.zero_le n⟩
    | cons v vs ih =>
      obtain ⟨hv, hvs⟩ := List.forall_mem_cons.mp h
      exact ⟨⟨hv.1, (ih hvs).1⟩, Nat.max_le.mpr ⟨hv.2, (ih hvs).2⟩⟩
  exact ⟨hitems.1, Nat.succ_le_succ hitems.2⟩

theorem shallow_object {n : Nat} {ms : Entries String Json} (hdistinct : (Entries.keys ms).Nodup)
    (h : ∀ m ∈ ms, Shallow n m.2) : Shallow (n + 1) (.object ms) :=
  ⟨wellFormed_object_iff.mpr ⟨hdistinct, fun m hm ↦ (h m hm).1⟩,
    Nat.succ_le_succ (depthEntries_le_iff.mpr fun m hm ↦ (h m hm).2)⟩

theorem Shallow.isSome_parse?_compact {n : Nat} {v : Json} (h : Shallow n v)
    (hn : n ≤ nestingLimit) : (Json.parse? v.compact).isSome = true := by
  rw [parse?_compact h.1 (h.2.trans hn)]
  rfl

/-- The members of an object for the parts that are given, under their names. -/
def given (names : List String) (parts : List (Option Json)) : Entries String Json :=
  (names.zip parts).filterMap fun p ↦ p.2.map (p.1, ·)

/-- An object as a part that is given unless it is empty. -/
def nonempty (ms : Entries String Json) : Option Json :=
  if ms.isEmpty then none else some (.object ms)

section Given

variable {names : List String} {parts : List (Option Json)}

theorem keys_given_sublist (names : List String) (parts : List (Option Json)) :
    (Entries.keys (given names parts)).Sublist names := by
  induction names generalizing parts with
  | nil => exact .slnil
  | cons name names ih =>
    rcases parts with _ | ⟨_ | v, parts⟩
    · exact List.nil_sublist _
    · exact (ih parts).cons name
    · exact (ih parts).cons_cons name

theorem nodup_given (h : names.Nodup) (parts : List (Option Json)) :
    (Entries.keys (given names parts)).Nodup :=
  (keys_given_sublist names parts).nodup h

theorem get?_given (h : names.Nodup) (parts : List (Option Json)) (key : String) :
    Entries.get? (given names parts) key = ((names.zip parts).lookup key).join := by
  induction names generalizing parts with
  | nil => rfl
  | cons name names ih =>
    obtain ⟨hname, hnames⟩ := List.nodup_cons.mp h
    rcases parts with _ | ⟨part, parts⟩
    · rfl
    have hrest := ih hnames parts
    by_cases hkey : key = name
    · subst hkey
      rw [List.zip_cons_cons, List.lookup_cons_self]
      cases part with
      | none =>
        refine Entries.get?_eq_none_iff.mpr fun e he ↦ beq_eq_false_iff_ne.mpr ?_
        rintro rfl
        exact hname ((keys_given_sublist names parts).subset (List.mem_map_of_mem he))
      | some v => exact (Entries.get?_cons _ _ _).trans (if_pos BEq.rfl)
    · have hne : (key == name) = false := beq_eq_false_iff_ne.mpr hkey
      rw [List.zip_cons_cons, List.lookup_cons, hne, ← hrest]
      cases part with
      | none => rfl
      | some v => exact (Entries.get?_cons _ _ _).trans (if_neg (by simpa using Ne.symm hkey))

theorem shallow_given {n : Nat} (names : List String)
    (h : ∀ part ∈ parts, ∀ v ∈ part, Shallow n v) :
    ∀ m ∈ given names parts, Shallow n m.2 := by
  intro m hm
  obtain ⟨p, hp, hpart⟩ := List.mem_filterMap.mp hm
  obtain ⟨v, hv, rfl⟩ := Option.map_eq_some_iff.mp hpart
  exact h p.2 (List.of_mem_zip hp).2 v hv

theorem shallow_map {α : Type} {n : Nat} {toJson : α → Json} (h : ∀ a, Shallow n (toJson a))
    (part : Option α) : ∀ v ∈ part.map toJson, Shallow n v := by
  rintro v hv
  obtain ⟨a, -, rfl⟩ := Option.mem_map.mp hv
  exact h a

theorem shallow_nonempty {n : Nat} {ms : Entries String Json} (hdistinct : (Entries.keys ms).Nodup)
    (h : ∀ m ∈ ms, Shallow n m.2) : ∀ v ∈ nonempty ms, Shallow (n + 1) v := by
  intro v hv
  rw [nonempty] at hv
  split at hv
  · cases hv
  · obtain rfl := Option.some.inj hv
    exact shallow_object hdistinct h

end Given

namespace Document

variable {shape : Entries String Document → Prop} {ms : Entries String Json} {key : String}

theorem object_document (h : shape (fieldsOf ms)) (hdistinct : (Entries.keys ms).Nodup) :
    Object shape (document (.object ms)) :=
  ⟨members ms, fieldsOf ms, rfl, by rwa [keys_fieldsOf], map_members ms, h⟩

theorem part_fieldsOf {α : Type} {toJson : α → Json} {decode : Document → Option α}
    (hdecode : ∀ a, decode (document (toJson a)) = some a) (part : Option α)
    (h : Entries.get? ms key = part.map toJson) :
    (Entries.get? (fieldsOf ms) key).map decode = part.map some := by
  rw [get?_fieldsOf, h, Option.map_map, Option.map_map]
  exact congrArg (Option.map · part) (funext hdecode)

theorem nested_fieldsOf {below : Entries String Json} (hdistinct : (Entries.keys below).Nodup)
    (hshape : shape (fieldsOf below)) (h : Entries.get? ms key = nonempty below) :
    Nested shape (fieldsOf ms) key := by
  rw [Nested, get?_fieldsOf, h]
  cases below with
  | nil => exact hshape
  | cons m below => exact object_document hshape hdistinct

end Document

end Json

namespace ModelEntry

open Document

/-! ### Members -/

/-- The members of a plain record. -/
def plainMembers (e : ModelEntry) : Entries String Json :=
  given ["id", "name", "supports_response_schema", "supports_reasoning"]
    [some (.string e.id), e.name.map .string, e.responseSchema.map .bool, e.reasoning.map .bool]

/-- The members for what a listed model can do. -/
def capabilityMembers (e : ModelEntry) : Entries String Json :=
  given ["supportsResponseSchema", "supportsReasoning"]
    [e.responseSchema.map .bool, e.reasoning.map .bool]

/-- The members of the description of a listed model. -/
def specMembers (e : ModelEntry) : Entries String Json :=
  given ["name", "capabilities"] [e.name.map .string, nonempty e.capabilityMembers]

/-- The members of a listed model. -/
def listedMembers (e : ModelEntry) : Entries String Json :=
  given ["id", "model_spec"] [some (.string e.id), nonempty e.specMembers]

theorem plain_fieldsOf (e : ModelEntry) : e.Plain (fieldsOf e.plainMembers) where
  id := part_fieldsOf text?_document (some e.id) (get?_given (by decide) _ "id")
  name := part_fieldsOf text?_document e.name (get?_given (by decide) _ "name")
  responseSchema := part_fieldsOf truth?_document e.responseSchema
    (get?_given (by decide) _ "supports_response_schema")
  reasoning := part_fieldsOf truth?_document e.reasoning
    (get?_given (by decide) _ "supports_reasoning")

theorem capabilities_fieldsOf (e : ModelEntry) :
    e.Capabilities (fieldsOf e.capabilityMembers) where
  responseSchema := part_fieldsOf truth?_document e.responseSchema
    (get?_given (by decide) _ "supportsResponseSchema")
  reasoning := part_fieldsOf truth?_document e.reasoning
    (get?_given (by decide) _ "supportsReasoning")

theorem spec_fieldsOf (e : ModelEntry) : e.Spec (fieldsOf e.specMembers) where
  name := part_fieldsOf text?_document e.name (get?_given (by decide) _ "name")
  capabilities := nested_fieldsOf (nodup_given (by decide) _) (capabilities_fieldsOf e)
    (get?_given (by decide) _ "capabilities")

theorem listed_fieldsOf (e : ModelEntry) : e.Listed (fieldsOf e.listedMembers) where
  id := part_fieldsOf text?_document (some e.id) (get?_given (by decide) _ "id")
  spec := nested_fieldsOf (nodup_given (by decide) _) (spec_fieldsOf e)
    (get?_given (by decide) _ "model_spec")

theorem shallow_plain (e : ModelEntry) : Shallow 1 (.object e.plainMembers) := by
  refine shallow_object (nodup_given (by decide) _) (shallow_given _ ?_)
  simp only [List.forall_mem_cons]
  exact ⟨shallow_map (shallow_string 0) (some e.id), shallow_map (shallow_string 0) _,
    shallow_map (shallow_bool 0) _, shallow_map (shallow_bool 0) _, nofun⟩

theorem shallow_listed (e : ModelEntry) : Shallow 3 (.object e.listedMembers) := by
  have hcapabilities : ∀ m ∈ e.capabilityMembers, Shallow 0 m.2 := by
    refine shallow_given _ ?_
    simp only [List.forall_mem_cons]
    exact ⟨shallow_map (shallow_bool 0) _, shallow_map (shallow_bool 0) _, nofun⟩
  have hspec : ∀ m ∈ e.specMembers, Shallow 1 m.2 := by
    refine shallow_given _ ?_
    simp only [List.forall_mem_cons]
    exact ⟨shallow_map (shallow_string 1) _,
      shallow_nonempty (nodup_given (by decide) _) hcapabilities, nofun⟩
  refine shallow_object (nodup_given (by decide) _) (shallow_given _ ?_)
  simp only [List.forall_mem_cons]
  exact ⟨shallow_map (shallow_string 2) (some e.id),
    shallow_nonempty (nodup_given (by decide) _) hspec, nofun⟩

/-! ### Texts -/

/-- The text of a file of plain records. -/
def plainText (es : List ModelEntry) : String :=
  (Json.array (es.map fun e ↦ .object e.plainMembers)).compact

/-- The text of a file with a listing. -/
def listingText (es : List ModelEntry) : String :=
  (Json.object [("data", .array (es.map fun e ↦ .object e.listedMembers))]).compact

theorem forall₂_documents {written : ModelEntry → Document → Prop} {write : ModelEntry → Json}
    (h : ∀ e, written e (document (write e))) (es : List ModelEntry) :
    List.Forall₂ written es (documents (es.map write)) := by
  induction es with
  | nil => exact .nil
  | cons e es ih => exact .cons (h e) ih

theorem shallow_map {n : Nat} {write : ModelEntry → Json} (h : ∀ e, Shallow n (write e))
    (es : List ModelEntry) : Shallow (n + 1) (.array (es.map write)) := by
  refine shallow_array fun v hv ↦ ?_
  obtain ⟨e, -, rfl⟩ := List.mem_map.mp hv
  exact h e

/-- Every list of models has a file of plain records. -/
theorem plainFile_plainText (es : List ModelEntry) : PlainFile es (plainText es) := by
  refine ⟨(shallow_map shallow_plain es).isSome_parse?_compact (by decide), _, ?_,
    forall₂_documents (fun e ↦ object_document (plain_fieldsOf e) (nodup_given (by decide) _)) es⟩
  rw [plainText, compact, String.toList_ofList, parse?_render, document]

theorem listing_fieldsOf (es : List ModelEntry) :
    Listing es (fieldsOf [("data", .array (es.map fun e ↦ .object e.listedMembers))]) :=
  ⟨_, rfl, forall₂_documents
    (fun e ↦ object_document (listed_fieldsOf e) (nodup_given (by decide) _)) es⟩

/-- Every list of models has a file with a listing. -/
theorem listingFile_listingText (es : List ModelEntry) : ListingFile es (listingText es) := by
  have hshallow : Shallow 5 (.object [("data", .array (es.map fun e ↦ .object e.listedMembers))]) :=
    shallow_object (List.nodup_singleton _)
      (List.forall_mem_singleton.mpr (shallow_map shallow_listed es))
  have hobject := object_document (listing_fieldsOf es) (List.nodup_singleton _)
  refine ⟨hshallow.isSome_parse?_compact (by decide), _, ?_, hobject⟩
  rw [listingText, compact, String.toList_ofList, parse?_render]

end ModelEntry

/-! ## Fetching -/

namespace ModelInfo

theorem perform_fetch {path : Path} {s : MemoryStore} {text : String} {models : List ModelInfo}
    (htext : s.get? path = some text) (hmodels : listOfText? text = some models) :
    perform (fetch path) s = (.ok models, s) := by
  rw [fetch, perform_bind, perform_adapt, MemoryStore.perform_read, htext]
  dsimp only [Option.elim_some, Except.mapError]
  rw [hmodels]
  rfl

open ModelEntry

/-- **What the two layouts mean.** The same entries are read from both, with the same ids, the same
defaults for what a model can do and every name that is given; a model without a name is given the
empty name by a plain record and its id by a listing. So the two files give the same models exactly
if every model without a name has an empty id. -/
theorem fetch_layouts_iff {es : List ModelEntry} {plainText listing : String}
    (hplain : PlainFile es plainText) (hlisting : ListingFile es listing) {p q : Path}
    {s t : MemoryStore} (hs : s.get? p = some plainText) (ht : t.get? q = some listing) :
    perform (fetch p) s = (.ok (es.map plain), s) ∧
      perform (fetch q) t = (.ok (es.map listed), t) ∧
      ((perform (fetch p) s).1 = (perform (fetch q) t).1 ↔
        ∀ e ∈ es, e.name = none → e.id = "") := by
  have hfetch := perform_fetch hs (listOfText?_of_plainFile hplain)
  have hfetch' := perform_fetch ht (listOfText?_of_listingFile hlisting)
  refine ⟨hfetch, hfetch', ?_⟩
  rw [hfetch, hfetch', Except.ok.injEq, List.map_inj_left]
  exact forall₂_congr fun e _ ↦ plain_eq_listed_iff

/-- Files in which every model has a name, even an empty one, mean the same. -/
theorem fetch_layouts_iff_named :
    let es : List ModelEntry :=
      [⟨"m1", some "One", none, some true⟩, ⟨"m2", some "", some false, none⟩]
    let store (text : String) : MemoryStore := { files := [(⟨"/models.json"⟩, text)] }
    (perform (fetch ⟨"/models.json"⟩) (store (plainText es))).1 =
      (perform (fetch ⟨"/models.json"⟩) (store (listingText es))).1 := by
  intro es store
  have hstore (text : String) : (store text).get? ⟨"/models.json"⟩ = some text := by
    rw [MemoryStore.get?, Entries.get?_cons, if_pos BEq.rfl]
  exact (fetch_layouts_iff (plainFile_plainText es) (listingFile_listingText es) (hstore _)
    (hstore _)).2.2.mpr (by simp [es])

/-- A model without a name has none in a file of plain records, but that of its id in a listing. -/
theorem not_fetch_layouts :
    let e : ModelEntry := ⟨"a", none, none, none⟩
    let plainText := "[\x7b\"id\":\"a\"\x7d]"
    let listing := "\x7b\"data\":[\x7b\"id\":\"a\"\x7d]\x7d"
    let store (text : String) : MemoryStore := { files := [(⟨"/models.json"⟩, text)] }
    PlainFile [e] plainText ∧ ListingFile [e] listing ∧
      (perform (fetch ⟨"/models.json"⟩) (store plainText)).1 = .ok [⟨"a", "", false, false⟩] ∧
      (perform (fetch ⟨"/models.json"⟩) (store listing)).1 = .ok [⟨"a", "a", false, false⟩] := by
  intro e plainText listing store
  have hstore (text : String) : (store text).get? ⟨"/models.json"⟩ = some text := by
    rw [MemoryStore.get?, Entries.get?_cons, if_pos BEq.rfl]
  have hplainText : ModelEntry.plainText [e] = plainText := by decide +kernel
  have hlisting : listingText [e] = listing := by decide +kernel
  have hplain : PlainFile [e] plainText := hplainText ▸ plainFile_plainText [e]
  have hlisted : ListingFile [e] listing := hlisting ▸ listingFile_listingText [e]
  refine ⟨hplain, hlisted, ?_, ?_⟩
  · rw [perform_fetch (hstore _) (listOfText?_of_plainFile hplain)]
    rfl
  · rw [perform_fetch (hstore _) (listOfText?_of_listingFile hlisted)]
    rfl

end ModelInfo

end PromptLibrary
