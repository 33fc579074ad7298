import PromptLibrary.Proofs.Json.RoundTrip
import PromptLibrary.Proofs.Library.OutputSchema

/-!
# Answers to the schema of a list of fields

Once the schema for a list of fields is stored, answers are checked against these fields. A check
succeeds exactly if the answer is an object with every required field, and then it lists the fields
in their order (`Library.checkResponse_applyOutputSchema`).

A check does not see the fields themselves but what is read back from the stored schema. If their
names are distinct, all that a check needs comes back: the names in order, and which of them are
required. The type of an inconsistent field may come back changed, but a check does not look at it.
-/

namespace PromptLibrary

namespace Schema

/-! ## The fields of an answer -/

/-- The answer has the field if it is required. -/
def Field.SatisfiedBy (answer : Entries String Json) (f : Field) : Prop :=
  f.required = true → Entries.contains answer f.name = true

instance (answer : Entries String Json) (f : Field) : Decidable (f.SatisfiedBy answer) :=
  inferInstanceAs (Decidable (f.required = true → Entries.contains answer f.name = true))

/-- What is listed for a field: the value that the answer gives, or null if it gives none. -/
def Field.listed? (answer : Entries String Json) (nulls : Bool) (f : Field) :
    Option (String × Json) :=
  match Entries.get? answer f.name with
  | some v => some (f.name, v)
  | none => if nulls then some (f.name, .null) else none

variable {answer : Entries String Json} {nulls : Bool}

theorem Field.fst_of_listed? {f : Field} {e : String × Json}
    (h : f.listed? answer nulls = some e) : e.1 = f.name := by
  rw [Field.listed?] at h
  split at h
  · rw [← Option.some.inj h]
  · split at h
    · rw [← Option.some.inj h]
    · cases h

theorem collect_cons {f : Field} (h : f.SatisfiedBy answer) (fields : List Field) :
    collect answer nulls (f :: fields) =
      (collect answer nulls fields).map ((f.listed? answer nulls).toList ++ ·) := by
  rw [collect, Field.listed?]
  cases hget : Entries.get? answer f.name with
  | some v => rfl
  | none =>
    have hoptional : f.required = false := by
      rw [← Bool.not_eq_true]
      intro hrequired
      have hcontains := h hrequired
      rw [Entries.contains_eq_isSome_get?, hget] at hcontains
      cases hcontains
    dsimp only
    rw [hoptional, if_neg Bool.false_ne_true]
    cases nulls with
    | true => rfl
    | false => cases collect answer false fields <;> rfl

theorem collect_append {before : List Field} (hbefore : ∀ f ∈ before, f.SatisfiedBy answer)
    (after : List Field) :
    collect answer nulls (before ++ after) =
      (collect answer nulls after).map (before.filterMap (Field.listed? answer nulls) ++ ·) := by
  induction before with
  | nil => cases h : collect answer nulls after <;> simp [h, Except.map]
  | cons f before ih =>
    obtain ⟨hf, hbefore⟩ := List.forall_mem_cons.mp hbefore
    rw [List.cons_append, collect_cons hf, ih hbefore]
    cases collect answer nulls after with
    | error e => rfl
    | ok pairs => cases h : f.listed? answer nulls <;> simp [h, Except.map]

theorem collect_of_satisfied {fields : List Field} (h : ∀ f ∈ fields, f.SatisfiedBy answer) :
    collect answer nulls fields = .ok (fields.filterMap (Field.listed? answer nulls)) := by
  have happend : collect answer nulls (fields ++ []) =
      (collect answer nulls []).map (fields.filterMap (Field.listed? answer nulls) ++ ·) :=
    collect_append h []
  rw [List.append_nil] at happend
  rw [happend, collect, Except.map, List.append_nil]

theorem collect_of_missing {before : List Field} {f : Field}
    (hbefore : ∀ g ∈ before, g.SatisfiedBy answer) (hf : ¬f.SatisfiedBy answer)
    (after : List Field) :
    collect answer nulls (before ++ f :: after) = .error (.missingField f.name) := by
  obtain ⟨hrequired, hmissing⟩ := Classical.not_imp.mp hf
  have hget : Entries.get? answer f.name = none := by
    rw [Entries.contains_eq_isSome_get?] at hmissing
    simpa using hmissing
  rw [collect_append hbefore, collect, hget]
  dsimp only
  rw [if_pos hrequired]
  rfl

/-- A check depends on the names and on what is required, and on nothing else of the fields. -/
theorem collect_map {g : Field → Field} {fields : List Field}
    (h : ∀ f ∈ fields, (g f).name = f.name ∧ (g f).required = f.required) :
    collect answer nulls (fields.map g) = collect answer nulls fields := by
  induction fields with
  | nil => rfl
  | cons f fields ih =>
    obtain ⟨⟨hname, hrequired⟩, hfields⟩ := List.forall_mem_cons.mp h
    rw [List.map_cons, collect, collect, hname, hrequired, ih hfields]

/-- An object is checked against the fields from which the schema was built. -/
theorem extract_wrap_build {fields : List Field} (hdistinct : (fields.map Field.name).Nodup)
    (title : String) :
    extract (.object answer) (wrap (build fields title)) nulls = collect answer nulls fields := by
  have hkeys : Entries.keys (properties (wrap (build fields title))) = fields.map Field.name := by
    rw [properties_wrap_build, Entries.ofPairs_of_nodup (by rwa [List.map_map]), Entries.keys,
      List.map_map]
    rfl
  have hfields : (fields.map Field.name).map (describedField (wrap (build fields title))) =
      fields.map fun f ↦ fieldOfProperty f.name (propertyOfField f) f.required := by
    rw [List.map_map]
    refine List.map_congr_left fun f hf ↦ describedField_wrap_build hf (fun g hg hname ↦ ?_) title
    exact List.inj_on_of_nodup_map hdistinct hg hf hname
  rw [extract, hkeys, reconcile_some, hfields]
  exact collect_map fun _ _ ↦ ⟨rfl, rfl⟩

end Schema

namespace Library

open Schema

variable {l : Library} {name : String} {t : Template}

/-! ## Checks -/

theorem get?_applyOutputSchema (ht : l.get? name = some t) (fields : List Field) (title : String) :
    ∃ l', l.applyOutputSchema name fields title = .ok l' ∧
      l'.get? name = some (t.setResponseFormat (formatOfFields fields title)) := by
  refine ⟨_, update_of_get? ht _, ?_⟩
  have hget := Entries.get?_modify name
    (fun t : Template ↦ t.setResponseFormat (formatOfFields fields title)) l.templates name
  rw [if_pos BEq.rfl] at hget
  exact hget.trans (congrArg (Option.map _) ht)

theorem checkResponse_of_get? {format : Json} (ht : l.get? name = some t)
    (hformat : t.responseFormat = some format) (answer : String) (nulls : Bool) :
    l.checkResponse name answer nulls =
      match Json.parse? answer with
      | none => .error (.schemaParse .invalidAnswer)
      | some v => (extract v format nulls).mapError Error.schemaParse := by
  rw [checkResponse, require_of_get? ht]
  simp only [bind, Except.bind, hformat]
  cases Json.parse? answer <;> rfl

/-- What a check reports of an answer, given its value if it is a JSON document, for a template with
these fields. -/
structure Checked (fields : List Field) (answer : Option Json) (nulls : Bool)
    (result : Except Error (List (String × Json))) : Prop where
  /-- The check succeeds exactly if the answer is an object with every required field. -/
  succeeds_iff : (∃ pairs, result = .ok pairs) ↔
    ∃ es, answer = some (.object es) ∧ ∀ f ∈ fields, f.SatisfiedBy es
  /-- The fields of the answer are listed with their values, in the order of the fields; the others
  are listed with null, or left out. -/
  pairs_eq : ∀ es pairs, answer = some (.object es) → result = .ok pairs →
    pairs = fields.filterMap (Field.listed? es nulls)
  /-- Nothing but fields is listed. -/
  names : ∀ pairs, result = .ok pairs → (pairs.map (·.1)).Sublist (fields.map Field.name)
  /-- The error names the first required field that is missing. -/
  missing : ∀ es before f after, answer = some (.object es) → fields = before ++ f :: after →
    (∀ g ∈ before, g.SatisfiedBy es) → ¬f.SatisfiedBy es →
      result = .error (.schemaParse (.missingField f.name))
  /-- The answer is no JSON document. -/
  invalid : answer = none → result = .error (.schemaParse .invalidAnswer)
  /-- The answer is a document but not an object. -/
  notObject : ∀ v, answer = some v → v.object? = none →
    result = .error (.schemaParse .answerNotObject)

variable {fields : List Field} {nulls : Bool}

theorem checked_none : Checked fields none nulls (.error (.schemaParse .invalidAnswer)) where
  succeeds_iff := by simp
  pairs_eq := nofun
  names := nofun
  missing := nofun
  invalid _ := rfl
  notObject := nofun

theorem checked_of_not_object {v : Json} (h : v.object? = none) :
    Checked fields (some v) nulls (.error (.schemaParse .answerNotObject)) where
  succeeds_iff := by
    constructor
    · rintro ⟨pairs, hpairs⟩
      cases hpairs
    · rintro ⟨es, hes, -⟩
      cases hes
      cases h
  pairs_eq := nofun
  names := nofun
  missing := by
    intro es before f after hes
    cases hes
    cases h
  invalid := nofun
  notObject _ _ _ := rfl

theorem exists_first_missing {es : Entries String Json} (h : ¬∀ f ∈ fields, f.SatisfiedBy es) :
    ∃ before f after, fields = before ++ f :: after ∧ (∀ g ∈ before, g.SatisfiedBy es) ∧
      ¬f.SatisfiedBy es := by
  obtain ⟨f, hfind⟩ : ∃ f, fields.find? (fun f ↦ ¬f.SatisfiedBy es) = some f := by
    rw [← Option.isSome_iff_exists, List.find?_isSome]
    simpa using h
  obtain ⟨hf, before, after, hfields, hbefore⟩ := List.find?_eq_some_iff_append.mp hfind
  exact ⟨before, f, after, hfields, by simpa using hbefore, by simpa using hf⟩

theorem map_fst_listed_sublist (es : Entries String Json) (fields : List Field) (nulls : Bool) :
    ((fields.filterMap (Field.listed? es nulls)).map (·.1)).Sublist (fields.map Field.name) := by
  induction fields with
  | nil => exact List.Sublist.refl _
  | cons f fields ih =>
    rw [List.filterMap_cons, List.map_cons]
    cases hlisted : f.listed? es nulls with
    | none => exact ih.cons _
    | some e =>
      rw [List.map_cons, Field.fst_of_listed? hlisted]
      exact ih.cons_cons _

theorem checked_object (es : Entries String Json) :
    Checked fields (some (.object es)) nulls
      ((collect es nulls fields).mapError Error.schemaParse) := by
  by_cases hall : ∀ f ∈ fields, f.SatisfiedBy es
  · rw [collect_of_satisfied hall]
    refine ⟨?_, ?_, ?_, ?_, nofun, ?_⟩
    · exact ⟨fun _ ↦ ⟨es, rfl, hall⟩, fun _ ↦ ⟨_, rfl⟩⟩
    · rintro es' pairs hes hpairs
      cases hes
      exact (Except.ok.inj hpairs).symm
    · intro pairs hpairs
      rw [← Except.ok.inj hpairs]
      exact map_fst_listed_sublist es fields nulls
    · rintro es' before f after hes rfl - hf
      cases hes
      exact absurd (hall f (by simp)) hf
    · rintro v hv hobject
      cases hv
      cases hobject
  · obtain ⟨before, f, after, hfields, hbefore, hf⟩ := exists_first_missing hall
    have hcollect : collect es nulls fields = .error (.missingField f.name) := by
      rw [hfields, collect_of_missing hbefore hf]
    refine ⟨?_, ?_, ?_, ?_, nofun, ?_⟩
    · rw [hcollect]
      constructor
      · rintro ⟨pairs, hpairs⟩
        cases hpairs
      · rintro ⟨es', hes, hall'⟩
        cases hes
        exact absurd hall' hall
    · rw [hcollect]
      exact nofun
    · rw [hcollect]
      exact nofun
    · rintro es' before' f' after' hes hfields' hbefore' hf'
      cases hes
      rw [hfields', collect_of_missing hbefore' hf']
      rfl
    · rintro v hv hobject
      cases hv
      cases hobject

/-- **Answers are checked against the stored fields.** After the schema for some fields of distinct
names was stored as the response format of a template, whatever format the template had before,
every answer is checked against these fields. -/
theorem checkResponse_applyOutputSchema (ht : l.get? name = some t) {fields : List Field}
    (hne : fields ≠ []) (hdistinct : (fields.map Field.name).Nodup) (title : String) :
    ∃ l', l.applyOutputSchema name fields title = .ok l' ∧ ∀ answer nulls,
      Checked fields (Json.parse? answer) nulls (l'.checkResponse name answer nulls) := by
  obtain ⟨l', happly, ht'⟩ := get?_applyOutputSchema ht fields title
  refine ⟨l', happly, fun answer nulls ↦ ?_⟩
  have hsubstantial : Template.substantial (formatOfFields fields title) =
      some (wrap (build fields title)) := by
    rw [formatOfFields, if_neg (by simpa using hne)]
    rfl
  rw [checkResponse_of_get? ht' (t.responseFormat_setResponseFormat_of_some hsubstantial)]
  cases Json.parse? answer with
  | none => exact checked_none
  | some v =>
    cases v with
    | object es =>
      dsimp only
      rw [extract_wrap_build hdistinct]
      exact checked_object es
    | _ => exact checked_of_not_object rfl

/-- The answer has the fields in another order and one more, and it leaves out the array, for which
the schema has had to choose an item type. Another answer leaves out a required field as well. -/
theorem checkResponse_applyOutputSchema_reordered :
    let t : Template := { attributes := [("response_format", .string "none")] }
    let l : Library := { templates := [("t", t)] }
    let fields : List Field := [⟨"title", .string, "", true, none⟩,
      ⟨"tags", .array, "", false, none⟩, ⟨"pages", .integer, "", true, none⟩]
    let answer := "\x7b\"pages\":2,\"author\":\x7b\x7d,\"title\":null\x7d"
    let incomplete := "\x7b\"pages\":2\x7d"
    l.get? "t" = some t ∧ fields ≠ [] ∧ (fields.map Field.name).Nodup ∧
      ∃ l', l.applyOutputSchema "t" fields "Out" = .ok l' ∧
        l'.checkResponse "t" answer true =
          .ok [("title", .null), ("tags", .null), ("pages", .number (.integer 2))] ∧
        l'.checkResponse "t" answer false =
          .ok [("title", .null), ("pages", .number (.integer 2))] ∧
        l'.checkResponse "t" incomplete true = .error (.schemaParse (.missingField "title")) := by
  intro t l fields answer incomplete
  have hne : fields ≠ [] := List.cons_ne_nil _ _
  have hdistinct : (fields.map Field.name).Nodup := by decide
  have hparse {text : String} {es : Entries String Json} (htext : (Json.object es).compact = text)
      (hwf : (Json.object es).WellFormed) (hint : (Json.object es).Integral)
      (hdepth : (Json.object es).depth ≤ Json.nestingLimit) :
      Json.parse? text = some (.object es) := by
    rw [← htext, Json.parse?_compact hwf hdepth, Json.reread_eq_self hwf hint]
  have hanswer : Json.parse? answer = some (.object [("pages", .number (.integer 2)),
      ("author", .object []), ("title", .null)]) := by
    refine hparse (by decide +kernel) ?_ (by decide) (by decide)
    simp [Json.WellFormed, Json.WellFormedEntries, Json.Number.InRange]
  have hincomplete : Json.parse? incomplete =
      some (.object [("pages", .number (.integer 2))]) := by
    refine hparse (by decide +kernel) ?_ (by decide) (by decide)
    simp [Json.WellFormed, Json.WellFormedEntries, Json.Number.InRange]
  have ht : l.get? "t" = some t := rfl
  obtain ⟨l', happly, hchecked⟩ := checkResponse_applyOutputSchema ht hne hdistinct "Out"
  have hlisted : ∀ nulls, l'.checkResponse "t" answer nulls = .ok (fields.filterMap
      (Field.listed? [("pages", .number (.integer 2)), ("author", .object []), ("title", .null)]
        nulls)) := by
    intro nulls
    obtain ⟨pairs, hpairs⟩ := (hchecked answer nulls).succeeds_iff.mpr ⟨_, hanswer, by decide⟩
    rw [hpairs, (hchecked answer nulls).pairs_eq _ pairs hanswer hpairs]
  refine ⟨ht, hne, hdistinct, l', happly, hlisted true, hlisted false, ?_⟩
  exact (hchecked incomplete true).missing _ [] _ _ hincomplete rfl
    (fun _ hg ↦ absurd hg List.not_mem_nil) (by decide)

end Library

end PromptLibrary
