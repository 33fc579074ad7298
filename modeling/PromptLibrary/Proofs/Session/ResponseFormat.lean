import PromptLibrary.Proofs.Library.Nesting
import PromptLibrary.Proofs.Library.ResponseFormat
import PromptLibrary.Proofs.Session.Persistence

/-!
# Response formats that can be read back

A response format is accepted if it can be read on its own. In the library file it lies below four
containers, and the file is read with the same limit. So the formats that fill the last four levels
are accepted and saved, and from then on the library file cannot be opened: neither the format nor
any other template is lost from the file, but no workspace shows them any more.

Every other format that is accepted is read back, if its numbers are integers of 64 bits
(`Session.reopen_setResponseFormat_iff`). A library that was loaded leaves the four levels free for
what it holds already, so whether the file can be opened depends on the new format alone.
-/

namespace PromptLibrary

open Json

/-! ## Storing a response format -/

namespace Template

theorem responseFormat_reread (t : Template) :
    t.reread.responseFormat = t.responseFormat.map Json.reread := by
  have hget : ∀ k, Entries.get? (rereadEntries t.attributes) k =
      (Entries.get? t.attributes k).map Json.reread := by
    intro k
    rw [rereadEntries_eq_map, Entries.get?_map]
  have hinner : ∀ v : Json, v.reread.get? responseFormatKey =
      (v.get? responseFormatKey).map Json.reread := by
    intro v
    cases v with
    | object es => rw [Json.reread, Json.get?, rereadEntries_eq_map, Entries.get?_map]; rfl
    | _ => rfl
  have hsubstantial : ∀ format : Option Json,
      substantial (format.map Json.reread) = (substantial format).map Json.reread := by
    intro format
    cases format with
    | none => rfl
    | some v =>
      rw [Option.map_some, substantial, substantial, Option.filter_some, Option.filter_some,
        isVoid_reread]
      split <;> rfl
  rw [responseFormat, responseFormat, formatOf, formatOf, reread, hget, hget, hsubstantial]
  cases Entries.get? t.attributes providerParametersKey with
  | none => simp [substantial]
  | some v =>
    rw [Option.map_some, Option.bind_some, Option.bind_some, hinner, hsubstantial, Option.map_or]

theorem depth_withoutKey_le (k : String) (v : Json) : (withoutKey k v).depth ≤ v.depth := by
  cases v with
  | object es =>
    have hle : ∀ e ∈ es, e.2.depth ≤ depthEntries es := depthEntries_le_iff.mp (Nat.le_refl _)
    refine Nat.succ_le_succ (depthEntries_le_iff.mpr fun e he ↦ ?_)
    exact hle e (Entries.mem_swapErase he)
  | _ => exact Nat.le_refl _

theorem depth_le_of_mem_setResponseFormat {t : Template} {v : Json} {n : Nat}
    (ht : ∀ a ∈ t.attributes, a.2.depth ≤ n) (hv : v.depth ≤ n) :
    ∀ a ∈ (t.setResponseFormat (some v)).attributes, a.2.depth ≤ n := by
  intro a ha
  rw [setResponseFormat] at ha
  split at ha
  · rename_i w hw
    obtain rfl := Option.some.inj (substantial_eq_some_iff.mp hw).1
    rcases Entries.mem_insert ha with heq | ha
    · rwa [heq]
    · exact ht a ha
  · rcases Entries.mem_modify ha with ha | ⟨b, hb, heq⟩
    · exact ht a (Entries.mem_swapErase ha)
    · rw [heq]
      exact Nat.le_trans (depth_withoutKey_le _ _) (ht b (Entries.mem_swapErase hb))

theorem exists_mem_attributes_setResponseFormat (t : Template) {v : Json} (hv : v.isVoid = false) :
    ∃ a ∈ (t.setResponseFormat (some v)).attributes, a.2 = v := by
  have hsubstantial : substantial (some v) = some v := substantial_eq_some_iff.mpr ⟨rfl, hv⟩
  have hget : Entries.get? (Entries.insert responseFormatKey v t.attributes) responseFormatKey =
      some v := by
    rw [Entries.get?_insert, if_pos BEq.rfl]
  rw [setResponseFormat, hsubstantial]
  exact Entries.exists_mem_of_get? hget

end Template

/-! ## Formats that were written -/

theorem Schema.parseFormat_compact {es : Entries String Json} (hwf : (object es).WellFormed)
    (hint : (object es).Integral) (hdepth : (object es).depth ≤ nestingLimit) :
    parseFormat (object es).compact = .ok (.object es) := by
  have hblank : Text.isBlankText (object es).compact = false := by
    rw [Text.isBlankText, compact, String.toList_ofList]
    cases es <;> rfl
  rw [parseFormat, if_neg (by simp [hblank]), parse?_compact hwf hdepth, reread_eq_self hwf hint]

/-! ## Libraries with a new format -/

theorem Json.depth_le_one_of_isVoid {v : Json} (h : v.isVoid = true) : v.depth ≤ 1 := by
  rw [isVoid.eq_def] at h
  split at h
  · exact Nat.zero_le _
  · exact Nat.le_refl _
  · cases h

namespace Library

theorem setResponseFormat_eq_ok_iff {l l' : Library} {name text : String} {v : Json}
    (hv : Schema.parseFormat text = .ok v) :
    l.setResponseFormat name text = .ok l' ↔
      (l.get? name).isSome = true ∧ l' = l.withFormat name v := by
  cases ht : l.get? name with
  | none =>
    rw [setResponseFormat_of_none ht]
    simp
  | some t =>
    rw [setResponseFormat_of_get? ht, hv]
    simp [Except.mapError, Except.map, eq_comm]

@[simp] theorem get?_reread (l : Library) (name : String) :
    l.reread.get? name = (l.get? name).map Template.reread :=
  Entries.get?_map Template.reread l.templates name

theorem responseFormat_reread_withFormat {l : Library} {name : String} {v : Json}
    (hl : l.WellFormed) (hwf : v.WellFormed) (hint : v.Integral) :
    ((l.withFormat name v).reread.get? name).bind (·.responseFormat) =
      ((l.withFormat name v).get? name).bind (·.responseFormat) := by
  rw [get?_reread, get?_withFormat]
  cases ht : l.get? name with
  | none => rfl
  | some t =>
    obtain ⟨e, he, rfl⟩ := Entries.exists_mem_of_get? ht
    rw [Option.map_some, Option.map_some, Option.bind_some, Option.bind_some,
      Template.responseFormat_reread, Template.responseFormat_setResponseFormat (hl.templates e he)]
    cases hsubstantial : Template.substantial (some v) with
    | none => rfl
    | some w =>
      obtain rfl := Option.some.inj (Template.substantial_eq_some_iff.mp hsubstantial).1
      rw [Option.map_some, Json.reread_eq_self hwf hint]

/-- Whether a library is nested too deep after a new format depends on the format alone. -/
theorem depth_withFormat_le_iff {l : Library} {name : String} {v : Json}
    (hl : l.toJson.depth ≤ nestingLimit) (hname : (l.get? name).isSome = true) :
    (l.withFormat name v).toJson.depth ≤ nestingLimit ↔ v.depth + 4 ≤ nestingLimit := by
  have hlimit : 5 ≤ nestingLimit := by decide
  rw [depth_toJson_le_iff (by omega)] at hl ⊢
  constructor
  · intro h
    by_cases hvoid : v.isVoid = true
    · have hdepth := depth_le_one_of_isVoid hvoid
      omega
    · obtain ⟨t, ht⟩ := Option.isSome_iff_exists.mp hname
      have hget : (l.withFormat name v).get? name = some (t.setResponseFormat (some v)) := by
        rw [get?_withFormat, ht]
        rfl
      obtain ⟨e, he, hedited⟩ := Entries.exists_mem_of_get? hget
      obtain ⟨a, ha, rfl⟩ := t.exists_mem_attributes_setResponseFormat (by simpa using hvoid)
      rw [← hedited] at ha
      exact h e he a ha
  · intro hv e he
    rcases Entries.mem_modify he with he | ⟨f, hf, hedited⟩
    · exact hl e he
    · have hattributes : ∀ a ∈ f.2.attributes, a.2.depth ≤ nestingLimit - 4 := fun a ha ↦
        Nat.le_sub_of_add_le (hl f hf a ha)
      intro a ha
      rw [hedited] at ha
      have hle := Template.depth_le_of_mem_setResponseFormat hattributes (by omega) a ha
      omega

end Library

/-! ## Opening the workspace again -/

namespace Session

theorem of_perform_setResponseFormat {w w' : Workspace} {s t : MemoryStore} {name text : String}
    {v : Json} (hv : Schema.parseFormat text = .ok v)
    (h : perform (setResponseFormat name text) w s = (.ok (), w', t)) :
    (w.library.get? name).isSome = true ∧
      w' = { w with library := w.library.withFormat name v } ∧
      t.get? w.config.libraryFile = some (w.library.withFormat name v).toText := by
  rw [setResponseFormat, perform_commit] at h
  split at h
  · cases h
  · rename_i l hl
    obtain ⟨hname, rfl⟩ := (Library.setResponseFormat_eq_ok_iff hv).mp hl
    split at h
    · rename_i u hsave
      cases h
      exact ⟨hname, rfl, Library.get?_of_save hsave⟩
    · cases h

theorem exists_perform_setResponseFormat {w : Workspace} {s : MemoryStore} {name text : String}
    {v : Json} (hr : w.rotator.Apart)
    (hs : s.Unobstructed (w.config.libraryFile :: w.rotator.slots))
    (hname : (w.library.get? name).isSome = true) (hv : Schema.parseFormat text = .ok v) :
    ∃ t, perform (setResponseFormat name text) w s =
      (.ok (), { w with library := w.library.withFormat name v }, t) := by
  have hedit := (Library.setResponseFormat_eq_ok_iff hv).mpr ⟨hname, rfl⟩
  have hsave := (w.library.withFormat name v).save_ok hr hs
  rw [setResponseFormat, perform_commit, ← Library.setResponseFormat, hedit]
  dsimp only
  rcases hrun : PromptLibrary.perform ((w.library.withFormat name v).save w.config.libraryFile
    w.config.maxBackups) s with ⟨e | ⟨⟩, t⟩
  · rw [hrun] at hsave
    cases hsave
  · exact ⟨t, rfl⟩

/-! ## The deepest format that comes back -/

/-- Truth inside this many brackets. -/
def bracketed : Nat → Json
  | 0 => .bool true
  | n + 1 => .array [bracketed n]

@[simp] theorem wellFormed_bracketed (n : Nat) : (bracketed n).WellFormed := by
  induction n with
  | zero => trivial
  | succ n ih => exact ⟨ih, trivial⟩

theorem integral_bracketed (n : Nat) : (bracketed n).Integral := by
  induction n with
  | zero => trivial
  | succ n ih => exact ⟨ih, trivial⟩

@[simp] theorem depth_bracketed (n : Nat) : (bracketed n).depth = n := by
  induction n with
  | zero => rfl
  | succ n ih => simp [bracketed, Json.depth, depthItems, ih]

/-- A response format of the given depth. -/
def nestedFormat (n : Nat) : Json :=
  .object [("enum", bracketed n)]

theorem integral_nestedFormat (n : Nat) : (nestedFormat n).Integral :=
  ⟨integral_bracketed n, trivial⟩

@[simp] theorem depth_nestedFormat (n : Nat) : (nestedFormat n).depth = n + 1 := by
  simp [nestedFormat, Json.depth, depthEntries]

theorem parseFormat_nestedFormat {n : Nat} (hn : n + 1 ≤ nestingLimit) :
    Schema.parseFormat (nestedFormat n).compact = .ok (nestedFormat n) := by
  refine Schema.parseFormat_compact ?_ (integral_nestedFormat n) ?_
  · exact wellFormed_object_iff.mpr ⟨List.nodup_singleton _, by simp⟩
  · exact Nat.le_trans (Nat.le_of_eq (depth_nestedFormat n)) hn

/-- A library with one template. -/
def oneTemplate : Library :=
  { templates := [("summary", {})] }

theorem integral_oneTemplate : oneTemplate.Integral := by
  unfold Library.Integral
  decide

theorem ofText_oneTemplate (path : Path) : Library.ofText oneTemplate.toText path =
    .ok oneTemplate := by
  refine Library.ofText_toText_of_depth_le ⟨?_, ?_⟩ integral_oneTemplate ?_ path
  · exact List.nodup_singleton _
  · simp [oneTemplate, Template.WellFormed]
  · decide

/-- A workspace that is opened with this library accepts every format that can be read. -/
theorem exists_perform_nestedFormat {n : Nat} (hn : n + 1 ≤ nestingLimit) :
    let config := Config.new ⟨"/lib"⟩
    let s : MemoryStore := { files := [(config.libraryFile, oneTemplate.toText)] }
    ∃ w t, PromptLibrary.perform (Workspace.ofConfig config) s = (.ok w, s) ∧
      w.config = config ∧ w.library = oneTemplate ∧
      perform (setResponseFormat "summary" (nestedFormat n).compact) w s =
        (.ok (), { w with library := w.library.withFormat "summary" (nestedFormat n) }, t) := by
  intro config s
  have hfile : s.get? config.libraryFile = some oneTemplate.toText := by
    show Entries.get? [(config.libraryFile, oneTemplate.toText)] config.libraryFile = _
    rw [Entries.get?_cons, if_pos BEq.rfl]
  obtain ⟨catalog, hopen⟩ := Workspace.perform_ofConfig_of_get? hfile
  rw [ofText_oneTemplate] at hopen
  have hapart : (Rotator.mk config.libraryFile config.maxBackups).Apart := by
    unfold Rotator.Apart
    decide +kernel
  let w : Workspace := { config, library := oneTemplate, catalog }
  have hr : w.rotator.Apart := hapart
  have hs : s.Unobstructed (w.config.libraryFile :: w.rotator.slots) := fun _ _ ↦ ⟨rfl, rfl⟩
  have hname : (w.library.get? "summary").isSome = true := rfl
  obtain ⟨t, hset⟩ := exists_perform_setResponseFormat hr hs hname (parseFormat_nestedFormat hn)
  exact ⟨w, t, hopen, rfl, rfl, hset⟩

/-! ## Reading back -/

/-- **When a response format can be read back.** After a response format was accepted and saved, the
workspace can be opened again, with the same response format, exactly if the format leaves room for
the four containers around it. Its numbers must be integers of 64 bits: a longer numeral is read as
a float, and a float may change when it is read again. -/
theorem reopen_setResponseFormat_iff {w w' : Workspace} {s t : MemoryStore} {name text : String}
    {v : Json} (hloaded : w.library = {} ∨
      ∃ source, Library.ofText source w.config.libraryFile = .ok w.library)
    (hv : Schema.parseFormat text = .ok v) (hint : v.Integral)
    (hset : perform (setResponseFormat name text) w s = (.ok (), w', t)) :
    (∃ w'', PromptLibrary.perform (Workspace.ofConfig w.config) t = (.ok w'', t) ∧
        (w''.library.get? name).bind (·.responseFormat) =
          (w'.library.get? name).bind (·.responseFormat)) ↔
      v.depth + 4 ≤ nestingLimit := by
  obtain ⟨hname, rfl, hfile⟩ := of_perform_setResponseFormat hv hset
  obtain ⟨catalog, hopen⟩ := Workspace.perform_ofConfig_of_get? hfile
  have ⟨hwf, hdepth⟩ : w.library.WellFormed ∧ w.library.toJson.depth ≤ nestingLimit := by
    rcases hloaded with hempty | ⟨source, hsource⟩
    · rw [hempty]
      exact ⟨Library.wellFormed_empty, by decide⟩
    · exact ⟨Library.wellFormed_of_ofText hsource, Library.depth_toJson_le_of_ofText hsource⟩
  have hedit := (Library.setResponseFormat_eq_ok_iff hv).mpr ⟨hname, rfl⟩
  rw [← Library.depth_withFormat_le_iff hdepth hname]
  constructor
  · rintro ⟨w'', hw'', -⟩
    by_contra hdeep
    rw [hopen, Library.ofText_toText_of_not_depth_le hdeep] at hw''
    cases hw''
  · intro hfits
    rw [Library.ofText_toText_eq_reread (hwf.setResponseFormat hedit) hfits] at hopen
    have hformat := Schema.wellFormed_of_parseFormat hv
    exact ⟨_, hopen, Library.responseFormat_reread_withFormat hwf hformat hint⟩

/-- The deepest format that comes back. -/
theorem reopen_setResponseFormat_deepest :
    let config := Config.new ⟨"/lib"⟩
    let s : MemoryStore := { files := [(config.libraryFile, oneTemplate.toText)] }
    ∃ w w' t w'', PromptLibrary.perform (Workspace.ofConfig config) s = (.ok w, s) ∧
      perform (setResponseFormat "summary" (nestedFormat 122).compact) w s = (.ok (), w', t) ∧
      PromptLibrary.perform (Workspace.ofConfig config) t = (.ok w'', t) ∧
      (w''.library.get? "summary").bind (·.responseFormat) = some (nestedFormat 122) := by
  intro config s
  obtain ⟨w, t, hopen, hconfig, hlibrary, hset⟩ :=
    exists_perform_nestedFormat (n := 122) (by decide)
  have hloaded : Library.ofText oneTemplate.toText w.config.libraryFile = .ok w.library := by
    rw [hlibrary, ofText_oneTemplate]
  have hiff := reopen_setResponseFormat_iff (.inr ⟨_, hloaded⟩)
    (parseFormat_nestedFormat (by decide)) (integral_nestedFormat 122) hset
  obtain ⟨w'', hagain, hformat⟩ := hiff.mpr (by rw [depth_nestedFormat]; decide)
  rw [hconfig] at hagain
  refine ⟨w, _, t, w'', hopen, hset, hagain, hformat.trans ?_⟩
  rw [hlibrary]
  rfl

/-- A format that is one level deeper is accepted and saved, and then the library file cannot be
opened. -/
theorem not_reopen_setResponseFormat :
    let config := Config.new ⟨"/lib"⟩
    let s : MemoryStore := { files := [(config.libraryFile, oneTemplate.toText)] }
    ∃ w w' t, PromptLibrary.perform (Workspace.ofConfig config) s = (.ok w, s) ∧
      perform (setResponseFormat "summary" (nestedFormat 123).compact) w s = (.ok (), w', t) ∧
      PromptLibrary.perform (Workspace.ofConfig config) t =
        (.error (.libraryParse config.libraryFile), t) := by
  intro config s
  obtain ⟨w, t, hopen, hconfig, hlibrary, hset⟩ :=
    exists_perform_nestedFormat (n := 123) (by decide)
  obtain ⟨hname, -, hfile⟩ :=
    of_perform_setResponseFormat (parseFormat_nestedFormat (by decide)) hset
  obtain ⟨catalog, hagain⟩ := Workspace.perform_ofConfig_of_get? hfile
  have hdeep : ¬(oneTemplate.withFormat "summary" (nestedFormat 123)).toJson.depth ≤
      nestingLimit := by
    rw [Library.depth_withFormat_le_iff (by decide) (by decide), depth_nestedFormat]
    decide
  rw [hlibrary, Library.ofText_toText_of_not_depth_le hdeep, hconfig] at hagain
  exact ⟨w, _, t, hopen, hset, hagain⟩

end Session

end PromptLibrary
