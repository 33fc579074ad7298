import Mathlib.Algebra.BigOperators.Group.List.Basic
import Mathlib.Algebra.Ring.Int.Defs
import Mathlib.Data.List.Basic
import Mathlib.Data.List.Induction
import PromptLibrary.Form
import PromptLibrary.Proofs.Entries

/-!
# What a form collects

A form is described without its states, by the keys alone. The keys that count are those in front
of the first one that ends the form. Every key turns the selection on by one field, back by one or
not at all, and the selection goes round, so the field that is selected after some keys is the sum
of their turns, reduced by the number of fields (`Form.place`). A key that writes or deletes a
character does so in the field that is selected when it is pressed, so the line of a field comes
from the keys that were pressed while the field was selected, in their order, and from no other
(`Form.keysAt`).

One key press moves the form from the keys pressed so far to those with the new one
(`Form.edited_of_not_ends`), and so a whole run is the description (`Form.pressAll_eq`).
-/

namespace PromptLibrary

open Text

/-! ## Keys -/

namespace Key

/-- The key submits or dismisses a form. -/
def ends : Key → Bool
  | .enter | .escape => true
  | .char c control => c = 'c' && control
  | _ => false

/-- The number of fields by which a key turns the selection on. -/
def turn : Key → Int
  | .tab | .down => 1
  | .backTab | .up => -1
  | _ => 0

/-- What a key does to the line that is edited. -/
def write : Key → List Char → List Char
  | .char c _, line => line ++ [c]
  | .backspace, line => line.dropLast
  | _, line => line

end Key

namespace Form

variable {n i : Nat} {k : Key} {ks : List Key}

/-! ## The selection -/

/-- The position that is selected among some fields after some keys. -/
def place (n : Nat) (ks : List Key) : Nat :=
  ((ks.map Key.turn).sum % n).toNat

theorem cast_place (hn : 0 < n) (ks : List Key) : (place n ks : Int) = (ks.map Key.turn).sum % n :=
  Int.toNat_of_nonneg (Int.emod_nonneg _ (by omega))

theorem place_lt (hn : 0 < n) (ks : List Key) : place n ks < n := by
  have hlt := Int.emod_lt_of_pos (ks.map Key.turn).sum (b := n) (by omega)
  rw [← cast_place hn] at hlt
  exact Int.ofNat_lt.mp hlt

theorem place_concat (hn : 0 < n) (ks : List Key) (k : Key) :
    place n (ks ++ [k]) = ((place n ks + k.turn) % n).toNat := by
  rw [cast_place hn, Int.emod_add_emod, place, List.map_append, List.sum_append]
  simp

/-! ## The lines -/

/-- The keys that are pressed while a position is selected. -/
def keysAt (n i : Nat) (ks : List Key) : List Key :=
  (ks.zipIdx.filter fun e ↦ place n (ks.take e.2) = i).map (·.1)

theorem keysAt_concat (n i : Nat) (ks : List Key) (k : Key) :
    keysAt n i (ks ++ [k]) = keysAt n i ks ++ if place n ks = i then [k] else [] := by
  have hbefore : (ks.zipIdx.filter fun e ↦ place n ((ks ++ [k]).take e.2) = i) =
      ks.zipIdx.filter fun e ↦ place n (ks.take e.2) = i := by
    refine List.filter_congr fun e he ↦ ?_
    have hlt := (List.mem_zipIdx' he).1
    rw [List.take_append_of_le_length hlt.le]
  have hlast : (ks ++ [k]).take ks.length = ks := List.take_left
  rw [keysAt, List.zipIdx_append, List.filter_append, hbefore, List.map_append, ← keysAt]
  simp only [List.zipIdx_cons, List.zipIdx_nil, Nat.zero_add, List.filter_cons, List.filter_nil,
    hlast, decide_eq_true_eq]
  split <;> rfl

/-- The line of a field when some keys have been pressed, given what it was filled in with. -/
def line (n i : Nat) (ks : List Key) (filledIn : String) : List Char :=
  (keysAt n i ks).foldl (fun line k ↦ k.write line) filledIn.toList

/-- The field after some keys that were all pressed in it. -/
def Field.typed (ks : List Key) (x : Field) : Field :=
  { x with input := ks.foldl (fun line k ↦ k.write line) x.input }

theorem Field.typed_concat (ks : List Key) (k : Key) (x : Field) :
    x.typed (ks ++ [k]) = (x.typed ks).typed [k] := by
  rw [typed, List.foldl_append]
  rfl

/-! ## Pressing keys -/

/-- Going on by a number of fields is going by a turn that differs from it by rounds. -/
theorem add_mod_eq_turned {s d : Nat} {t : Int} (h : (d : Int) % n = t % n) :
    (s + d) % n = ((s + t) % n).toNat := by
  have hturned : ((s : Int) + t) % n = ((s + d) % n : Nat) := by
    rw [Int.add_emod, ← h, ← Int.add_emod]
    push_cast
    rfl
  rw [hturned, Int.toNat_natCast]

theorem move_eq_turned {f : Form} (hf : f.selected < f.fields.length) {d : Nat} {t : Int}
    (h : (d : Int) % f.fields.length = t % f.fields.length) :
    f.move d = { f with selected := ((f.selected + t) % f.fields.length).toNat } := by
  rw [move, if_pos (Nat.zero_lt_of_lt hf), add_mod_eq_turned h]

/-- A key press that does not end the form writes in the selected field and turns the selection. -/
theorem edited_of_not_ends {f : Form} (hk : k.ends = false) (hf : f.selected < f.fields.length) :
    f.edited k =
      { f with
        fields := f.fields.modify f.selected (Field.typed [k])
        selected := ((f.selected + k.turn) % f.fields.length).toNat } := by
  have hunwritten (h : ∀ line, k.write line = line) :
      f.fields.modify f.selected (Field.typed [k]) = f.fields := by
    have hid : Field.typed [k] = id := funext fun x ↦ by rw [Field.typed, List.foldl_cons, h]; rfl
    rw [hid, List.modify_id]
  have hstay : f.selected = (((f.selected : Int) + 0) % f.fields.length).toNat := by
    rw [Int.add_zero, ← Int.natCast_emod, Int.toNat_natCast, Nat.mod_eq_of_lt hf]
  have hback : ((f.fields.length - 1 : Nat) : Int) % f.fields.length = -1 % f.fields.length := by
    have hround : ((f.fields.length - 1 : Nat) : Int) = -1 + f.fields.length := by omega
    rw [hround, Int.add_emod_right]
  cases k with
  | enter => cases hk
  | escape => cases hk
  | tab | down =>
    rw [hunwritten fun _ ↦ rfl]
    exact move_eq_turned hf rfl
  | backTab | up =>
    rw [hunwritten fun _ ↦ rfl]
    exact move_eq_turned hf hback
  | backspace => exact congrArg (fun s ↦ ({ f.edit List.dropLast with selected := s } : Form)) hstay
  | char c control =>
    have hwritten : f.edited (.char c control) = f.edit (· ++ [c]) :=
      if_neg (by simpa [Key.ends] using hk)
    rw [hwritten]
    exact congrArg (fun s ↦ ({ f.edit (· ++ [c]) with selected := s } : Form)) hstay
  | other =>
    rw [hunwritten fun _ ↦ rfl]
    exact congrArg (fun s ↦ ({ f with selected := s } : Form)) hstay

theorem press_of_editing {f : Form} (h : f.status = .editing) (k : Key) :
    f.press k = f.edited k := by
  rw [press, h]

theorem pressAll_of_ne_editing {f : Form} (h : f.status ≠ .editing) (ks : List Key) :
    f.pressAll ks = f := by
  have hpress : ∀ k, f.press k = f := by
    intro k
    rw [press]
    split
    · rename_i hstatus
      exact absurd hstatus h
    · rfl
  induction ks with
  | nil => rfl
  | cons k ks ih => rw [pressAll, List.foldl_cons, hpress, ← pressAll, ih]

theorem pressAll_append (f : Form) (ks more : List Key) :
    f.pressAll (ks ++ more) = (f.pressAll ks).pressAll more :=
  List.foldl_append

/-- **A run of a form.** As long as no key ends it, the keys have turned the selection and each of
them has been written in the field that was selected. -/
theorem pressAll_of_not_ends {f : Form} (hstatus : f.status = .editing) (hselected : f.selected = 0)
    (hn : 0 < f.fields.length) (hks : ∀ k ∈ ks, k.ends = false) :
    f.pressAll ks =
      { f with
        fields := f.fields.mapIdx fun i ↦ Field.typed (keysAt f.fields.length i ks)
        selected := place f.fields.length ks } := by
  induction ks using List.reverseRecOn with
  | nil =>
    have hplace : place f.fields.length [] = f.selected := by simp [place, hselected]
    have hfields : f.fields.mapIdx (fun i ↦ Field.typed (keysAt f.fields.length i [])) = f.fields :=
      List.ext_getElem? fun i ↦ by
        rw [List.getElem?_mapIdx]
        cases f.fields[i]? <;> rfl
    rw [hplace, hfields]
    rfl
  | append_singleton ks k ih =>
    have hlast : k.ends = false := hks k (by simp)
    have hfields : (f.fields.mapIdx fun i ↦ Field.typed (keysAt f.fields.length i ks)).modify
        (place f.fields.length ks) (Field.typed [k]) =
          f.fields.mapIdx fun i ↦ Field.typed (keysAt f.fields.length i (ks ++ [k])) := by
      refine List.ext_getElem? fun i ↦ ?_
      rw [List.getElem?_modify, List.getElem?_mapIdx, List.getElem?_mapIdx, keysAt_concat]
      cases f.fields[i]? with
      | none => rfl
      | some x =>
        refine congrArg some ?_
        split
        · exact (Field.typed_concat _ k x).symm
        · rw [List.append_nil]
    rw [pressAll_append, ih fun k' hk' ↦ hks k' (List.mem_append_left _ hk'), pressAll,
      List.foldl_cons, List.foldl_nil, press_of_editing, edited_of_not_ends hlast]
    · dsimp only
      rw [hfields, List.length_mapIdx, place_concat hn]
    · rw [List.length_mapIdx]
      exact place_lt hn ks
    · exact hstatus

/-! ## The end of a form -/

/-- How far a form has come, given the key that has ended it. -/
def ending : Option Key → Status
  | none => .editing
  | some .enter => .submitted
  | some _ => .dismissed

theorem ending_ne_editing (k : Key) : ending (some k) ≠ .editing := by
  cases k <;> exact Status.noConfusion

theorem ending_of_ne_enter (hk : k ≠ .enter) : ending (some k) = .dismissed := by
  cases k with
  | enter => exact absurd rfl hk
  | _ => rfl

theorem edited_of_ends (f : Form) (hk : k.ends = true) :
    f.edited k = { f with status := ending (some k) } := by
  cases k with
  | enter => rfl
  | escape => rfl
  | char c control => exact if_pos (by simpa [Key.ends] using hk)
  | _ => cases hk

/-- The keys up to the first one that ends a form count, and the others do not. -/
theorem pressAll_eq {f : Form} (hstatus : f.status = .editing) (hselected : f.selected = 0)
    (hn : 0 < f.fields.length) (ks : List Key) :
    f.pressAll ks =
      { fields := f.fields.mapIdx fun i ↦
          Field.typed (keysAt f.fields.length i (ks.takeWhile fun k ↦ !k.ends))
        selected := place f.fields.length (ks.takeWhile fun k ↦ !k.ends)
        status := ending (ks.find? Key.ends) } := by
  cases hfind : ks.find? Key.ends with
  | none =>
    have hks : ∀ k ∈ ks, k.ends = false := by simpa using hfind
    have hall : (ks.takeWhile fun k ↦ !k.ends) = ks :=
      List.takeWhile_eq_self_iff.mpr fun k hk ↦ by rw [hks k hk]; rfl
    rw [pressAll_of_not_ends hstatus hselected hn hks, hall, hstatus]
    rfl
  | some k =>
    obtain ⟨hk, body, rest, rfl, hbody⟩ := List.find?_eq_some_iff_append.mp hfind
    have hfront : ((body ++ k :: rest).takeWhile fun k ↦ !k.ends) = body := by
      rw [List.takeWhile_append_of_pos hbody, List.takeWhile_cons_of_neg (by simp [hk]),
        List.append_nil]
    rw [hfront, pressAll_append,
      pressAll_of_not_ends hstatus hselected hn fun k hk ↦ by simpa using hbody k hk, pressAll,
      List.foldl_cons, press_of_editing, edited_of_ends _ hk, ← pressAll,
      pressAll_of_ne_editing]
    · exact ending_ne_editing k
    · exact hstatus

/-! ## Values -/

/-- What tells a field from the others: a text and a file may share a name. -/
def Field.label (x : Field) : FieldKind × String :=
  (x.kind, x.name)

/-- The labels of the fields for texts and files. -/
def labels (texts files : List String) : List (FieldKind × String) :=
  texts.map (FieldKind.text, ·) ++ files.map (FieldKind.file, ·)

section Values

variable {f : Form} {x : Field} {name : String}

theorem eq_of_label (h : (f.fields.map Field.label).Nodup) {y : Field} (hy : y ∈ f.fields)
    (hx : x ∈ f.fields) (hkind : y.kind = x.kind) (hname : y.name = x.name) : y = x :=
  List.inj_on_of_nodup_map h hy hx (Prod.ext hkind hname)

theorem mem_textPairs {p : String × String} :
    p ∈ (f.fields.filter (·.kind = .text)).map (fun x ↦ (x.name, String.ofList x.input)) ↔
      ∃ x ∈ f.fields, x.kind = .text ∧ x.name = p.1 ∧ String.ofList x.input = p.2 := by
  simp [Prod.ext_iff, and_assoc]

theorem mem_filePairs {p : String × Path} :
    p ∈ (f.fields.filter (·.kind = .file)).filterMap (fun x ↦ x.path?.map (x.name, ·)) ↔
      ∃ x ∈ f.fields, x.kind = .file ∧ x.name = p.1 ∧ x.path? = some p.2 := by
  simp [List.mem_filterMap, Prod.ext_iff, and_assoc, and_left_comm]

theorem text?_values (h : (f.fields.map Field.label).Nodup) (hx : x ∈ f.fields)
    (hkind : x.kind = .text) : f.values.text? x.name = some (String.ofList x.input) := by
  refine Entries.get?_ofPairs (mem_textPairs.mpr ⟨x, hx, hkind, rfl, rfl⟩) fun p hp hname ↦ ?_
  obtain ⟨y, hy, hkind', hname', hinput⟩ := mem_textPairs.mp hp
  rw [← hinput, eq_of_label h hy hx (hkind'.trans hkind.symm) (hname'.trans hname)]

theorem text?_values_eq_none (h : ∀ x ∈ f.fields, x.kind = .text → x.name ≠ name) :
    f.values.text? name = none := by
  refine Entries.get?_ofPairs_eq_none fun p hp ↦ ?_
  obtain ⟨y, hy, hkind, hname, -⟩ := mem_textPairs.mp hp
  exact hname ▸ h y hy hkind

theorem file?_values (h : (f.fields.map Field.label).Nodup) (hx : x ∈ f.fields)
    (hkind : x.kind = .file) : f.values.file? x.name = x.path? := by
  have hsame : ∀ y ∈ f.fields, y.kind = .file → y.name = x.name → y = x :=
    fun y hy hkind' ↦ eq_of_label h hy hx (hkind'.trans hkind.symm)
  cases hpath : x.path? with
  | some path =>
    refine Entries.get?_ofPairs (mem_filePairs.mpr ⟨x, hx, hkind, rfl, hpath⟩) ?_
    rintro p hp hname
    obtain ⟨y, hy, hkind', hname', hpath'⟩ := mem_filePairs.mp hp
    rw [hsame y hy hkind' (hname'.trans hname), hpath] at hpath'
    exact (Option.some.inj hpath').symm
  | none =>
    refine Entries.get?_ofPairs_eq_none fun p hp hname ↦ ?_
    obtain ⟨y, hy, hkind', hname', hpath'⟩ := mem_filePairs.mp hp
    rw [hsame y hy hkind' (hname'.trans hname), hpath] at hpath'
    cases hpath'

theorem file?_values_eq_none (h : ∀ x ∈ f.fields, x.kind = .file → x.name ≠ name) :
    f.values.file? name = none := by
  refine Entries.get?_ofPairs_eq_none fun p hp ↦ ?_
  obtain ⟨y, hy, hkind, hname, -⟩ := mem_filePairs.mp hp
  exact hname ▸ h y hy hkind

theorem Field.path?_of_blank (h : ∀ c ∈ x.input, isBlank c = true) : x.path? = none :=
  if_pos (List.isEmpty_iff.mpr (trimChars_eq_nil_iff.mpr h))

theorem Field.path?_of_not_blank (h : ∃ c ∈ x.input, isBlank c = false) :
    x.path? = some ⟨trim (String.ofList x.input)⟩ := by
  obtain ⟨c, hc, hblank⟩ := h
  have hne : ¬(trimChars x.input).isEmpty = true := by
    intro hempty
    rw [trimChars_eq_nil_iff.mp (List.isEmpty_iff.mp hempty) c hc] at hblank
    cases hblank
  rw [path?, trim, String.toList_ofList]
  exact if_neg hne

end Values

/-! ## What a form collects -/

/-- A form that asked for texts and files, in the state to which some keys have brought it. -/
structure Collected (texts files : List String) (prefilled : Placeholder.Values) (ks : List Key)
    (f : Form) : Prop where
  /-- There are as many fields as names. -/
  length_fields : f.fields.length = texts.length + files.length
  /-- The texts come first, each with what was typed in its field. -/
  text_field : ∀ i name, texts[i]? = some name →
    f.fields[i]? = some (Field.mk .text name
      (line (texts.length + files.length) i ks ((prefilled.text? name).getD "")))
  /-- Then come the files, each with what was typed in its field. -/
  file_field : ∀ i name, files[i]? = some name →
    f.fields[texts.length + i]? = some (Field.mk .file name
      (line (texts.length + files.length) (texts.length + i) ks
        ((prefilled.file? name).elim "" (·.text))))
  /-- A field is selected. -/
  selected_lt : f.selected < f.fields.length
  /-- The selection has gone round as it was turned. -/
  selected_eq : f.selected = place (texts.length + files.length) ks

/-- The values for texts and files that the fields of a form stand for. -/
structure Supplied (texts files : List String) (fields : List Field) (v : Placeholder.Values) :
    Prop where
  /-- Every text has its value, even if it is empty. -/
  text : ∀ x ∈ fields, x.kind = .text → v.text? x.name = some (String.ofList x.input)
  /-- A field that is not blank is the path of its file. -/
  file : ∀ x ∈ fields, x.kind = .file → (∃ c ∈ x.input, isBlank c = false) →
    v.file? x.name = some ⟨trim (String.ofList x.input)⟩
  /-- A file whose field is blank has no path. -/
  file_blank : ∀ x ∈ fields, x.kind = .file → (∀ c ∈ x.input, isBlank c = true) →
    v.file? x.name = none
  /-- No other text has a value. -/
  text_only : ∀ name, name ∉ texts → v.text? name = none
  /-- No other file has a path. -/
  file_only : ∀ name, name ∉ files → v.file? name = none

section Collect

variable {texts files : List String} (prefilled : Placeholder.Values)

@[simp] theorem length_new :
    (new texts files prefilled).fields.length = texts.length + files.length := by
  rw [new, List.length_append, List.length_map, List.length_map]

theorem length_new_pos (hne : texts ++ files ≠ []) :
    0 < (new texts files prefilled).fields.length := by
  rw [length_new, ← List.length_append]
  exact List.length_pos_iff.mpr hne

theorem label_mapIdx_typed (fields : List Field) (keys : Nat → List Key) :
    (fields.mapIdx fun i ↦ Field.typed (keys i)).map Field.label = fields.map Field.label :=
  List.ext_getElem? fun i ↦ by
    rw [List.getElem?_map, List.getElem?_map, List.getElem?_mapIdx]
    cases fields[i]? <;> rfl

@[simp] theorem label_new :
    (new texts files prefilled).fields.map Field.label = labels texts files := by
  rw [new, List.map_append, List.map_map, List.map_map]
  rfl

theorem nodup_labels (htexts : texts.Nodup) (hfiles : files.Nodup) :
    (labels texts files).Nodup := by
  have hinj (kind : FieldKind) : Function.Injective fun name : String ↦ (kind, name) :=
    fun _ _ h ↦ (Prod.mk.inj h).2
  refine List.nodup_append.mpr ⟨htexts.map (hinj .text), hfiles.map (hinj .file), ?_⟩
  rintro _ hx _ hy rfl
  obtain ⟨_, -, rfl⟩ := List.mem_map.mp hx
  obtain ⟨_, -, hy⟩ := List.mem_map.mp hy
  cases hy

@[simp] theorem mem_labels_iff {kind : FieldKind} {name : String} :
    (kind, name) ∈ labels texts files ↔
      kind = .text ∧ name ∈ texts ∨ kind = .file ∧ name ∈ files := by
  simp [labels, and_comm, eq_comm]

theorem collected_pressAll (hne : texts ++ files ≠ []) (ks : List Key) :
    Collected texts files prefilled (ks.takeWhile fun k ↦ !k.ends)
      ((new texts files prefilled).pressAll ks) := by
  have hn := length_new_pos prefilled hne
  rw [pressAll_eq rfl rfl hn]
  rw [length_new] at hn ⊢
  refine ⟨?_, ?_, ?_, ?_, rfl⟩
  · rw [List.length_mapIdx, length_new]
  · intro i name hi
    have hlt : i < texts.length := (List.getElem?_eq_some_iff.mp hi).1
    rw [List.getElem?_mapIdx, new, List.getElem?_append_left (by simpa using hlt),
      List.getElem?_map, hi]
    rfl
  · intro i name hi
    rw [List.getElem?_mapIdx, new, List.getElem?_append_right (by simp), List.length_map,
      Nat.add_sub_cancel_left, List.getElem?_map, hi]
    rfl
  · rw [List.length_mapIdx, length_new]
    exact place_lt hn _

theorem supplied_values {f : Form} (hlabels : f.fields.map Field.label = labels texts files)
    (htexts : texts.Nodup) (hfiles : files.Nodup) : Supplied texts files f.fields f.values := by
  have hnodup : (f.fields.map Field.label).Nodup := hlabels ▸ nodup_labels htexts hfiles
  have hmem : ∀ x ∈ f.fields, (x.kind, x.name) ∈ labels texts files :=
    fun x hx ↦ hlabels ▸ List.mem_map.mpr ⟨x, hx, rfl⟩
  refine ⟨fun x hx hkind ↦ text?_values hnodup hx hkind, ?_, ?_, ?_, ?_⟩
  · exact fun x hx hkind hinput ↦
      (file?_values hnodup hx hkind).trans (Field.path?_of_not_blank hinput)
  · exact fun x hx hkind hinput ↦
      (file?_values hnodup hx hkind).trans (Field.path?_of_blank hinput)
  · refine fun name hname ↦ text?_values_eq_none fun x hx hkind heq ↦ hname ?_
    simpa [hkind, heq] using hmem x hx
  · refine fun name hname ↦ file?_values_eq_none fun x hx hkind heq ↦ hname ?_
    simpa [hkind, heq] using hmem x hx

/-- **A form collects what was typed where.** The keys up to the first one that submits or dismisses
the form bring it into the state that they describe, and no later key changes it. If the form is
submitted, the values that it gives are those of its fields; if it is dismissed, it gives none. -/
theorem collects (htexts : texts.Nodup) (hfiles : files.Nodup) (hne : texts ++ files ≠ [])
    (ks : List Key) :
    let form := (new texts files prefilled).pressAll ks
    Collected texts files prefilled (ks.takeWhile fun k ↦ !k.ends) form ∧
      provider (m := Id) (pure (some ks)) prefilled texts files = pure (.ok form.answer) ∧
      ∀ k, ks.find? Key.ends = some k →
        (k = .enter →
          ∃ v, form.answer = .values v ∧ Supplied texts files form.fields v) ∧
        (k ≠ .enter → form.answer = .cancelled) ∧
        ∀ more, (new texts files prefilled).pressAll (ks ++ more) = form := by
  intro form
  have hform : form = _ := pressAll_eq rfl rfl (length_new_pos prefilled hne) ks
  have hlabels : form.fields.map Field.label = labels texts files := by
    rw [hform, label_mapIdx_typed, label_new]
  refine ⟨collected_pressAll prefilled hne ks, rfl, fun k hk ↦ ?_⟩
  have hstatus : form.status = ending (some k) := by rw [hform, hk]
  refine ⟨?_, ?_, ?_⟩
  · rintro rfl
    refine ⟨form.values, ?_, supplied_values hlabels htexts hfiles⟩
    rw [answer, hstatus]
    rfl
  · intro hkey
    rw [answer, hstatus, ending_of_ne_enter hkey]
  · intro more
    rw [pressAll_append]
    exact pressAll_of_ne_editing (hstatus ▸ ending_ne_editing k) more

/-- A text and a file share a name, the selection goes round backwards, control counts with no other
character than `c`, and what is pressed after the form was submitted is lost. -/
theorem collects_shared_name :
    let ks : List Key := [.backspace, .backTab, .char 'c' false, .char ' ' false, .other, .down,
      .char 'z' true, .enter, .char 'q' false, .char 'c' true]
    ∃ v, ((new ["a", "b"] ["a"] ⟨[("a", "xy")], []⟩).pressAll ks).answer = .values v ∧
      v.text? "a" = some "xz" ∧ v.text? "b" = some "" ∧
      v.file? "a" = some ⟨"c"⟩ ∧ v.file? "b" = none := by
  intro ks
  obtain ⟨hcollected, -, hended⟩ := collects ⟨[("a", "xy")], []⟩ (show ["a", "b"].Nodup by decide)
    (show ["a"].Nodup by decide) (by decide) ks
  obtain ⟨v, hanswer, hsupplied⟩ := (hended .enter (by decide +kernel)).1 rfl
  have hfirst := hsupplied.text _ (List.mem_of_getElem? (hcollected.text_field 0 "a" rfl)) rfl
  have hsecond := hsupplied.text _ (List.mem_of_getElem? (hcollected.text_field 1 "b" rfl)) rfl
  have hfile := hsupplied.file _ (List.mem_of_getElem? (hcollected.file_field 0 "a" rfl)) rfl
    ⟨'c', by decide +kernel, by decide⟩
  refine ⟨v, hanswer, hfirst.trans (by decide +kernel), hsecond.trans (by decide +kernel), ?_,
    hsupplied.file_only "b" (by decide)⟩
  exact hfile.trans (congrArg (fun s ↦ some (Path.mk s)) (by decide +kernel))

end Collect

end Form

end PromptLibrary
