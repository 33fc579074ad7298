import Mathlib.Data.List.DropRight
import PromptLibrary.Proofs.Library.WellFormed

/-!
# A library as a list of pairs

Templates are added, changed in place and removed in any order, and some of these operations fail.
`Library.Operation.onPairs` says what each of them does to a list of names and templates in terms of
lists alone: a pair is appended, the pairs of a name are changed, or they are taken out. A library
under the same operations is at every time this list of pairs, with each name once, and every
operation reports the same (`Library.mirrors_carryOutAll`).

A library that was read may have names with blanks around them. They stay as they are, and none is
added.
-/

namespace PromptLibrary

/-- Makes changes one after another. The reports come with what is left in the end. -/
def carryOutAll {α σ : Type} :
    List (σ → Except Error α × σ) → σ → List (Except Error α) × σ
  | [], s => ([], s)
  | change :: changes, s =>
    let (report, s') := change s
    let (reports, s'') := carryOutAll changes s'
    (report :: reports, s'')

/-! ## Trimmed names -/

namespace Text

theorem trimChars_eq_rdropWhile (cs : List Char) :
    trimChars cs = (cs.dropWhile isBlank).rdropWhile isBlank :=
  rfl

theorem trimChars_trimChars (cs : List Char) : trimChars (trimChars cs) = trimChars cs := by
  -- what is cut off behind leaves the first character, which is no blank
  have hfirst : (trimChars cs).dropWhile isBlank = trimChars cs := by
    cases htrimmed : trimChars cs with
    | nil => rfl
    | cons c rest =>
      obtain ⟨tail, htail⟩ : trimChars cs <+: cs.dropWhile isBlank := List.rdropWhile_prefix _ _
      have hc := List.head?_dropWhile_not isBlank cs
      rw [← htail, htrimmed] at hc
      exact List.dropWhile_cons_of_neg (by simpa using hc)
  rw [trimChars_eq_rdropWhile, hfirst, trimChars_eq_rdropWhile, List.rdropWhile_idempotent]

@[simp] theorem trim_trim (s : String) : trim (trim s) = trim s := by
  rw [trim, trim, String.toList_ofList, trimChars_trimChars]

end Text

/-! ## Operations -/

/-- Something that is done to the templates of a library. -/
inductive Library.Operation where
  /-- An empty user template is added. -/
  | create (name : String)
  /-- A template is added. -/
  | insert (name : String) (t : Template)
  /-- A template is changed in place. -/
  | change (name : String) (f : Template → Template)
  /-- A template is removed. -/
  | remove (name : String)

namespace Library.Operation

/-- A change, and then the template under a name. -/
def reporting (x : Change Unit) (name : String) : Change (Option Template) := do
  x
  let l ← get
  return l.get? name

/-- The operation on a library. The template that was added, changed or removed is handed back. -/
def edit : Operation → Change (Option Template)
  | create name => reporting (.create name) (Text.trim name)
  | insert name t => reporting (.insert name t) (Text.trim name)
  | change name f => reporting (.update name f) name
  | remove name => some <$> .remove name

/-- Adds a pair at the end under a trimmed name, which must not be empty or taken. -/
def append (name : String) (t : Template) (ps : List (String × Template)) :
    Except Error (Option Template) × List (String × Template) :=
  let name := Text.trim name
  if name = "" then (.error (.invalidTemplateName ""), ps)
  else if name ∈ ps.map (·.1) then (.error (.templateExists name), ps)
  else (.ok (some t), ps ++ [(name, t)])

/-- The operation on a list of pairs. -/
def onPairs : Operation → List (String × Template) →
    Except Error (Option Template) × List (String × Template)
  | create name, ps => append name {} ps
  | insert name t, ps => append name t ps
  | change name f, ps =>
    match ps.lookup name with
    | some t => (.ok (some (f t)), ps.map fun p ↦ if p.1 == name then (p.1, f p.2) else p)
    | none => (.error (.templateNotFound name), ps)
  | remove name, ps =>
    match ps.lookup name with
    | some t => (.ok (some t), ps.filter fun p ↦ p.1 != name)
    | none => (.error (.templateNotFound name), ps)

/-! ### One operation -/

section Steps

variable (header : Header) {ps : List (String × Template)}

theorem perform_reporting (x : Change Unit) (name : String) (l : Library) :
    perform (reporting x name) l =
      match perform x l with
      | (.ok _, l') => (.ok (l'.get? name), l')
      | (.error e, l') => (.error e, l') := by
  rw [reporting, perform_bind]
  rcases perform x l with ⟨_ | _, l'⟩ <;> rfl

theorem perform_insert_eq_append (name : String) (t : Template) :
    perform (reporting (.insert name t) (Text.trim name)) ⟨header, ps⟩ =
      ((append name t ps).1, ⟨header, (append name t ps).2⟩) := by
  rw [perform_reporting, Change.perform_insert, append]
  dsimp only
  by_cases hempty : Text.trim name = ""
  · rw [if_pos hempty, if_pos hempty, hempty]
  · rw [if_neg hempty, if_neg hempty]
    by_cases htaken : Text.trim name ∈ ps.map (·.1)
    · rw [if_pos htaken, if_pos (Entries.contains_iff_mem_keys.mpr htaken)]
    · rw [if_neg htaken, if_neg (mt Entries.contains_iff_mem_keys.mp htaken)]
      have hget : Entries.get? (Entries.insert (Text.trim name) t ps) (Text.trim name) =
          some t := by
        rw [Entries.get?_insert, if_pos BEq.rfl]
      dsimp only
      rw [Library.get?, hget, Entries.insert_of_notMem t htaken]

/-- An operation on a library is the operation on its pairs, and leaves the header. -/
theorem perform_edit (h : (ps.map (·.1)).Nodup) (op : Operation) :
    perform op.edit ⟨header, ps⟩ = ((op.onPairs ps).1, ⟨header, (op.onPairs ps).2⟩) := by
  have hrequire (name : String) : Library.require ⟨header, ps⟩ name =
      match ps.lookup name with
      | some t => .ok t
      | none => .error (.templateNotFound name) := by
    rw [← Entries.get?_eq_lookup]
    rfl
  cases op with
  | create name => exact perform_insert_eq_append header name {}
  | insert name t => exact perform_insert_eq_append header name t
  | change name f =>
    rw [edit, onPairs, perform_reporting, Change.perform_update, hrequire]
    cases hlookup : ps.lookup name with
    | none => rfl
    | some t =>
      have hget : Entries.get? (Entries.modify name f ps) name = some (f t) := by
        rw [Entries.get?_modify, if_pos BEq.rfl, Entries.get?_eq_lookup, hlookup]
        rfl
      dsimp only
      rw [Library.get?, hget, Entries.modify_eq_map h]
  | remove name =>
    rw [edit, onPairs, map_eq_pure_bind, perform_bind, Change.perform_remove, hrequire]
    cases hlookup : ps.lookup name with
    | none => rfl
    | some t =>
      dsimp only
      rw [Entries.erase_eq_filter h]
      rfl

end Steps

variable {ps : List (String × Template)}

/-- No name occurs twice, and the names that are new are trimmed. -/
structure Named (ps ps' : List (String × Template)) : Prop where
  /-- The names are distinct. -/
  distinct : (ps'.map (·.1)).Nodup
  /-- A name that was not there before is not empty and has no blanks around it. -/
  trimmed : ∀ n ∈ ps'.map (·.1), n ∈ ps.map (·.1) ∨ n ≠ "" ∧ Text.trim n = n

theorem Named.trans {ps₁ ps₂ ps₃ : List (String × Template)} (h : Named ps₁ ps₂)
    (h' : Named ps₂ ps₃) : Named ps₁ ps₃ :=
  ⟨h'.distinct, fun n hn ↦ (h'.trimmed n hn).elim (h.trimmed n) .inr⟩

theorem Named.refl (h : (ps.map (·.1)).Nodup) : Named ps ps :=
  ⟨h, fun _ ↦ .inl⟩

theorem Named.of_sublist (h : (ps.map (·.1)).Nodup) {ps' : List (String × Template)}
    (hsub : (ps'.map (·.1)).Sublist (ps.map (·.1))) : Named ps ps' :=
  ⟨h.sublist hsub, fun _ hn ↦ .inl (hsub.subset hn)⟩

theorem named_append (h : (ps.map (·.1)).Nodup) (name : String) (t : Template) :
    Named ps (append name t ps).2 := by
  rw [append]
  split
  · exact .refl h
  · rename_i hempty
    split
    · exact .refl h
    · rename_i htaken
      have hnames : (ps ++ [(Text.trim name, t)]).map (·.1) = ps.map (·.1) ++ [Text.trim name] := by
        simp
      refine ⟨?_, fun n hn ↦ ?_⟩
      · rw [hnames]
        exact List.nodup_append_comm.mp (List.nodup_cons.mpr ⟨htaken, h⟩)
      · rw [hnames, List.mem_append, List.mem_singleton] at hn
        rcases hn with hn | rfl
        · exact .inl hn
        · exact .inr ⟨hempty, Text.trim_trim name⟩

theorem named_onPairs (h : (ps.map (·.1)).Nodup) (op : Operation) :
    Named ps (op.onPairs ps).2 := by
  cases op with
  | create name => exact named_append h name {}
  | insert name t => exact named_append h name t
  | change name f =>
    rw [onPairs]
    split
    · have hnames : (ps.map fun p ↦ if p.1 == name then (p.1, f p.2) else p).map (·.1) =
          ps.map (·.1) := by
        rw [List.map_map]
        exact List.map_congr_left fun p _ ↦ by rw [Function.comp, apply_ite Prod.fst, ite_self]
      exact .of_sublist h (hnames ▸ List.Sublist.refl _)
    · exact .refl h
  | remove name =>
    rw [onPairs]
    split
    · exact .of_sublist h (List.filter_sublist.map _)
    · exact .refl h

theorem append_of_error {name : String} {t : Template} {e : Error}
    (h : (append name t ps).1 = .error e) : (append name t ps).2 = ps := by
  rw [append] at h ⊢
  split at h
  · rw [if_pos ‹_›]
  · split at h
    · rw [if_neg ‹_›, if_pos ‹_›]
    · cases h

theorem onPairs_of_error {op : Operation} {e : Error} (h : (op.onPairs ps).1 = .error e) :
    (op.onPairs ps).2 = ps := by
  cases op with
  | create name => exact append_of_error h
  | insert name t => exact append_of_error h
  | change name f | remove name =>
    rw [onPairs] at h ⊢
    cases hlookup : ps.lookup name with
    | none => rfl
    | some t =>
      rw [hlookup] at h
      cases h

/-! ### All operations -/

theorem carryOutAll_perform_edit (header : Header) (h : (ps.map (·.1)).Nodup)
    (ops : List Operation) :
    let expected := carryOutAll (ops.map onPairs) ps
    carryOutAll (ops.map fun op ↦ perform op.edit) ⟨header, ps⟩ =
        (expected.1, ⟨header, expected.2⟩) ∧
      Named ps expected.2 := by
  induction ops generalizing ps with
  | nil => exact ⟨rfl, .refl h⟩
  | cons op ops ih =>
    have hnamed := named_onPairs h op
    obtain ⟨hrest, hnamed'⟩ := ih hnamed.distinct
    simp only [List.map_cons, carryOutAll, perform_edit header h op, hrest]
    exact ⟨trivial, hnamed.trans hnamed'⟩

end Library.Operation

namespace Library

/-- A library has the names and templates of a list of pairs. -/
structure Mirrors (l : Library) (ps : List (String × Template)) : Prop where
  /-- The templates are those of the pairs, in order. -/
  templates : l.templates = ps
  /-- The names are those of the pairs, in order. -/
  names : l.names = ps.map (·.1)
  /-- No name occurs twice. -/
  distinct : l.names.Nodup
  /-- A template is found under a name if it is paired with it. -/
  found : ∀ name t, l.get? name = some t ↔ (name, t) ∈ ps
  /-- The system templates are those of the pairs, in order. -/
  systemNames : l.systemNames = (ps.filter fun p ↦ p.2.role = .system).map (·.1)

theorem mirrors_of_nodup {header : Header} {ps : List (String × Template)}
    (h : (ps.map (·.1)).Nodup) : Mirrors ⟨header, ps⟩ ps :=
  ⟨rfl, rfl, h, fun _ _ ↦ Entries.get?_eq_some_iff h, rfl⟩

/-- **A library is a list of pairs with distinct names.** After any operations a library has the
pairs that the same operations make of its pairs, and every operation has reported what it reports
for the pairs. Names that were added are trimmed, the header stays, and an operation that fails
leaves the library as it was. -/
theorem mirrors_carryOutAll (l : Library) (h : l.names.Nodup) (ops : List Operation) :
    let done := carryOutAll (ops.map fun op ↦ perform op.edit) l
    let expected := carryOutAll (ops.map Operation.onPairs) l.templates
    done.1 = expected.1 ∧ done.2.Mirrors expected.2 ∧ done.2.header = l.header ∧
      (∀ n ∈ done.2.names, n ∈ l.names ∨ n ≠ "" ∧ Text.trim n = n) ∧
      ∀ (op : Operation) (e : Error), (perform op.edit done.2).1 = .error e →
        (perform op.edit done.2).2 = done.2 := by
  obtain ⟨hrun, hnamed⟩ := Operation.carryOutAll_perform_edit l.header h ops
  intro done expected
  have hdone : done = (expected.1, ⟨l.header, expected.2⟩) := hrun
  rw [hdone]
  refine ⟨rfl, mirrors_of_nodup hnamed.distinct, rfl, hnamed.trimmed, fun op e he ↦ ?_⟩
  -- every operation checks before it changes anything, on the library as on the pairs
  rw [Operation.perform_edit l.header hnamed.distinct] at he ⊢
  rw [Operation.onPairs_of_error he]

/-- A library was read with a name that has blanks around it. The trimmed name is added beside it,
is taken then, and is added again at the end after it was removed. -/
theorem mirrors_carryOutAll_blanks :
    let system : Template := { role := .system }
    let l : Library := { templates := [(" a ", system), ("b", {})] }
    let ops : List Operation := [.insert " a " {}, .create "a\n", .insert "c" system, .remove "a",
      .change "a" fun _ ↦ system, .create "  ", .insert "\ta" system, .remove "b"]
    let done := carryOutAll (ops.map fun op ↦ perform op.edit) l
    l.names.Nodup ∧ done.2.names = [" a ", "c", "a"] ∧ done.2.systemNames = [" a ", "c", "a"] ∧
      done.1 = [.ok (some {}), .error (.templateExists "a"), .ok (some system), .ok (some {}),
        .error (.templateNotFound "a"), .error (.invalidTemplateName ""), .ok (some system),
        .ok (some {})] := by
  intro system l ops done
  have hdistinct : l.names.Nodup := by decide
  obtain ⟨hreports, hmirrors, -⟩ := mirrors_carryOutAll l hdistinct ops
  have hpairs : carryOutAll (ops.map Operation.onPairs) l.templates =
      ([.ok (some {}), .error (.templateExists "a"), .ok (some system), .ok (some {}),
        .error (.templateNotFound "a"), .error (.invalidTemplateName ""), .ok (some system),
        .ok (some {})], [(" a ", system), ("c", system), ("a", system)]) := by
    have htrimmed : Text.trim " a " = "a" ∧ Text.trim "a\n" = "a" ∧ Text.trim "c" = "c" ∧
        Text.trim "  " = "" ∧ Text.trim "\ta" = "a" := by decide
    simp [ops, l, carryOutAll, Operation.onPairs, Operation.append, htrimmed, List.lookup_cons]
  rw [hpairs] at hreports hmirrors
  exact ⟨hdistinct, hmirrors.names, hmirrors.systemNames, hreports⟩

end Library

end PromptLibrary
