import PromptLibrary.Path

/-!
# Components of joined paths

What a path denotes are its components. Joining a name to a path adds one component at the end
(`Path.components_join`), whatever the path looks like: it may be empty, end in a slash or be a lone
dot. The name must be one that stands for itself (`Path.IsName`): it is not empty, has no slash, and
is not one of the two names made of dots.

The offsets of `Path.componentsFrom` serve only to cut a path at its last component, so the laws
here are about `Path.componentsOf`, which leaves them out.
-/

namespace PromptLibrary.Path

/-! ## Segments -/

theorem segments_ne_nil (cs : List Char) : segments cs ≠ [] := by
  cases cs with
  | nil => exact List.cons_ne_nil _ _
  | cons c cs =>
    rw [segments]
    split
    · exact List.cons_ne_nil _ _
    · split <;> exact List.cons_ne_nil _ _

theorem segments_append_slash (cs ds : List Char) :
    segments (cs ++ '/' :: ds) = segments cs ++ segments ds := by
  induction cs with
  | nil => rfl
  | cons c cs ih =>
    rw [List.cons_append, segments, segments, ih]
    split
    · rfl
    · cases h : segments cs with
      | nil => exact absurd h (segments_ne_nil cs)
      | cons s ss => rfl

theorem segments_of_notMem {cs : List Char} (h : '/' ∉ cs) : segments cs = [cs] := by
  induction cs with
  | nil => rfl
  | cons c cs ih =>
    obtain ⟨hc, hcs⟩ := not_or.mp fun hmem ↦ h (List.mem_cons.mpr hmem)
    rw [segments, if_neg (Ne.symm hc), ih hcs]

theorem notMem_of_mem_segments {cs s : List Char} (h : s ∈ segments cs) : '/' ∉ s := by
  induction cs generalizing s with
  | nil =>
    rw [segments, List.mem_singleton] at h
    rw [h]
    exact List.not_mem_nil
  | cons c cs ih =>
    rw [segments] at h
    split at h
    · rcases List.mem_cons.mp h with rfl | h
      · exact List.not_mem_nil
      · exact ih h
    · rename_i hc
      cases hss : segments cs with
      | nil => exact absurd hss (segments_ne_nil cs)
      | cons t ts =>
        rw [hss] at h ih
        rcases List.mem_cons.mp h with rfl | h
        · intro hmem
          rcases List.mem_cons.mp hmem with heq | hmem
          · exact hc heq.symm
          · exact ih List.mem_cons_self hmem
        · exact ih (List.mem_cons_of_mem _ h)

/-! ## Components -/

/-- The components of some segments. A dot counts only as the first segment of a path. -/
def componentsOf : Bool → List (List Char) → List Component
  | _, [] => []
  | first, s :: ss => (component? first s).toList ++ componentsOf false ss

theorem map_fst_componentsFrom (offset : Nat) (first : Bool) (ss : List (List Char)) :
    (componentsFrom offset first ss).map (·.1) = componentsOf first ss := by
  induction ss generalizing offset first with
  | nil => rfl
  | cons s ss ih =>
    have hrest := ih (offset + s.length + 1) false
    rw [componentsFrom, componentsOf]
    cases component? first s with
    | none => exact hrest
    | some c => exact congrArg (c :: ·) hrest

theorem componentsOf_append {first : Bool} {ss : List (List Char)} (h : ss ≠ [])
    (ts : List (List Char)) :
    componentsOf first (ss ++ ts) = componentsOf first ss ++ componentsOf false ts := by
  induction ss generalizing first with
  | nil => exact absurd rfl h
  | cons s ss ih =>
    rw [List.cons_append, componentsOf, componentsOf, List.append_assoc]
    cases ss with
    | nil => rfl
    | cons t ss => rw [ih (List.cons_ne_nil _ _)]

theorem components_eq (p : Path) :
    p.components =
      (if p.isAbsolute then [.root] else []) ++ componentsOf true (segments p.text.toList) := by
  rw [components, spans, isAbsolute]
  split
  · rename_i cs h
    -- the empty segment before the slash counts for nothing
    rw [h, List.map_cons, map_fst_componentsFrom]
    rfl
  · rename_i h
    have hhead : (p.text.toList.head? == some '/') = false := by
      cases hcs : p.text.toList with
      | nil => rfl
      | cons c cs =>
        have hc : c ≠ '/' := by
          rintro rfl
          exact h cs hcs
        simpa using hc
    rw [map_fst_componentsFrom, hhead]
    rfl

theorem mem_segments_of_mem_componentsOf {first : Bool} {ss : List (List Char)} {n : String}
    (h : .name n ∈ componentsOf first ss) : n.toList ∈ ss := by
  induction ss generalizing first with
  | nil => exact absurd h List.not_mem_nil
  | cons s ss ih =>
    rw [componentsOf, List.mem_append] at h
    rcases h with h | h
    · rw [Option.mem_toList, component?] at h
      have hs : Component.name (String.ofList s) = .name n := by
        split at h
        · cases h
        · split at h
          · split at h <;> cases h
          · split at h
            · cases h
            · exact Option.some.inj h
      obtain rfl := Component.name.inj hs
      rw [String.toList_ofList]
      exact List.mem_cons_self
    · exact List.mem_cons_of_mem _ (ih h)

/-! ## Names -/

/-- The text is a component of its own. -/
structure IsName (s : String) : Prop where
  /-- It is not empty. -/
  ne_nil : s.toList ≠ []
  /-- It has no slash. -/
  slash : '/' ∉ s.toList
  /-- It is not a dot. -/
  ne_dot : s.toList ≠ ['.']
  /-- It is not two dots. -/
  ne_dots : s.toList ≠ ['.', '.']

theorem IsName.componentsOf {s : String} (h : IsName s) (first : Bool) :
    componentsOf first (segments s.toList) = [.name s] := by
  rw [segments_of_notMem h.slash, Path.componentsOf, component?, if_neg h.ne_nil, if_neg h.ne_dot,
    if_neg h.ne_dots, String.ofList_toList]
  rfl

theorem IsName.isAbsolute_eq {s : String} (h : IsName s) : (⟨s⟩ : Path).isAbsolute = false := by
  have hslash := h.slash
  rw [isAbsolute]
  cases hs : s.toList with
  | nil => rfl
  | cons c cs =>
    rw [hs] at hslash
    have hc : c ≠ '/' := by
      rintro rfl
      exact hslash List.mem_cons_self
    simpa using hc

theorem notMem_of_fileName {p : Path} {n : String} (h : p.fileName = some n) :
    '/' ∉ n.toList := by
  have hlast : p.components.getLast? = some (.name n) := by
    rw [fileName] at h
    split at h
    · rename_i m hm
      obtain rfl := Option.some.inj h
      exact hm
    · cases h
  have hmem := List.mem_of_getLast? hlast
  rw [components_eq, List.mem_append] at hmem
  rcases hmem with hmem | hmem
  · split at hmem
    · exact absurd (List.mem_singleton.mp hmem) nofun
    · exact absurd hmem List.not_mem_nil
  · exact notMem_of_mem_segments (mem_segments_of_mem_componentsOf hmem)

theorem notMem_of_stem {p : Path} {n : String} (h : p.stem = some n) : '/' ∉ n.toList := by
  obtain ⟨m, hm, rfl⟩ := Option.map_eq_some_iff.mp h
  have hslash := notMem_of_fileName hm
  rw [String.toList_ofList, splitName]
  split
  · exact hslash
  · exact fun hmem ↦ hslash (List.mem_of_mem_take hmem)

theorem dot_notMem_of_extension {p : Path} {e : String} (h : p.extension = some e) :
    '.' ∉ e.toList := by
  obtain ⟨n, -, he⟩ := Option.bind_eq_some_iff.mp h
  obtain ⟨cs, hcs, rfl⟩ := Option.map_eq_some_iff.mp he
  rw [String.toList_ofList]
  rw [splitName] at hcs
  split at hcs
  · cases hcs
  · obtain rfl := Option.some.inj hcs
    intro hmem
    have hdot := List.all_eq_true.mp List.all_takeWhile '.' (List.mem_reverse.mp hmem)
    exact absurd hdot (by decide)

/-! ## Joining -/

/-- A slash cuts a path in two. That the path is absolute is decided before or at the slash. -/
theorem components_of_slash {p : Path} {cs ds : List Char} (h : p.text.toList = cs ++ '/' :: ds) :
    p.components = (if (cs ++ ['/']).head? == some '/' then [.root] else []) ++
      componentsOf true (segments cs) ++ componentsOf false (segments ds) := by
  have habsolute : p.isAbsolute = ((cs ++ ['/']).head? == some '/') := by
    rw [isAbsolute, h]
    cases cs <;> rfl
  rw [components_eq, habsolute, h, segments_append_slash, componentsOf_append (segments_ne_nil cs),
    List.append_assoc]

/-- A name that is joined to a path becomes its last component. -/
theorem components_join (base : Path) {s : String} (h : IsName s) :
    (base.join s).components = base.components ++ [.name s] := by
  rw [join, if_neg (by simp [h.isAbsolute_eq])]
  split
  · rename_i hlast
    -- joined to the empty path, the name stands alone
    have hempty : base.text.toList = [] := List.getLast?_eq_none_iff.mp hlast
    rw [components_eq, components_eq, h.isAbsolute_eq, h.componentsOf, isAbsolute, hempty]
    rfl
  · rename_i hlast
    obtain ⟨cs, hcs⟩ := List.getLast?_eq_some_iff.mp hlast
    have hjoined : (base.text ++ s).toList = cs ++ '/' :: s.toList := by
      rw [String.toList_append, hcs, List.append_assoc, List.singleton_append]
    -- the slash at the end of the base cuts off nothing
    have hbase := components_of_slash hcs
    rw [segments, componentsOf, component?, if_pos rfl] at hbase
    rw [components_of_slash hjoined, hbase, h.componentsOf]
    simp [componentsOf]
  · rename_i c _ hlast
    obtain ⟨cs, hcs⟩ := List.getLast?_eq_some_iff.mp hlast
    have hjoined : (base.text ++ "/" ++ s).toList = base.text.toList ++ '/' :: s.toList := by
      simp [String.toList_append]
    have habsolute : ((base.text.toList ++ ['/']).head? == some '/') = base.isAbsolute := by
      rw [isAbsolute, hcs, List.append_assoc]
      cases cs <;> rfl
    rw [components_of_slash hjoined, habsolute, h.componentsOf, ← components_eq]

end PromptLibrary.Path
