import PromptLibrary.Proofs.Placeholder.Hole

/-!
# Text placeholders in a filled prompt

What is inserted is not looked at again, so a value without delimiters brings no placeholder with
it. But it can complete one. The template may have a `<` and a `>` of its own around a placeholder,
and when the placeholder is filled, they close over what stands in its place: `<< << a >> >>`
becomes `<< b >>`. The same happens around an empty value, where delimiters on either side come
together.

If every text placeholder has a value, this is the only way
(`Placeholder.scan_resolved_eq_nil_iff`). A text token of the filled prompt then has its delimiters
from the template, and a hole between its first character and its last: without one, it would have
been a token of the template, and would have been replaced itself.
-/

namespace PromptLibrary.Placeholder

open Pattern

/-! ## Parts that stay -/

namespace Part

/-- The part is replaced. -/
def IsHole : Part → Prop
  | literal _ => False
  | value _ => True
  | content _ => True

instance : DecidablePred IsHole
  | literal _ => .isFalse id
  | value _ => .isTrue trivial
  | content _ => .isTrue trivial

/-- The character of a part that stays. -/
def literal? : Part → Option Char
  | literal c => some c
  | _ => none

theorem isHole_or_exists_literal (part : Part) : part.IsHole ∨ ∃ c, part = literal c := by
  cases part with
  | literal c => exact .inr ⟨c, rfl⟩
  | value t => exact .inl trivial
  | content name => exact .inl trivial

theorem literal?_of_isHole {part : Part} (h : part.IsHole) : part.literal? = none := by
  cases part with
  | literal c => exact absurd h id
  | value t => rfl
  | content name => rfl

end Part

/-- The characters of a prompt outside all that is replaced. -/
def literals (parts : List Part) : List Char :=
  parts.filterMap Part.literal?

section Filled

variable {fill : Part → List Char} {parts : List Part} {c : Char}

/-- A character that no hole is filled with is one that stays. -/
theorem exists_literal_of_flatMap_eq (hliteral : ∀ d, fill (.literal d) = [d])
    (hplain : ∀ part ∈ parts, part.IsHole → c ∉ fill part) {xs ys : List Char}
    (h : parts.flatMap fill = xs ++ c :: ys) :
    ∃ before after, parts = before ++ .literal c :: after ∧ before.flatMap fill = xs ∧
      after.flatMap fill = ys := by
  induction parts generalizing xs with
  | nil => simp at h
  | cons part parts ih =>
    obtain ⟨hpart, hplain⟩ := List.forall_mem_cons.mp hplain
    rw [List.flatMap_cons] at h
    rcases List.append_eq_append_iff.mp h with ⟨zs, hxs, hrest⟩ | ⟨zs, hfilled, hrest⟩
    · obtain ⟨before, after, rfl, hbefore, hafter⟩ := ih hplain hrest
      refine ⟨part :: before, after, rfl, ?_, hafter⟩
      rw [List.flatMap_cons, hbefore, hxs]
    · cases zs with
      | nil =>
        rw [List.append_nil] at hfilled
        have hbehind : parts.flatMap fill = [] ++ c :: ys := hrest.symm
        obtain ⟨before, after, rfl, hbefore, hafter⟩ := ih hplain hbehind
        refine ⟨part :: before, after, rfl, ?_, hafter⟩
        rw [List.flatMap_cons, hbefore, hfilled, List.append_nil]
      | cons z zs =>
        obtain ⟨rfl, hys⟩ := List.cons.inj hrest
        rcases part.isHole_or_exists_literal with hhole | ⟨d, rfl⟩
        · exact absurd (hfilled ▸ List.mem_append_right _ List.mem_cons_self) (hpart hhole)
        · -- a single character, so nothing stands before it or behind it
          rw [hliteral] at hfilled
          obtain ⟨rfl, hsingle⟩ | ⟨_, hnil⟩ := List.singleton_eq_append_iff.mp hfilled
          · obtain ⟨rfl, rfl⟩ := List.cons.inj hsingle
            exact ⟨[], parts, rfl, rfl, hys.symm⟩
          · cases hnil

theorem eq_map_literal_of_no_holes (hliteral : ∀ d, fill (.literal d) = [d])
    (h : ∀ part ∈ parts, ¬part.IsHole) : parts = (parts.flatMap fill).map .literal := by
  induction parts with
  | nil => rfl
  | cons part parts ih =>
    obtain ⟨hpart, hparts⟩ := List.forall_mem_cons.mp h
    obtain ⟨d, rfl⟩ := part.isHole_or_exists_literal.resolve_left hpart
    rw [List.flatMap_cons, hliteral, List.singleton_append, List.map_cons, ← ih hparts]

theorem count_flatMap (hliteral : ∀ d, fill (.literal d) = [d])
    (hplain : ∀ part ∈ parts, part.IsHole → c ∉ fill part) :
    (parts.flatMap fill).count c = (literals parts).count c := by
  induction parts with
  | nil => rfl
  | cons part parts ih =>
    obtain ⟨hpart, hplain⟩ := List.forall_mem_cons.mp hplain
    rw [List.flatMap_cons, List.count_append, ih hplain, literals, literals, List.filterMap_cons]
    rcases part.isHole_or_exists_literal with hhole | ⟨d, rfl⟩
    · rw [Part.literal?_of_isHole hhole, List.count_eq_zero.mpr (hpart hhole), Nat.zero_add]
    · rw [hliteral, ← List.count_append]
      rfl

end Filled

/-! ## The tokens of the template -/

/-- If every text token of the prompt has a value, none is among the characters that stay. -/
theorem not_infix_outline {files supplied : List String}
    (hfiles : ∀ f ∈ files, (Element.token .file f).Canonical) {t : Token}
    (ht : (ofKind .text).Fits t) {cs : List Char}
    (hsupplied : ∀ s ∈ (ofKind .text).spans cs, String.ofList s.token.name ∈ supplied) :
    ¬t.spelling.map .literal <:+: outline files supplied cs := by
  obtain ⟨d, ds, hspelling⟩ :=
    List.exists_cons_of_ne_nil (ht.spelling_ne_nil (delimited_ofKind .text))
  induction cs using outline_induction supplied hfiles with
  | nil =>
    rw [outline_nil, List.infix_nil, hspelling]
    exact List.cons_ne_nil _ _
  | literal c cs htext hfile ih =>
    rw [spans_cons_of_none htext, List.forall_mem_map] at hsupplied
    rw [outline_literal htext hfile, List.infix_cons_iff, not_or]
    refine ⟨?_, ih hsupplied⟩
    -- the prompt would begin with the token
    rintro ⟨after, hafter⟩
    have hspelled : (t.spelling.map Part.literal).flatMap Part.spelling = t.spelling := by
      rw [List.flatMap_map]
      exact List.flatMap_singleton' _
    have hprompt := congrArg (List.flatMap Part.spelling) hafter
    rw [List.flatMap_append, hspelled, List.flatMap_cons, spelling_outline] at hprompt
    rw [show c :: cs = t.spelling ++ _ from hprompt.symm,
      tokenAt?_spelling (delimited_ofKind .text) ht] at htext
    cases htext
  | value u rest hu hmem ih =>
    rw [spans_append_of_token (delimited_ofKind .text) hu, List.forall_mem_cons,
      List.forall_mem_map] at hsupplied
    rw [outline_value hu hmem, List.infix_cons_iff, not_or]
    refine ⟨?_, ih hsupplied.2⟩
    rw [hspelling, List.map_cons, List.cons_prefix_cons]
    exact fun h ↦ Part.noConfusion h.1
  | kept u rest hu hmem ih =>
    rw [spans_append_of_token (delimited_ofKind .text) hu, List.forall_mem_cons] at hsupplied
    exact absurd hsupplied.1 hmem
  | content name rest hname hfits ih =>
    rw [(for_ofKind .file).spans_spelling_append (for_ofKind .text) (by decide) hfits,
      List.forall_mem_map] at hsupplied
    rw [outline_content hfiles hname, List.infix_cons_iff, not_or]
    refine ⟨?_, ih hsupplied⟩
    rw [hspelling, List.map_cons, List.cons_prefix_cons]
    exact fun h ↦ Part.noConfusion h.1

/-! ## Tokens of the filled prompt -/

/-- A `<` and a later `>` that stay close over at least one hole: together with what stands between
them when the holes are filled, they spell a text token. -/
def Encloses (fill : Part → List Char) (parts : List Part) : Prop :=
  ∃ before inner after t,
    parts = before ++ .literal '<' :: (inner ++ .literal '>' :: after) ∧
      (∃ part ∈ inner, part.IsHole) ∧
      (ofKind .text).Fits t ∧ t.spelling = '<' :: (inner.flatMap fill ++ ['>'])

theorem two_le_count_of_fits {t : Token} (ht : (ofKind .text).Fits t) :
    2 ≤ t.spelling.count '<' ∧ 2 ≤ t.spelling.count '>' := by
  obtain ⟨hopening, hclosing, -⟩ := ht
  have hopen : t.opening.count '<' = 2 := by rw [hopening]; rfl
  have hclose : t.closing.count '>' = 2 := by rw [hclosing]; rfl
  simp only [Token.spelling, List.count_append]
  omega

theorem exists_inner_of_fits {t : Token} (ht : (ofKind .text).Fits t) :
    ∃ inner, t.spelling = '<' :: (inner ++ ['>']) := by
  obtain ⟨hopening, hclosing, -⟩ := ht
  refine ⟨'<' :: (t.before ++ t.name ++ t.after ++ ['>']), ?_⟩
  rw [Token.spelling, hopening, hclosing]
  simp [ofKind, Kind.opening, Kind.closing]

section Filled

variable {fill : Part → List Char} {parts : List Part}

theorem Encloses.exists_infix (hliteral : ∀ d, fill (.literal d) = [d])
    (h : Encloses fill parts) :
    ∃ t, (ofKind .text).Fits t ∧ t.spelling <:+: parts.flatMap fill := by
  obtain ⟨before, inner, after, t, rfl, -, ht, hspelling⟩ := h
  refine ⟨t, ht, before.flatMap fill, after.flatMap fill, ?_⟩
  simp [hspelling, hliteral, List.flatMap_append, List.flatMap_cons]

/-- A filled prompt has a text token exactly if one is closed over a hole, given that no text token
is among what stays, and that nothing is inserted that could open or close one. -/
theorem tokens_flatMap_eq_nil_iff (hliteral : ∀ d, fill (.literal d) = [d])
    (hplain : ∀ part ∈ parts, part.IsHole → '<' ∉ fill part ∧ '>' ∉ fill part)
    (hkept : ∀ t, (ofKind .text).Fits t → ¬t.spelling.map .literal <:+: parts) :
    (ofKind .text).tokens (parts.flatMap fill) = [] ↔ ¬Encloses fill parts := by
  rw [tokens_eq_nil_iff (delimited_ofKind .text)]
  constructor
  · intro hnone hencloses
    obtain ⟨t, ht, hinfix⟩ := hencloses.exists_infix hliteral
    exact hnone t ht hinfix
  · rintro hnone t ht ⟨xs, ys, hinfix⟩
    obtain ⟨mid, hspelling⟩ := exists_inner_of_fits ht
    have hopen : parts.flatMap fill = xs ++ '<' :: (mid ++ '>' :: ys) := by
      rw [← hinfix, hspelling]
      simp
    obtain ⟨before, rest, rfl, -, hrest⟩ :=
      exists_literal_of_flatMap_eq hliteral (fun part h hhole ↦ (hplain part h hhole).1) hopen
    have hplainRest : ∀ part ∈ rest, part.IsHole → '>' ∉ fill part := fun part h hhole ↦
      (hplain part (List.mem_append_right _ (List.mem_cons_of_mem _ h)) hhole).2
    obtain ⟨inner, after, rfl, hinner, -⟩ :=
      exists_literal_of_flatMap_eq hliteral hplainRest hrest
    subst hinner
    by_cases hhole : ∃ part ∈ inner, part.IsHole
    · exact hnone ⟨before, inner, after, t, rfl, hhole, ht, hspelling⟩
    · -- with no hole inside, the token is made of characters that stay
      have hstays := eq_map_literal_of_no_holes hliteral fun part h hpart ↦
        hhole ⟨part, h, hpart⟩
      refine hkept t ht ⟨before, after, ?_⟩
      rw [hspelling, List.map_cons, List.map_append, ← hstays]
      simp

/-- It takes two characters `<` and two characters `>` that stay. -/
theorem Encloses.two_le_count (hliteral : ∀ d, fill (.literal d) = [d])
    (hplain : ∀ part ∈ parts, part.IsHole → '<' ∉ fill part ∧ '>' ∉ fill part)
    (h : Encloses fill parts) :
    2 ≤ (literals parts).count '<' ∧ 2 ≤ (literals parts).count '>' := by
  obtain ⟨t, ht, hinfix⟩ := h.exists_infix hliteral
  obtain ⟨hopen, hclose⟩ := two_le_count_of_fits ht
  rw [← count_flatMap hliteral fun part h hhole ↦ (hplain part h hhole).1,
    ← count_flatMap hliteral fun part h hhole ↦ (hplain part h hhole).2]
  exact ⟨hopen.trans (List.Sublist.count_le _ hinfix.sublist),
    hclose.trans (List.Sublist.count_le _ hinfix.sublist)⟩

end Filled

/-! ## Resolved prompts -/

section Resolve

variable (registry : LoaderRegistry) (text : String) (v : Values) (tree : Tree)

theorem flatMap_insertedFor_of_no_names (htext : (scan text).text = [])
    (hfile : (scan text).file = []) :
    (scannedOutline text v).flatMap (insertedFor registry v tree) = text.toList := by
  refine Eq.trans (List.flatMap_congr fun part hpart ↦ ?_) (spelling_outline _ _ text.toList)
  have hamong := among_outline _ _ _ part hpart
  rw [htext, hfile] at hamong
  cases part with
  | literal c => rfl
  | value t => cases hamong.2
  | content name => cases hamong

theorem run_resolve_always :
    (resolve registry (Provider.always (.values v)) text :
        StateM Tree (Except String Resolution)).run tree =
      (.ok (.resolved (String.ofList
        ((scannedOutline text v).flatMap (insertedFor registry v tree)))), tree) := by
  have hfill := (filledFrom_scannedOutline text v).2 registry tree
  rw [resolve]
  by_cases hnames : (scan text).needValues = true
  · simp only [hnames, Bool.not_true, Bool.false_eq_true, if_false]
    rw [Provider.always, pure_bind, StateT.run_bind, hfill]
    rfl
  · obtain ⟨htext, hfile⟩ : (scan text).text = [] ∧ (scan text).file = [] := by
      simpa [Names.needValues] using hnames
    rw [flatMap_insertedFor_of_no_names registry text v tree htext hfile, String.ofList_toList]
    simp only [hnames, Bool.not_false, if_true]
    rfl

end Resolve

/-- **Text placeholders of a resolved prompt.** If every text placeholder of the template has a
value, and nothing is inserted that has a `<` or a `>`, the resolved prompt has a text placeholder
exactly if one is closed over a hole by characters of the template. There is none if fewer than two
`<` or fewer than two `>` of the template are outside what is replaced. -/
theorem scan_resolved_eq_nil_iff (registry : LoaderRegistry) (text : String) (v : Values)
    (tree : Tree) (hsupplied : ∀ n ∈ (scan text).text, (v.text? n).isSome = true)
    (hplain : ∀ part ∈ scannedOutline text v, part.IsHole →
      '<' ∉ insertedFor registry v tree part ∧ '>' ∉ insertedFor registry v tree part) :
    let parts := scannedOutline text v
    ∃ resolved : String,
      (resolve registry (Provider.always (.values v)) text :
          StateM Tree (Except String Resolution)).run tree = (.ok (.resolved resolved), tree) ∧
        ((scan resolved).text = [] ↔ ¬Encloses (insertedFor registry v tree) parts) ∧
        ((literals parts).count '<' < 2 ∨ (literals parts).count '>' < 2 →
          (scan resolved).text = []) := by
  intro parts
  have hliteral : ∀ d, insertedFor registry v tree (.literal d) = [d] := fun _ ↦ rfl
  have hkept : ∀ t, (ofKind .text).Fits t → ¬t.spelling.map .literal <:+: parts := by
    refine fun t ht ↦ not_infix_outline (canonical_files text) ht fun s hs ↦ ?_
    exact (mem_suppliedNames_iff_of_mem_spans hs).mpr
      (hsupplied _ (Kind.mem_scan_iff.mpr ⟨s, hs, rfl⟩))
  have hiff : (scan (String.ofList (parts.flatMap (insertedFor registry v tree)))).text = [] ↔
      ¬Encloses (insertedFor registry v tree) parts := by
    rw [← tokens_flatMap_eq_nil_iff hliteral hplain hkept, scan, Kind.scan_eq_nil_iff,
      String.toList_ofList]
  refine ⟨_, run_resolve_always registry text v tree, hiff, fun hfew ↦ hiff.mpr fun hencloses ↦ ?_⟩
  obtain ⟨hopen, hclose⟩ := hencloses.two_le_count hliteral hplain
  exact hfew.elim (Nat.not_lt.mpr hopen) (Nat.not_lt.mpr hclose)

/-- One `<` more on the left and two `>` more on the right are too few. -/
theorem scan_resolved_eq_nil_iff_few :
    let text := "<<< a >> b >> %% f %%"
    let v := Values.ofPairs [("a", "x")] []
    let tree : Tree := ⟨[], ["work"]⟩
    (∀ n ∈ (scan text).text, (v.text? n).isSome = true) ∧
      (∀ part ∈ scannedOutline text v, part.IsHole →
        '<' ∉ insertedFor ⟨[]⟩ v tree part ∧ '>' ∉ insertedFor ⟨[]⟩ v tree part) ∧
      ∃ resolved : String,
        (resolve ⟨[]⟩ (Provider.always (.values v)) text :
            StateM Tree (Except String Resolution)).run tree = (.ok (.resolved resolved), tree) ∧
          (scan resolved).text = [] := by
  intro text v tree
  have hsupplied : ∀ n ∈ (scan text).text, (v.text? n).isSome = true := by decide +kernel
  have hplain : ∀ part ∈ scannedOutline text v, part.IsHole →
      '<' ∉ insertedFor ⟨[]⟩ v tree part ∧ '>' ∉ insertedFor ⟨[]⟩ v tree part := by
    decide +kernel
  obtain ⟨resolved, hrun, -, hfew⟩ := scan_resolved_eq_nil_iff ⟨[]⟩ text v tree hsupplied hplain
  exact ⟨hsupplied, hplain, resolved, hrun, hfew (.inl (by decide +kernel))⟩

/-- Delimiters around a placeholder close over its value. -/
theorem scan_resolved_ne_nil_nested :
    let text := "<< << a >> >>"
    let v := Values.ofPairs [("a", "b")] []
    let tree : Tree := ⟨[], ["work"]⟩
    (scan text).text = ["a"] ∧ (scan text).file = [] ∧ v.text? "a" = some "b" ∧
      (resolve ⟨[]⟩ (Provider.always (.values v)) text :
          StateM Tree (Except String Resolution)).run tree = (.ok (.resolved "<< b >>"), tree) ∧
        (scan "<< b >>").text = ["b"] := by
  intro text v tree
  have hfilled : String.ofList ((scannedOutline text v).flatMap (insertedFor ⟨[]⟩ v tree)) =
      "<< b >>" := by
    decide +kernel
  refine ⟨by decide +kernel, by decide +kernel, by decide +kernel, ?_, by decide +kernel⟩
  rw [run_resolve_always, hfilled]

end PromptLibrary.Placeholder
