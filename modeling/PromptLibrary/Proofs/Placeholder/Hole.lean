import PromptLibrary.Proofs.Placeholder.Canonical

/-!
# Where the holes of an outline are

The outline of a prompt is found in two steps, first the cuts at file placeholders and then the text
placeholders of every segment. Here it is read in one step, from left to right: at every place the
prompt has a text placeholder, which is replaced if its name is supplied and stays as a whole if
not, or one of the file placeholders that are cut out, or a character that stays
(`Placeholder.outline_induction`). The two steps do not get in each other's way, since tokens of
different kinds have no mark in common.

The holes of an outline are spans of the prompt: those for values (`Placeholder.valueHoles`) and
those for contents (`Placeholder.contentHoles`).
-/

namespace PromptLibrary

namespace Placeholder

open Pattern

/-! ## Names -/

theorem Kind.mem_scan_iff {k : Kind} {text name : String} :
    name ∈ k.scan text ↔
      ∃ s ∈ (ofKind k).spans text.toList, String.ofList s.token.name = name := by
  rw [Kind.scan, firstOccurrences_eq, List.mem_eraseDups, ← map_token_spans, List.map_map,
    List.mem_map]
  rfl

theorem canonical_of_fits {k : Kind} {t : Token} (ht : (ofKind k).Fits t) :
    (Element.token k (String.ofList t.name)).Canonical := by
  obtain ⟨-, -, hne, hname, -⟩ := ht
  refine ⟨fun hnil ↦ hne ?_, ?_⟩
  · rw [← String.toList_ofList (l := t.name), hnil]
    rfl
  · rwa [String.toList_ofList]

theorem canonical_of_mem_scan {k : Kind} {text name : String} (h : name ∈ k.scan text) :
    (Element.token k name).Canonical := by
  obtain ⟨s, hs, rfl⟩ := Kind.mem_scan_iff.mp h
  exact canonical_of_fits (fits_of_tokenAt? (tokenAt?_of_mem_spans (delimited_ofKind k) hs)).1

theorem canonical_files (text : String) :
    ∀ f ∈ (scan text).file, (Element.token .file f).Canonical :=
  fun _ hf ↦ canonical_of_mem_scan hf

@[simp] theorem Values.mem_suppliedNames_iff {v : Values} {names : List String} {n : String} :
    n ∈ v.suppliedNames names ↔ n ∈ names ∧ (v.text? n).isSome = true := by
  rw [suppliedNames, List.mem_filter]

/-- A token of the prompt has its name among those that the scan finds, so its name is supplied
exactly if there is a value. -/
theorem mem_suppliedNames_iff_of_mem_spans {text : String} {v : Values} {s : Span}
    (hs : s ∈ (ofKind .text).spans text.toList) :
    String.ofList s.token.name ∈ v.suppliedNames (scan text).text ↔
      (v.text? (String.ofList s.token.name)).isSome = true := by
  have hscan : String.ofList s.token.name ∈ (scan text).text := Kind.mem_scan_iff.mpr ⟨s, hs, rfl⟩
  rw [Values.mem_suppliedNames_iff, and_iff_right hscan]

/-! ## The outline from left to right -/

theorem exists_spelling_of_fits_text {t : Token} (ht : (ofKind .text).Fits t) :
    ∃ c inner, t.spelling = '<' :: '<' :: c :: inner ∧ ∀ d ∈ c :: inner, d ≠ Kind.text.mark := by
  obtain ⟨hopening, hclosing, hne, hname, hbefore, hafter, -⟩ := ht
  have hinner : ∀ d ∈ t.before ++ t.name ++ t.after ++ t.closing, d ≠ Kind.text.mark := by
    rintro d hd rfl
    have hblank : Text.isBlank Kind.text.mark = false := Text.isBlank_delimiter _ (by decide)
    have hchar : Text.isNameChar Kind.text.mark = false := Text.isNameChar_delimiter _ (by decide)
    simp only [List.mem_append] at hd
    rcases hd with ((hd | hd) | hd) | hd
    · rw [hbefore _ hd] at hblank
      cases hblank
    · rw [hname _ hd] at hchar
      cases hchar
    · rw [hafter _ hd] at hblank
      cases hblank
    · rw [hclosing] at hd
      exact absurd hd (by decide)
  obtain ⟨c, inner, hcons⟩ := List.exists_cons_of_ne_nil
    (show t.before ++ t.name ++ t.after ++ t.closing ≠ [] by simp [hne])
  refine ⟨c, inner, ?_, by rwa [← hcons]⟩
  rw [← hcons, Token.spelling, hopening]
  simp [ofKind, Kind.opening]

section Outline

variable {files supplied : List String}

@[simp] theorem outline_nil : outline files supplied [] = [] := rfl

theorem outline_value {t : Token} (ht : (ofKind .text).Fits t)
    (hsupplied : String.ofList t.name ∈ supplied) (rest : List Char) :
    outline files supplied (t.spelling ++ rest) = .value t :: outline files supplied rest := by
  have hmarks : ∀ c ∈ t.spelling, c ≠ Kind.file.mark :=
    (for_ofKind .text).ne_mark (by decide) ht
  have hvalue : ∀ cs, partsAfter supplied 0 (t.spelling ++ cs) =
      [.value t] ++ partsAfter supplied 0 cs := fun cs ↦
    partsAfter_of_some (tokenAt?_spelling (delimited_ofKind .text) ht cs) hsupplied
  exact outline_append hmarks hvalue rest

/-- No text token begins inside another one, so one that is not replaced stays as a whole. -/
theorem partsAfter_kept {t : Token} (ht : (ofKind .text).Fits t)
    (hsupplied : String.ofList t.name ∉ supplied) (cs : List Char) :
    partsAfter supplied 0 (t.spelling ++ cs) =
      t.spelling.map .literal ++ partsAfter supplied 0 cs := by
  have hfound := tokenAt?_spelling (delimited_ofKind .text) ht cs
  obtain ⟨c, inner, hspelling, hmarks⟩ := exists_spelling_of_fits_text ht
  have hsecond : (ofKind .text).tokenAt? ('<' :: (c :: inner ++ cs)) = none := by
    have hc : '<' ≠ c := (hmarks c List.mem_cons_self).symm
    rw [tokenAt?]
    simp [ofKind, Kind.opening, dropBeginning?, hc]
  have hrest := partsAfter_append_of_ne_mark supplied hmarks cs
  rw [hspelling] at hfound ⊢
  rw [List.cons_append, List.cons_append] at hfound ⊢
  rw [partsAfter, hfound]
  simp only [if_neg hsupplied]
  rw [partsAfter, hsecond]
  dsimp only
  rw [hrest]
  rfl

theorem outline_kept {t : Token} (ht : (ofKind .text).Fits t)
    (hsupplied : String.ofList t.name ∉ supplied) (rest : List Char) :
    outline files supplied (t.spelling ++ rest) =
      t.spelling.map .literal ++ outline files supplied rest := by
  have hmarks : ∀ c ∈ t.spelling, c ≠ Kind.file.mark :=
    (for_ofKind .text).ne_mark (by decide) ht
  exact outline_append hmarks (partsAfter_kept ht hsupplied) rest

theorem outline_content (hfiles : ∀ f ∈ files, (Element.token .file f).Canonical) {name : String}
    (hname : name ∈ files) (rest : List Char) :
    outline files supplied ((Kind.file.canonical name).spelling ++ rest) =
      .content name :: outline files supplied rest := by
  have hne : (Kind.file.token name).toList ≠ [] := by
    rw [Kind.toList_token]
    exact List.cons_ne_nil _ _
  rw [Kind.spelling_canonical, outline,
    cutAfter_of_some hne (fileTokenAt?_token hfiles hname rest)]
  rfl

theorem first_cutAfter_prefix (contents : List (String × String)) (cs : List Char) :
    (cutAfter contents 0 cs).first <+: cs := by
  induction cs with
  | nil => exact List.nil_prefix
  | cons c cs ih =>
    rw [cutAfter]
    split
    · exact List.nil_prefix
    · exact List.cons_prefix_cons.mpr ⟨rfl, ih⟩

theorem outline_literal {c : Char} {cs : List Char}
    (htext : (ofKind .text).tokenAt? (c :: cs) = none)
    (hfile : fileTokenAt? (nameContents files) (c :: cs) = none) :
    outline files supplied (c :: cs) = .literal c :: outline files supplied cs := by
  have hsegment : (ofKind .text).tokenAt? (c :: (cutAfter (nameContents files) 0 cs).first) =
      none := by
    by_contra hfound
    obtain ⟨t, ht⟩ := Option.ne_none_iff_exists'.mp hfound
    obtain ⟨hfits, rest, hrest⟩ := fits_of_tokenAt? ht
    obtain ⟨behind, hbehind⟩ := first_cutAfter_prefix (nameContents files) cs
    rw [← hbehind, ← List.cons_append, hrest, List.append_assoc,
      tokenAt?_spelling (delimited_ofKind .text) hfits] at htext
    cases htext
  rw [outline, cutAfter, hfile]
  dsimp only
  rw [partsAfter, hsegment]
  rfl

/-- Induction along the outline of a prompt. -/
@[elab_as_elim]
theorem outline_induction (supplied : List String)
    (hfiles : ∀ f ∈ files, (Element.token .file f).Canonical)
    {motive : List Char → Prop} (nil : motive [])
    (literal : ∀ c cs, (ofKind .text).tokenAt? (c :: cs) = none →
      fileTokenAt? (nameContents files) (c :: cs) = none → motive cs → motive (c :: cs))
    (value : ∀ t rest, (ofKind .text).Fits t → String.ofList t.name ∈ supplied → motive rest →
      motive (t.spelling ++ rest))
    (kept : ∀ t rest, (ofKind .text).Fits t → String.ofList t.name ∉ supplied → motive rest →
      motive (t.spelling ++ rest))
    (content : ∀ name rest, name ∈ files → (ofKind .file).Fits (Kind.file.canonical name) →
      motive rest → motive ((Kind.file.canonical name).spelling ++ rest))
    (cs : List Char) : motive cs := by
  induction hn : cs.length using Nat.strong_induction_on generalizing cs with
  | _ n ih =>
    have hrest {k : Kind} {t : Token} (ht : (ofKind k).Fits t) {rest : List Char}
        (hcs : cs = t.spelling ++ rest) : motive rest := by
      have hpos := List.length_pos_iff.mpr (ht.spelling_ne_nil (delimited_ofKind k))
      rw [hcs, List.length_append] at hn
      exact ih rest.length (by omega) rest rfl
    cases cs with
    | nil => exact nil
    | cons c cs =>
      cases htext : (ofKind .text).tokenAt? (c :: cs) with
      | some t =>
        obtain ⟨ht, rest, hcs⟩ := fits_of_tokenAt? htext
        rw [hcs]
        by_cases hsupplied : String.ofList t.name ∈ supplied
        · exact value t rest ht hsupplied (hrest ht hcs)
        · exact kept t rest ht hsupplied (hrest ht hcs)
      | none =>
        cases hfile : fileTokenAt? (nameContents files) (c :: cs) with
        | none => exact literal c cs htext hfile (ih cs.length (by simp [← hn]) cs rfl)
        | some r =>
          obtain ⟨name, rest, hmem, -, hcs⟩ := exists_of_fileTokenAt? hfile
          obtain ⟨f, hf, heq⟩ := List.mem_map.mp hmem
          obtain rfl : f = name := (Prod.mk.inj heq).1
          have hfits := Kind.fits_canonical (hfiles f hf)
          rw [← Kind.toList_token, ← Kind.spelling_canonical] at hcs
          rw [hcs]
          exact content f rest hf hfits (hrest hfits hcs)

end Outline

/-- What is inserted for a part, given what the directory tree holds. -/
def insertedFor (registry : LoaderRegistry) (v : Values) (tree : Tree) (part : Part) :
    List Char :=
  part.filled (fun n ↦ (v.text? n).getD "") fun n ↦ contentIn registry tree (v.file? n)

/-- Filling the prompt with the values is filling the holes of the parts, whatever the files are. -/
def FilledFrom (text : String) (v : Values) (parts : List Part) : Prop :=
  parts.flatMap Part.spelling = text.toList ∧
    ∀ (registry : LoaderRegistry) (tree : Tree),
      (fill registry (scan text) v text : StateM Tree String).run tree =
        (String.ofList (parts.flatMap (insertedFor registry v tree)), tree)

/-- The outline of a prompt for the names that its scan finds. -/
def scannedOutline (text : String) (v : Values) : List Part :=
  outline (scan text).file (v.suppliedNames (scan text).text) text.toList

theorem filledFrom_scannedOutline (text : String) (v : Values) :
    FilledFrom text v (scannedOutline text v) :=
  ⟨spelling_outline _ _ _, fun registry tree ↦ run_fill registry (scan text) v text tree⟩

/-! ## Holes -/

/-- The token of a hole for a value. -/
def Part.value? : Part → Option Token
  | value t => some t
  | _ => none

/-- The token of a hole for the content of a file. -/
def Part.content? : Part → Option Token
  | content name => some (Kind.file.canonical name)
  | _ => none

/-- The spans of the holes of one sort among some parts that begin at a position. -/
def holesFrom (hole? : Part → Option Token) : Nat → List Part → List Span
  | _, [] => []
  | i, part :: parts =>
    match hole? part with
    | some t => ⟨i, t⟩ :: holesFrom hole? (i + part.spelling.length) parts
    | none => holesFrom hole? (i + part.spelling.length) parts

/-- The stretches that are replaced by values. -/
def valueHoles (parts : List Part) : List Span :=
  holesFrom Part.value? 0 parts

/-- The stretches that are replaced by the contents of files. -/
def contentHoles (parts : List Part) : List Span :=
  holesFrom Part.content? 0 parts

section Holes

variable {hole? : Part → Option Token}

theorem holesFrom_add (n i : Nat) (parts : List Part) :
    holesFrom hole? (n + i) parts = (holesFrom hole? i parts).map (Span.behind n) := by
  induction parts generalizing i with
  | nil => rfl
  | cons part parts ih =>
    rw [holesFrom, holesFrom]
    cases hole? part with
    | none => rw [Nat.add_assoc, ih]
    | some t =>
      rw [Nat.add_assoc, ih]
      rfl

theorem holesFrom_of_none {part : Part} (h : hole? part = none) (parts : List Part) :
    holesFrom hole? 0 (part :: parts) =
      (holesFrom hole? 0 parts).map (Span.behind part.spelling.length) := by
  rw [holesFrom, h]
  dsimp only
  rw [Nat.add_comm, holesFrom_add]

theorem holesFrom_of_some {part : Part} {t : Token} (h : hole? part = some t)
    (parts : List Part) :
    holesFrom hole? 0 (part :: parts) =
      ⟨0, t⟩ :: (holesFrom hole? 0 parts).map (Span.behind part.spelling.length) := by
  rw [holesFrom, h]
  dsimp only
  rw [Nat.add_comm, holesFrom_add]

theorem holesFrom_literals (h : ∀ c, hole? (.literal c) = none) (xs : List Char)
    (parts : List Part) :
    holesFrom hole? 0 (xs.map .literal ++ parts) =
      (holesFrom hole? 0 parts).map (Span.behind xs.length) := by
  have hbehind : ∀ i, holesFrom hole? i (xs.map .literal ++ parts) =
      holesFrom hole? (xs.length + i) parts := by
    induction xs with
    | nil =>
      intro i
      rw [List.length_nil, Nat.zero_add]
      rfl
    | cons x xs ih =>
      intro i
      rw [List.map_cons, List.cons_append, holesFrom, h, ih, List.length_cons, Nat.add_assoc,
        Nat.add_comm 1]
      rfl
  rw [hbehind, holesFrom_add]

end Holes

/-! ## Holes for values -/

section Values

variable {files supplied : List String}

/-- **The holes for values are text tokens of the whole prompt**: those with a supplied name, among
all that one reading finds. -/
theorem valueHoles_eq (hfiles : ∀ f ∈ files, (Element.token .file f).Canonical)
    (cs : List Char) :
    valueHoles (outline files supplied cs) =
      ((ofKind .text).spans cs).filter fun s ↦ String.ofList s.token.name ∈ supplied := by
  -- a filter by the name does not see where a span begins
  have hfilter : ∀ (n : Nat) (ss : List Span),
      (ss.map (Span.behind n)).filter (fun s ↦ String.ofList s.token.name ∈ supplied) =
        (ss.filter fun s ↦ String.ofList s.token.name ∈ supplied).map (Span.behind n) :=
    fun n ss ↦ List.filter_map
  rw [valueHoles]
  induction cs using outline_induction supplied hfiles with
  | nil => rfl
  | literal c cs htext hfile ih =>
    rw [outline_literal htext hfile, holesFrom_of_none rfl, ih, spans_cons_of_none htext, hfilter]
    rfl
  | value t rest ht hsupplied ih =>
    rw [outline_value ht hsupplied, holesFrom_of_some (t := t) rfl, ih,
      spans_append_of_token (delimited_ofKind .text) ht,
      List.filter_cons, if_pos (decide_eq_true hsupplied), hfilter]
    rfl
  | kept t rest ht hsupplied ih =>
    rw [outline_kept ht hsupplied, holesFrom_literals (fun _ ↦ rfl), ih,
      spans_append_of_token (delimited_ofKind .text) ht,
      List.filter_cons_of_neg (by simpa using hsupplied), hfilter]
  | content name rest hname hfits ih =>
    rw [outline_content hfiles hname, holesFrom_of_none rfl, ih,
      (for_ofKind .file).spans_spelling_append (for_ofKind .text) (by decide) hfits, hfilter,
      Part.spelling, ← Kind.toList_token, ← Kind.spelling_canonical]

end Values

end Placeholder

end PromptLibrary
