import PromptLibrary.Proofs.Placeholder.Mark
import PromptLibrary.Proofs.Placeholder.Outline
import PromptLibrary.Proofs.Placeholder.Scan

/-!
# Canonical prompts

A prompt that is put together from literals without delimiters and placeholders in their canonical
spelling is taken apart again in exactly that way, by everything that looks for placeholders: the
three scans, the removal of output placeholders, and the two steps of filling.

## Staying in step

The opening delimiter of a kind repeats one character, its mark, and no token begins at any other
character. An element of a prompt that is not a token of the kind does not contain the mark, so it
is passed over character by character; a token of the kind is taken as a whole, whatever follows it.
So all readers stop at the same places, although the same delimiter opens and closes a placeholder.
-/

namespace PromptLibrary.Placeholder

open Text

/-! ## Elements -/

/-- An element of a canonical prompt. -/
inductive Element where
  /-- Text that is not looked at. -/
  | literal (s : String)
  /-- A placeholder in its canonical spelling. -/
  | token (k : Kind) (name : String)

namespace Element

/-- The element as it is written. -/
def text : Element → String
  | literal s => s
  | token k name => k.token name

/-- A literal has no character of a delimiter, and a name is not empty and made of name
characters. -/
def Canonical : Element → Prop
  | literal s => ∀ c ∈ s.toList, c ∉ ['<', '>', '%', '@']
  | token _ name => name ≠ "" ∧ ∀ c ∈ name.toList, isNameChar c = true

instance : (e : Element) → Decidable e.Canonical
  | literal s => List.decidableBAll (fun c ↦ c ∉ ['<', '>', '%', '@']) s.toList
  | token _ name =>
    @instDecidableAnd _ _ _ (List.decidableBAll (fun c ↦ isNameChar c = true) name.toList)

/-- The name, if the element is a placeholder of the kind. -/
def nameOf? (k : Kind) : Element → Option String
  | literal _ => none
  | token k' name => if k' = k then some name else none

/-- The element is an output placeholder. -/
def isOutput : Element → Bool
  | token .output _ => true
  | _ => false

/-- What stands in the place of an element when every name has its value and its content. -/
def filled (values contents : String → String) : Element → String
  | token .text name => values name
  | token .file name => contents name
  | e => e.text

end Element

/-- The text of some elements. -/
def render (es : List Element) : String :=
  String.join (es.map Element.text)

/-! ## Canonical tokens -/

namespace Kind

/-- The token of the canonical spelling. -/
def canonical (k : Kind) (name : String) : Token :=
  ⟨k.opening, [' '], name.toList, [' '], k.closing⟩

theorem toList_token (k : Kind) (name : String) :
    (k.token name).toList = k.spell name.toList := by
  rw [token, String.toList_ofList]

theorem spelling_canonical (k : Kind) (name : String) :
    (k.canonical name).spelling = (k.token name).toList := by
  simp [canonical, Token.spelling, toList_token, spell]

theorem fits_canonical {k : Kind} {name : String} (h : (Element.token k name).Canonical) :
    (Pattern.ofKind k).Fits (k.canonical name) := by
  refine ⟨rfl, rfl, ?_, h.2, ?_, ?_, ?_⟩
  · exact fun hnil ↦ h.1 (String.toList_eq_nil_iff.mp hnil)
  · intro c hc
    rw [List.mem_singleton.mp hc]
    rfl
  · intro c hc
    rw [List.mem_singleton.mp hc]
    rfl
  · exact fun _ ↦ ⟨List.cons_ne_nil _ _, List.cons_ne_nil _ _⟩

theorem fits_looseOutput {name : String} (h : (Element.token .output name).Canonical) :
    Pattern.looseOutput.Fits (Kind.output.canonical name) :=
  (Pattern.fits_output_iff.mp (fits_canonical h)).1

end Kind

/-! ## Marks -/

theorem ne_mark_of_mem {e : Element} (he : e.Canonical) {k : Kind} (hk : e.nameOf? k = none) :
    ∀ c ∈ e.text.toList, c ≠ k.mark := by
  cases e with
  | literal s =>
    have hdelimiter : k.mark ∈ ['<', '>', '%', '@'] := by cases k <;> simp [Kind.mark]
    exact fun c hc heq ↦ he c hc (heq ▸ hdelimiter)
  | token k' name =>
    have hne : k' ≠ k := by
      intro heq
      rw [Element.nameOf?, if_pos heq] at hk
      cases hk
    have hmarks := (Pattern.for_ofKind k').ne_mark hne (Kind.fits_canonical he)
    rwa [Kind.spelling_canonical] at hmarks

/-! ## Scans -/

namespace Element

/-- The pieces that a pattern for the tokens of a kind finds in an element. -/
def pieces (k : Kind) (e : Element) : List Pattern.Piece :=
  match e.nameOf? k with
  | some name => [.token (k.canonical name)]
  | none => e.text.toList.map .char

end Element

theorem eq_token_of_nameOf? {e : Element} {k : Kind} {name : String}
    (h : e.nameOf? k = some name) : e = .token k name := by
  cases e with
  | literal s => cases h
  | token k' name' =>
    rw [Element.nameOf?] at h
    split at h
    · rename_i hk
      rw [hk, Option.some.inj h]
    · cases h

theorem pieces_element_append {p : Pattern} (hp : p.Delimited) {k : Kind}
    (hopening : p.opening = k.opening)
    (hfits : ∀ name, (Element.token k name).Canonical → p.Fits (k.canonical name))
    {e : Element} (he : e.Canonical) (cs : List Char) :
    p.pieces (e.text.toList ++ cs) = e.pieces k ++ p.pieces cs := by
  cases hname : e.nameOf? k with
  | none =>
    rw [pieces_append_of_ne_mark hopening (ne_mark_of_mem he hname), Element.pieces, hname]
  | some name =>
    obtain rfl := eq_token_of_nameOf? hname
    have hfound := Pattern.tokenAt?_spelling hp (hfits name he) cs
    rw [Element.text, ← Kind.spelling_canonical, Pattern.pieces_of_some hp hfound, Element.pieces,
      hname]
    rfl

theorem toList_render (es : List Element) :
    (render es).toList = es.flatMap fun e ↦ e.text.toList := by
  rw [render, String.toList_join, List.flatMap_map]

theorem pieces_render {p : Pattern} (hp : p.Delimited) {k : Kind} (hopening : p.opening = k.opening)
    (hfits : ∀ name, (Element.token k name).Canonical → p.Fits (k.canonical name))
    {es : List Element} (hes : ∀ e ∈ es, e.Canonical) :
    p.pieces (render es).toList = es.flatMap (Element.pieces k) := by
  rw [toList_render]
  induction es with
  | nil => rfl
  | cons e es ih =>
    obtain ⟨he, hes⟩ := List.forall_mem_cons.mp hes
    rw [List.flatMap_cons, List.flatMap_cons, pieces_element_append hp hopening hfits he, ih hes]

theorem tokens_render (k : Kind) {es : List Element} (hes : ∀ e ∈ es, e.Canonical) :
    ((Pattern.ofKind k).tokens (render es).toList).map (fun t ↦ String.ofList t.name) =
      es.filterMap (Element.nameOf? k) := by
  rw [Pattern.tokens, pieces_render (Pattern.delimited_ofKind k) rfl
    (fun _ h ↦ Kind.fits_canonical h) hes]
  clear hes
  induction es with
  | nil => rfl
  | cons e es ih =>
    rw [List.flatMap_cons, List.filterMap_append, List.map_append, ih, List.filterMap_cons,
      Element.pieces]
    cases e.nameOf? k with
    | none => simp [List.filterMap_map]
    | some name => simp [Kind.canonical]

/-- **A scan finds the names of the tokens of its kind**, in the order of their first appearance. -/
theorem scan_render (k : Kind) {es : List Element} (hes : ∀ e ∈ es, e.Canonical) :
    k.scan (render es) = (es.filterMap (Element.nameOf? k)).eraseDups := by
  rw [Kind.scan, tokens_render k hes, firstOccurrences_eq]

/-! ## Removing output placeholders -/

theorem remove_render {es : List Element} (hes : ∀ e ∈ es, e.Canonical) :
    stripOutput (render es) = render (es.filter fun e ↦ !e.isOutput) := by
  rw [stripOutput, Pattern.remove, pieces_render Pattern.delimited_looseOutput rfl
    (fun _ h ↦ Kind.fits_looseOutput h) hes]
  clear hes
  rw [← String.toList_inj, String.toList_ofList, toList_render]
  induction es with
  | nil => rfl
  | cons e es ih =>
    rw [List.flatMap_cons, List.filterMap_append, ih, List.filter_cons, Element.pieces]
    cases hname : e.nameOf? .output with
    | some name =>
      obtain rfl := eq_token_of_nameOf? hname
      rfl
    | none =>
      have hkept : e.isOutput = false := by
        cases e with
        | literal s => rfl
        | token k name =>
          cases k with
          | output => cases hname
          | _ => rfl
      rw [hkept]
      simp [List.filterMap_map]

/-! ## Filling -/

/-- The parts of an element, if every text placeholder has a value. -/
def Element.parts : Element → List Part
  | token .text name => [.value (Kind.text.canonical name)]
  | token .file name => [.content name]
  | e => e.text.toList.map .literal

theorem partsAfter_append (supplied : List String) (xs cs : List Char) :
    partsAfter supplied xs.length (xs ++ cs) = partsAfter supplied 0 cs := by
  induction xs with
  | nil => rfl
  | cons x xs ih => exact ih

theorem cutAfter_append (contents : List (String × String)) (xs cs : List Char) :
    cutAfter contents xs.length (xs ++ cs) = cutAfter contents 0 cs := by
  induction xs with
  | nil => rfl
  | cons x xs ih => exact ih

theorem fileTokenAt?_of_ne_mark (contents : List (String × String)) {c : Char}
    (hc : c ≠ Kind.file.mark) (cs : List Char) : fileTokenAt? contents (c :: cs) = none := by
  cases hfound : fileTokenAt? contents (c :: cs) with
  | none => rfl
  | some r =>
    obtain ⟨name, rest, -, -, hcs⟩ := exists_of_fileTokenAt? hfound
    exact absurd (List.cons.inj hcs).1 hc

theorem cutAfter_append_of_ne_mark (contents : List (String × String)) {xs : List Char}
    (hxs : ∀ c ∈ xs, c ≠ Kind.file.mark) (cs : List Char) :
    cutAfter contents 0 (xs ++ cs) =
      ⟨xs ++ (cutAfter contents 0 cs).first, (cutAfter contents 0 cs).later⟩ := by
  induction xs with
  | nil => rfl
  | cons x xs ih =>
    obtain ⟨hx, hxs⟩ := List.forall_mem_cons.mp hxs
    rw [List.cons_append, cutAfter, fileTokenAt?_of_ne_mark contents hx, ih hxs]
    rfl

theorem partsAfter_append_of_ne_mark (supplied : List String) {xs : List Char}
    (hxs : ∀ c ∈ xs, c ≠ Kind.text.mark) (cs : List Char) :
    partsAfter supplied 0 (xs ++ cs) = xs.map .literal ++ partsAfter supplied 0 cs := by
  induction xs with
  | nil => rfl
  | cons x xs ih =>
    obtain ⟨hx, hxs⟩ := List.forall_mem_cons.mp hxs
    rw [List.cons_append, partsAfter, tokenAt?_of_ne_mark rfl hx, ih hxs]
    rfl

/-- A beginning at which a prompt is not cut lies in its first segment. -/
theorem outline_append {files supplied : List String} {xs : List Char} {parts : List Part}
    (hxs : ∀ c ∈ xs, c ≠ Kind.file.mark)
    (hparts : ∀ cs, partsAfter supplied 0 (xs ++ cs) = parts ++ partsAfter supplied 0 cs)
    (cs : List Char) : outline files supplied (xs ++ cs) = parts ++ outline files supplied cs := by
  rw [outline, cutAfter_append_of_ne_mark _ hxs]
  dsimp only
  rw [hparts, List.append_assoc]
  rfl

/-- No canonical spelling is the beginning of another one. -/
theorem eq_of_token_append_eq {k : Kind} {name name' : String}
    (hname : (Element.token k name).Canonical) (hname' : (Element.token k name').Canonical)
    {cs rest : List Char} (h : (k.token name).toList ++ cs = (k.token name').toList ++ rest) :
    name = name' := by
  have hp := Pattern.delimited_ofKind k
  have hfound := Pattern.tokenAt?_spelling hp (Kind.fits_canonical hname) cs
  have hfound' := Pattern.tokenAt?_spelling hp (Kind.fits_canonical hname') rest
  rw [Kind.spelling_canonical] at hfound hfound'
  rw [h, hfound'] at hfound
  have hlist : name'.toList = name.toList := congrArg Token.name (Option.some.inj hfound)
  exact (String.toList_inj.mp hlist).symm

/-- The canonical spelling of a name that is known is found, and not mistaken for that of another
one. -/
theorem fileTokenAt?_token {files : List String}
    (hfiles : ∀ f ∈ files, (Element.token .file f).Canonical) {name : String}
    (hname : name ∈ files) (cs : List Char) :
    fileTokenAt? (nameContents files) ((Kind.file.token name).toList ++ cs) =
      some ((Kind.file.token name).toList.length, name) := by
  have hcanonical := hfiles name hname
  induction files with
  | nil => cases hname
  | cons f files ih =>
    obtain ⟨hf, hfiles⟩ := List.forall_mem_cons.mp hfiles
    rw [nameContents, List.map_cons, ← nameContents, fileTokenAt?_cons, ← Kind.toList_token]
    split
    · rename_i hprefix
      obtain ⟨rest, hrest⟩ := List.isPrefixOf_iff_prefix.mp hprefix
      rw [eq_of_token_append_eq hf hcanonical hrest]
    · rename_i hprefix
      rcases List.mem_cons.mp hname with rfl | hname
      · exact absurd (List.isPrefixOf_iff_prefix.mpr ⟨cs, rfl⟩) hprefix
      · exact ih hfiles hname

theorem cutAfter_of_some {contents : List (String × String)} {xs cs : List Char} {content : String}
    (hne : xs ≠ []) (h : fileTokenAt? contents (xs ++ cs) = some (xs.length, content)) :
    cutAfter contents 0 (xs ++ cs) =
      ⟨[], (content, (cutAfter contents 0 cs).first) :: (cutAfter contents 0 cs).later⟩ := by
  obtain ⟨x, xs, rfl⟩ := List.exists_cons_of_ne_nil hne
  rw [List.cons_append] at h ⊢
  rw [cutAfter, h]
  simp only [List.length_cons, Nat.add_sub_cancel, cutAfter_append]

theorem partsAfter_of_some {supplied : List String} {t : Token} {cs : List Char}
    (h : (Pattern.ofKind .text).tokenAt? (t.spelling ++ cs) = some t)
    (ht : String.ofList t.name ∈ supplied) :
    partsAfter supplied 0 (t.spelling ++ cs) = .value t :: partsAfter supplied 0 cs := by
  have hne := (Pattern.fits_of_tokenAt? h).1.spelling_ne_nil (Pattern.delimited_ofKind .text)
  obtain ⟨x, xs, hspelling⟩ := List.exists_cons_of_ne_nil hne
  rw [hspelling, List.cons_append] at h ⊢
  rw [partsAfter, h]
  simp only [if_pos ht, hspelling, List.length_cons, Nat.add_sub_cancel, partsAfter_append]

theorem outline_element_append {files supplied : List String}
    (hfiles : ∀ f ∈ files, (Element.token .file f).Canonical) {e : Element} (he : e.Canonical)
    (hfile : ∀ name, e = .token .file name → name ∈ files)
    (htext : ∀ name, e = .token .text name → name ∈ supplied) (cs : List Char) :
    outline files supplied (e.text.toList ++ cs) = e.parts ++ outline files supplied cs := by
  have hkept : e.nameOf? .text = none → e.nameOf? .file = none →
      outline files supplied (e.text.toList ++ cs) =
        e.text.toList.map .literal ++ outline files supplied cs := by
    intro hnotText hnotFile
    exact outline_append (ne_mark_of_mem he hnotFile)
      (partsAfter_append_of_ne_mark supplied (ne_mark_of_mem he hnotText)) cs
  cases e with
  | literal s => exact hkept rfl rfl
  | token k name =>
    cases k with
    | output => exact hkept rfl rfl
    | text =>
      -- the token lies inside one segment, since the prompt is not cut at any of its characters
      refine outline_append (ne_mark_of_mem he rfl) (fun rest ↦ ?_) cs
      have hfound := Pattern.tokenAt?_spelling (Pattern.delimited_ofKind .text)
        (Kind.fits_canonical he) rest
      have hsupplied : String.ofList (Kind.text.canonical name).name ∈ supplied := by
        rw [Kind.canonical, String.ofList_toList]
        exact htext name rfl
      rw [Element.text, ← Kind.spelling_canonical, partsAfter_of_some hfound hsupplied]
      rfl
    | file =>
      have hfound := fileTokenAt?_token hfiles (hfile name rfl) cs
      have hne : (Kind.file.token name).toList ≠ [] := by
        rw [Kind.toList_token]
        exact List.cons_ne_nil _ _
      rw [outline, Element.text, cutAfter_of_some hne hfound]
      rfl

theorem outline_render {files supplied : List String}
    (hfiles : ∀ f ∈ files, (Element.token .file f).Canonical) {es : List Element}
    (hes : ∀ e ∈ es, e.Canonical) (hfile : ∀ name, .token .file name ∈ es → name ∈ files)
    (htext : ∀ name, .token .text name ∈ es → name ∈ supplied) :
    outline files supplied (render es).toList = es.flatMap Element.parts := by
  rw [toList_render]
  induction es with
  | nil => rfl
  | cons e es ih =>
    obtain ⟨he, hes⟩ := List.forall_mem_cons.mp hes
    have hfirst := outline_element_append hfiles he (fun name h ↦ hfile name (by simp [h]))
      (fun name h ↦ htext name (by simp [h])) (es.flatMap fun e ↦ e.text.toList)
    have hrest := ih hes (fun name h ↦ hfile name (List.mem_cons_of_mem _ h))
      (fun name h ↦ htext name (List.mem_cons_of_mem _ h))
    rw [List.flatMap_cons, List.flatMap_cons, hfirst, hrest]

theorem toList_filled (values contents : String → String) (e : Element) :
    e.parts.flatMap (Part.filled values contents) = (e.filled values contents).toList := by
  have hliteral : ∀ cs : List Char,
      (cs.map Part.literal).flatMap (Part.filled values contents) = cs := by
    intro cs
    rw [List.flatMap_map]
    exact List.flatMap_singleton' cs
  cases e with
  | literal s => exact hliteral s.toList
  | token k name =>
    cases k with
    | output => exact hliteral _
    | text => simp [Element.parts, Element.filled, Part.filled, Kind.canonical]
    | file => simp [Element.parts, Element.filled, Part.filled]

theorem ofList_filled (values contents : String → String) (es : List Element) :
    String.ofList ((es.flatMap Element.parts).flatMap (Part.filled values contents)) =
      String.join (es.map (Element.filled values contents)) := by
  rw [← String.toList_inj, String.toList_ofList, String.toList_join, List.flatMap_assoc,
    List.flatMap_map]
  simp only [toList_filled]

/-- **Canonical prompts are processed exactly**: they are scanned, stripped and filled element by
element, however the elements are put together, and whatever the contents of the files are. -/
theorem process_render {es : List Element} (hes : ∀ e ∈ es, e.Canonical) :
    (∀ k, (scan (render es)).ofKind k = (es.filterMap (Element.nameOf? k)).eraseDups) ∧
      stripOutput (render es) = render (es.filter fun e ↦ !e.isOutput) ∧
      ∀ v : Values, (∀ name, .token .text name ∈ es → (v.text? name).isSome = true) →
        (∀ contents : String → String,
          substitute ((scan (render es)).file.map fun n ↦ (n, contents n))
              (suppliedTexts (scan (render es)).text v) (render es) =
            String.join (es.map (Element.filled (fun n ↦ (v.text? n).getD "") contents))) ∧
        ∀ (registry : LoaderRegistry) (tree : Tree),
          (fill registry (scan (render es)) v (render es) : StateM Tree String).run tree =
            (String.join (es.map (Element.filled (fun n ↦ (v.text? n).getD "")
              (fun n ↦ contentIn registry tree (v.file? n)))), tree) := by
  have hscan : ∀ k, (scan (render es)).ofKind k = (es.filterMap (Element.nameOf? k)).eraseDups := by
    intro k
    rw [← scan_render k hes]
    cases k <;> rfl
  refine ⟨hscan, remove_render hes, fun v hvalues ↦ ?_⟩
  have hnames : ∀ k name, name ∈ (scan (render es)).ofKind k ↔ .token k name ∈ es := by
    intro k name
    rw [hscan, List.mem_eraseDups, List.mem_filterMap]
    constructor
    · rintro ⟨e, he, hname⟩
      rwa [← eq_token_of_nameOf? hname]
    · intro he
      exact ⟨_, he, if_pos rfl⟩
  -- the names that the scan has found are those that the elements bring with them
  have houtline : outline (scan (render es)).file (v.suppliedNames (scan (render es)).text)
      (render es).toList = es.flatMap Element.parts := by
    refine outline_render ?_ hes ?_ ?_
    · exact fun f hf ↦ hes _ ((hnames .file f).mp hf)
    · exact fun name he ↦ (hnames .file name).mpr he
    · exact fun name he ↦ List.mem_filter.mpr ⟨(hnames .text name).mpr he, hvalues name he⟩
  constructor
  · intro contents
    rw [substitute_eq (get?_suppliedTexts _ v) _ contents, houtline, ofList_filled]
  · intro registry tree
    rw [run_fill, houtline, ofList_filled]

/-- Adjacent placeholders and a literal between two of them are not mistaken for a placeholder. -/
theorem process_render_adjacent :
    let es : List Element := [.token .file "a", .token .file "b", .literal " c ", .token .file "a",
      .token .output "d", .token .text "a"]
    let v := Values.ofPairs [("a", "%% b %%")] []
    (∀ e ∈ es, e.Canonical) ∧
      (∀ name, .token .text name ∈ es → (v.text? name).isSome = true) ∧
      (scan (render es)).file = ["a", "b"] ∧
      stripOutput (render es) = "%% a %%%% b %% c %% a %%<< a >>" ∧
      (fill .standard (scan (render es)) v (render es) : StateM Tree String).run .empty =
        (String.join (es.map (Element.filled (fun n ↦ (v.text? n).getD "")
          (fun n ↦ contentIn .standard .empty (v.file? n)))), .empty) := by
  intro es v
  have hes : ∀ e ∈ es, e.Canonical := by decide +kernel
  have hvalues : ∀ name, .token .text name ∈ es → (v.text? name).isSome = true := by
    intro name hname
    obtain rfl : name = "a" := by simpa [es] using hname
    decide +kernel
  obtain ⟨hscan, hstrip, hfill⟩ := process_render hes
  refine ⟨hes, hvalues, ?_, ?_, (hfill v hvalues).2 .standard .empty⟩
  · exact (hscan .file).trans (by decide +kernel)
  · exact hstrip.trans (by decide +kernel)

end PromptLibrary.Placeholder
