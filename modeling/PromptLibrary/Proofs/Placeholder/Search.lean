import PromptLibrary.Proofs.Placeholder.Hole

/-!
# Filling by a search for the supplied names

A prompt can be filled in another way than by reading any token and looking up its name: search
every segment for the supplied names alone. Such a search tries, at each place, all the ways in
which a token could be read, in a fixed order, and takes the first one that succeeds. It takes as
many blanks as it can and gives some of them back if what follows does not fit, and it tries one
name after the other, so a name that is the beginning of another one is tried where the other one
stands.

The order makes no difference. At every place there is at most one token
(`Pattern.tokenAt?_eq_some_iff`), so whatever a search finds first is this token, and it is found
exactly if its name is among those that are tried (`Search.head?_matchesAt`). The same holds of a
search for any name. Nor do the cuts at file placeholders make a difference: what is replaced are
the tokens with a supplied name that one reading of the whole prompt finds
(`Placeholder.values_fill_tokens`).
-/

namespace PromptLibrary

open Text Placeholder

/-! ## Ways to read -/

namespace Search

/-- A reader gives the ways to read a beginning of the input, in the order in which they are tried:
what is read, and the rest. -/
abbrev Reader : Type := List Char → List (List Char × List Char)

/-- As many characters of a class as there are, then one less, and so on. -/
def run (f : Char → Bool) : Reader
  | [] => [([], [])]
  | c :: cs =>
    if f c then (run f cs).map (fun r ↦ (c :: r.1, r.2)) ++ [([], c :: cs)]
    else [([], c :: cs)]

/-- The same, but at least one character. -/
def run1 (f : Char → Bool) : Reader :=
  fun cs ↦ (run f cs).filter fun r ↦ r.1 ≠ []

/-- One of some texts, the first one that fits. -/
def oneOf (texts : List (List Char)) : Reader :=
  fun cs ↦ texts.filterMap fun xs ↦ (Pattern.dropBeginning? xs cs).map fun rest ↦ (xs, rest)

/-- The text tokens at the beginning of the input whose names are read, in the order in which they
are tried. -/
def matchesAt (name : Reader) (cs : List Char) : List Token :=
  (oneOf [Kind.text.opening] cs).flatMap fun opening ↦
    (run isBlank opening.2).flatMap fun before ↦
      (name before.2).flatMap fun name ↦
        (run isBlank name.2).flatMap fun after ↦
          (oneOf [Kind.text.closing] after.2).map fun closing ↦
            ⟨opening.1, before.1, name.1, after.1, closing.1⟩

/-- The reader reads the beginnings of a sort, and all of them. -/
def Reads (reader : Reader) (sort : List Char → Prop) : Prop :=
  ∀ cs xs rest, (xs, rest) ∈ reader cs ↔ sort xs ∧ cs = xs ++ rest

theorem reads_run (f : Char → Bool) : Reads (run f) fun xs ↦ ∀ c ∈ xs, f c = true := by
  intro cs
  induction cs with
  | nil =>
    intro xs rest
    simp only [run, List.mem_singleton, Prod.mk.injEq, List.nil_eq, List.append_eq_nil_iff]
    constructor
    · rintro ⟨rfl, rfl⟩
      simp
    · exact fun h ↦ h.2
  | cons c cs ih =>
    intro xs rest
    rw [run]
    cases xs with
    | nil =>
      have hrest : rest = c :: cs ↔ c :: cs = rest := eq_comm
      split <;> simpa using hrest
    | cons x xs =>
      split
      · rename_i hc
        simp only [List.mem_append, List.mem_map, Prod.mk.injEq, List.cons.injEq, Prod.exists,
          List.mem_singleton, reduceCtorEq, false_and, or_false, List.forall_mem_cons]
        constructor
        · rintro ⟨ys, rest', hmem, ⟨rfl, rfl⟩, rfl⟩
          obtain ⟨hall, rfl⟩ := (ih _ _).mp hmem
          exact ⟨⟨hc, hall⟩, rfl⟩
        · rintro ⟨⟨-, hall⟩, hcs⟩
          obtain ⟨rfl, rfl⟩ := List.cons.inj hcs
          exact ⟨xs, rest, (ih _ _).mpr ⟨hall, rfl⟩, ⟨rfl, rfl⟩, rfl⟩
      · rename_i hc
        constructor
        · intro h
          cases (Prod.mk.inj (List.mem_singleton.mp h)).1
        · rintro ⟨hall, hcs⟩
          obtain ⟨rfl, -⟩ := List.cons.inj hcs
          exact absurd (hall _ List.mem_cons_self) hc

theorem reads_run1 (f : Char → Bool) :
    Reads (run1 f) fun xs ↦ xs ≠ [] ∧ ∀ c ∈ xs, f c = true := by
  intro cs xs rest
  rw [run1, List.mem_filter, reads_run, decide_eq_true_iff]
  tauto

theorem reads_oneOf (texts : List (List Char)) : Reads (oneOf texts) (· ∈ texts) := by
  intro cs xs rest
  rw [oneOf, List.mem_filterMap]
  constructor
  · rintro ⟨ys, hys, hread⟩
    obtain ⟨rest', hdrop, heq⟩ := Option.map_eq_some_iff.mp hread
    obtain ⟨rfl, rfl⟩ := Prod.mk.inj heq
    exact ⟨hys, Pattern.dropBeginning?_eq_some_iff.mp hdrop⟩
  · rintro ⟨hxs, hcs⟩
    have hrest := Pattern.dropBeginning?_eq_some_iff.mpr hcs
    exact ⟨xs, hxs, Option.map_eq_some_iff.mpr ⟨rest, hrest, rfl⟩⟩

theorem mem_matchesAt_iff {name : Reader} {sort : List Char → Prop}
    (hname : Reads name sort) {cs : List Char} {t : Token} :
    t ∈ matchesAt name cs ↔
      (t.opening = Kind.text.opening ∧ t.closing = Kind.text.closing ∧ sort t.name ∧
        (∀ c ∈ t.before, isBlank c = true) ∧ ∀ c ∈ t.after, isBlank c = true) ∧
      ∃ rest, cs = t.spelling ++ rest := by
  obtain ⟨opening, before, middle, after, closing⟩ := t
  simp only [matchesAt, List.mem_flatMap, List.mem_map, Prod.exists, Token.mk.injEq,
    reads_oneOf _ _ _ _, reads_run _ _ _ _, hname _ _ _, List.mem_singleton, Token.spelling,
    List.append_assoc]
  constructor
  · rintro ⟨_, _, ⟨rfl, rfl⟩, _, _, ⟨hbefore, rfl⟩, _, _, ⟨hmiddle, rfl⟩, _, _, ⟨hafter, rfl⟩,
      _, rest, ⟨rfl, rfl⟩, rfl, rfl, rfl, rfl, rfl⟩
    exact ⟨⟨rfl, rfl, hmiddle, hbefore, hafter⟩, rest, rfl⟩
  · rintro ⟨⟨rfl, rfl, hmiddle, hbefore, hafter⟩, rest, rfl⟩
    exact ⟨_, _, ⟨rfl, rfl⟩, _, _, ⟨hbefore, rfl⟩, _, _, ⟨hmiddle, rfl⟩, _, _, ⟨hafter, rfl⟩, _, _,
      ⟨rfl, rfl⟩, rfl, rfl, rfl, rfl, rfl⟩

/-- The first match is the token that begins here, if its name is one that is read. -/
theorem head?_matchesAt {name : Reader} {sort : List Char → Prop} (hname : Reads name sort)
    (hsort : ∀ xs, sort xs → xs ≠ [] ∧ ∀ c ∈ xs, isNameChar c = true) [DecidablePred sort]
    (cs : List Char) :
    (matchesAt name cs).head? =
      ((Pattern.ofKind .text).tokenAt? cs).filter fun t ↦ sort t.name := by
  have hmem : ∀ t, t ∈ matchesAt name cs ↔
      ((Pattern.ofKind .text).tokenAt? cs).filter (fun t ↦ sort t.name) = some t := by
    intro t
    rw [mem_matchesAt_iff hname, Option.filter_eq_some_iff,
      Pattern.tokenAt?_eq_some_iff (Pattern.delimited_ofKind .text), decide_eq_true_iff]
    constructor
    · rintro ⟨⟨hopening, hclosing, hread, hbefore, hafter⟩, hrest⟩
      obtain ⟨hne, hall⟩ := hsort _ hread
      have hspaced : (Pattern.ofKind .text).spaced = true → t.Spaced :=
        fun h ↦ absurd h Bool.false_ne_true
      exact ⟨⟨⟨hopening, hclosing, hne, hall, hbefore, hafter, hspaced⟩, hrest⟩, hread⟩
    · rintro ⟨⟨⟨hopening, hclosing, -, -, hbefore, hafter, -⟩, hrest⟩, hread⟩
      exact ⟨⟨hopening, hclosing, hread, hbefore, hafter⟩, hrest⟩
  -- all that is tried with success is one token
  cases hfound : matchesAt name cs with
  | nil =>
    rw [hfound] at hmem
    refine (Option.eq_none_iff_forall_ne_some.mpr fun t ht ↦ ?_).symm
    exact List.not_mem_nil ((hmem t).mpr ht)
  | cons t ts =>
    rw [hfound] at hmem
    exact ((hmem t).mp List.mem_cons_self).symm

/-- A search for any name finds what reading without a search finds. -/
theorem head?_matchesAt_run1 (cs : List Char) :
    (matchesAt (run1 isNameChar) cs).head? = (Pattern.ofKind .text).tokenAt? cs := by
  classical
  rw [head?_matchesAt (reads_run1 isNameChar) fun _ h ↦ h]
  cases hfound : (Pattern.ofKind .text).tokenAt? cs with
  | none => rfl
  | some t =>
    obtain ⟨⟨-, -, hne, hname, -⟩, -⟩ := Pattern.fits_of_tokenAt? hfound
    rw [Option.filter_some, if_pos (decide_eq_true ⟨hne, hname⟩)]

/-! ## Replacing what is found -/

/-- The input after `skip` characters, with what a search finds replaced, from left to right. -/
def replaceAfter (search : List Char → Option Token) (replacement : Token → List Char) :
    Nat → List Char → List Char
  | _, [] => []
  | skip + 1, _ :: cs => replaceAfter search replacement skip cs
  | 0, c :: cs =>
    match search (c :: cs) with
    | some t =>
      replacement t ++ replaceAfter search replacement (t.spelling.length - 1) cs
    | none => c :: replaceAfter search replacement 0 cs

end Search

/-! ## The same replacements -/

namespace Pattern

/-- A text with all tokens replaced that one reading finds. -/
def replace (p : Pattern) (replacement : Token → List Char) (cs : List Char) : List Char :=
  (p.pieces cs).flatMap fun
    | .char c => [c]
    | .token t => replacement t

theorem replace_congr {p : Pattern} {f g : Token → List Char} {cs : List Char}
    (h : ∀ t ∈ p.tokens cs, f t = g t) : p.replace f cs = p.replace g cs := by
  rw [replace, replace]
  refine List.flatMap_congr fun piece hpiece ↦ ?_
  cases piece with
  | char c => rfl
  | token t =>
    refine h t ?_
    rw [tokens_eq_filterMap, List.mem_filterMap]
    exact ⟨_, hpiece, rfl⟩

end Pattern

namespace Placeholder

open Pattern

/-- What a text token is replaced by: the value of its name, or itself if there is none. -/
def Values.replacement (v : Values) (t : Token) : List Char :=
  ((v.text? (String.ofList t.name)).map String.toList).getD t.spelling

/-- A segment filled by a search for those among some names that have a value. -/
def Values.fillBySearch (v : Values) (names : List String) (segment : List Char) : List Char :=
  Search.replaceAfter
    (fun cs ↦
      (Search.matchesAt (Search.oneOf ((v.suppliedNames names).map String.toList)) cs).head?)
    v.replacement 0 segment

/-- The two ways to fill a segment are the same. -/
theorem fillTexts_eq_fillBySearch {names : List String}
    (hnames : ∀ n ∈ names, (Element.token .text n).Canonical) (v : Values)
    (segment : List Char) :
    fillTexts (suppliedTexts names v) segment = v.fillBySearch names segment := by
  let supplied : List (List Char) := (v.suppliedNames names).map String.toList
  have hsort : ∀ xs, xs ∈ supplied → xs ≠ [] ∧ ∀ c ∈ xs, isNameChar c = true := by
    intro xs hxs
    obtain ⟨n, hn, rfl⟩ := List.mem_map.mp hxs
    obtain ⟨hne, hall⟩ := hnames n (Values.mem_suppliedNames_iff.mp hn).1
    exact ⟨fun hnil ↦ hne (String.toList_eq_nil_iff.mp hnil), hall⟩
  have hmem : ∀ t : Token, t.name ∈ supplied ↔ String.ofList t.name ∈ v.suppliedNames names := by
    intro t
    rw [List.mem_map]
    constructor
    · rintro ⟨n, hn, heq⟩
      rwa [← heq, String.ofList_toList]
    · exact fun h ↦ ⟨_, h, String.toList_ofList⟩
  have hskip : ∀ (cs : List Char) (skip : Nat), fillAfter (suppliedTexts names v) skip cs =
      Search.replaceAfter (fun cs ↦ (Search.matchesAt (Search.oneOf supplied) cs).head?)
        v.replacement skip cs := by
    intro cs
    induction cs with
    | nil => simp [fillAfter, Search.replaceAfter]
    | cons c cs ih =>
      intro skip
      cases skip with
      | succ skip => exact ih skip
      | zero =>
        rw [fillAfter, Search.replaceAfter, suppliedTokenAt?,
          Search.head?_matchesAt (Search.reads_oneOf supplied) hsort]
        cases (ofKind .text).tokenAt? (c :: cs) with
        | none => exact congrArg (c :: ·) (ih 0)
        | some t =>
          simp only [Option.bind_eq_bind, Option.bind_some, get?_suppliedTexts, Option.filter_some,
            decide_eq_true_eq, hmem]
          by_cases hsupplied : String.ofList t.name ∈ v.suppliedNames names
          · obtain ⟨value, hvalue⟩ := Option.isSome_iff_exists.mp
              (Values.mem_suppliedNames_iff.mp hsupplied).2
            simp only [if_pos hsupplied, Values.replacement, hvalue]
            exact congrArg (value.toList ++ ·) (ih _)
          · simp only [if_neg hsupplied]
            exact congrArg (c :: ·) (ih 0)
  exact hskip segment 0

/-- If every file placeholder stands for itself, filling the holes is replacing the text tokens of
the whole prompt. -/
theorem filled_outline_of_tokens {files supplied : List String}
    (hfiles : ∀ f ∈ files, (Element.token .file f).Canonical) (values : String → String)
    (cs : List Char) :
    (outline files supplied cs).flatMap (Part.filled values Kind.file.token) =
      (ofKind .text).replace (fun t ↦ if String.ofList t.name ∈ supplied then
        (values (String.ofList t.name)).toList else t.spelling) cs := by
  have hliterals : ∀ xs : List Char,
      (xs.map Part.literal).flatMap (Part.filled values Kind.file.token) = xs := by
    intro xs
    rw [List.flatMap_map]
    exact List.flatMap_singleton' xs
  rw [replace]
  induction cs using outline_induction supplied hfiles with
  | nil => rfl
  | literal c cs htext hfile ih =>
    rw [outline_literal htext hfile, pieces_of_none htext, List.flatMap_cons, List.flatMap_cons, ih]
    rfl
  | value t rest ht hsupplied ih =>
    have hfound := tokenAt?_spelling (delimited_ofKind .text) ht rest
    rw [outline_value ht hsupplied, pieces_of_some (delimited_ofKind .text) hfound,
      List.flatMap_cons, List.flatMap_cons, ih]
    simp only [if_pos hsupplied, Part.filled]
  | kept t rest ht hsupplied ih =>
    rw [outline_kept ht hsupplied, pieces_of_some (delimited_ofKind .text)
      (tokenAt?_spelling (delimited_ofKind .text) ht rest), List.flatMap_append, List.flatMap_cons,
      ih, hliterals]
    simp only [if_neg hsupplied]
  | content name rest hname hfits ih =>
    rw [outline_content hfiles hname, (for_ofKind .file).pieces_spelling_append (for_ofKind .text)
      (by decide) hfits, List.flatMap_cons, List.flatMap_append, ih, List.flatMap_map,
      Part.filled, ← Kind.spelling_canonical]
    congr 1
    exact (List.flatMap_singleton' _).symm

theorem valueHoles_scannedOutline (text : String) (v : Values) :
    valueHoles (scannedOutline text v) = ((ofKind .text).spans text.toList).filter
      (fun s ↦ (v.text? (String.ofList s.token.name)).isSome) := by
  rw [scannedOutline, valueHoles_eq (canonical_files text)]
  refine List.filter_congr fun s hs ↦ ?_
  rw [Bool.eq_iff_iff, decide_eq_true_iff]
  exact mem_suppliedNames_iff_of_mem_spans hs

theorem substitute_tokens (text : String) (v : Values) :
    substitute ((scan text).file.map fun n ↦ (n, Kind.file.token n))
        (suppliedTexts (scan text).text v) text =
      String.ofList ((ofKind .text).replace v.replacement text.toList) := by
  rw [substitute_eq (get?_suppliedTexts (scan text).text v),
    filled_outline_of_tokens (canonical_files text)]
  refine congrArg String.ofList (replace_congr fun t ht ↦ ?_)
  rw [← map_token_spans] at ht
  obtain ⟨s, hs, rfl⟩ := List.mem_map.mp ht
  rw [Values.replacement]
  cases hvalue : v.text? (String.ofList s.token.name) with
  | none =>
    have hfree : String.ofList s.token.name ∉ v.suppliedNames (scan text).text := by
      rw [mem_suppliedNames_iff_of_mem_spans hs, hvalue]
      exact Bool.false_ne_true
    rw [if_neg hfree]
    rfl
  | some value =>
    have hmem : String.ofList s.token.name ∈ v.suppliedNames (scan text).text := by
      rw [mem_suppliedNames_iff_of_mem_spans hs, hvalue]
      rfl
    rw [if_pos hmem]
    rfl

/-- **Values fill the text tokens of the whole prompt.** The stretches of a prompt that are replaced
by values are the text tokens with a supplied name that one reading of the whole prompt finds, and
each is replaced by the value of its name; so if every file placeholder stands for itself, the
result is the prompt with these tokens replaced. Filling each segment by a search for the supplied
names gives the same, whatever the contents of the files are. -/
theorem values_fill_tokens (text : String) (v : Values) :
    let names := scan text
    let parts := scannedOutline text v
    FilledFrom text v parts ∧
      valueHoles parts = ((ofKind .text).spans text.toList).filter
        (fun s ↦ (v.text? (String.ofList s.token.name)).isSome) ∧
      substitute (names.file.map fun n ↦ (n, Kind.file.token n)) (suppliedTexts names.text v) text =
        String.ofList ((ofKind .text).replace v.replacement text.toList) ∧
      ∀ contents : List (String × String),
        let cuts := cutAfter contents 0 text.toList
        substitute contents (suppliedTexts names.text v) text =
          String.ofList (v.fillBySearch names.text cuts.first ++
            cuts.later.flatMap fun e ↦ e.1.toList ++ v.fillBySearch names.text e.2) := by
  intro names parts
  refine ⟨filledFrom_scannedOutline text v, valueHoles_scannedOutline text v,
    substitute_tokens text v, fun contents ↦ ?_⟩
  have hnames : ∀ n ∈ names.text, (Element.token .text n).Canonical :=
    fun n hn ↦ canonical_of_mem_scan hn
  rw [substitute]
  simp only [fillTexts_eq_fillBySearch hnames]

end Placeholder

end PromptLibrary
