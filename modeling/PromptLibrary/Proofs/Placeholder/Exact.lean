import PromptLibrary.Proofs.Placeholder.Hole

/-!
# File placeholders in their exact spelling

A scan takes a file placeholder with any blanks around its name, but a prompt is cut only at the
exact spelling, with one space on either side, of the names that the scan has found. The cuts are
the result of a reading of their own: it takes the exact tokens from left to right and passes over
all others.

So the two readings need not stay in step. Where the scan takes a token with other blanks, the cuts
pass over it, and its closing delimiter can be the opening one of an exact token, which the scan
does not see. If this does not happen, the stretches that are replaced by the contents of files are
the scanned tokens in exact spelling; if it happens anywhere, they are not
(`Placeholder.mem_contentHoles_iff_scanned_iff`).
-/

namespace PromptLibrary

/-- There is one space on either side of the name. -/
def Token.SingleSpaced (t : Token) : Prop :=
  t.before = [' '] ∧ t.after = [' ']

instance (t : Token) : Decidable t.SingleSpaced :=
  inferInstanceAs (Decidable (t.before = [' '] ∧ t.after = [' ']))

namespace Placeholder

open Pattern

/-! ## Exact tokens -/

/-- The file token at the beginning of the input, if its spelling is exact and its name one of those
given. -/
def exactTokenAt? (files : List String) (cs : List Char) : Option Token :=
  ((ofKind .file).tokenAt? cs).filter fun t ↦ t.SingleSpaced ∧ String.ofList t.name ∈ files

section Exact

variable {files : List String} {cs : List Char} {t : Token}

theorem exactTokenAt?_eq_some_iff :
    exactTokenAt? files cs = some t ↔
      (ofKind .file).tokenAt? cs = some t ∧ t.SingleSpaced ∧ String.ofList t.name ∈ files := by
  rw [exactTokenAt?, Option.filter_eq_some_iff, decide_eq_true_iff]

theorem eq_canonical_of_singleSpaced (ht : (ofKind .file).Fits t) (h : t.SingleSpaced) :
    t = Kind.file.canonical (String.ofList t.name) := by
  obtain ⟨opening, before, name, after, closing⟩ := t
  obtain ⟨rfl, rfl, -⟩ := ht
  obtain ⟨rfl, rfl⟩ := h
  rw [Kind.canonical, String.toList_ofList]
  rfl

theorem exactTokenAt?_canonical {name : String}
    (hfits : (ofKind .file).Fits (Kind.file.canonical name)) (hname : name ∈ files)
    (rest : List Char) :
    exactTokenAt? files ((Kind.file.canonical name).spelling ++ rest) =
      some (Kind.file.canonical name) := by
  refine exactTokenAt?_eq_some_iff.mpr ⟨tokenAt?_spelling (delimited_ofKind .file) hfits rest,
    ⟨rfl, rfl⟩, ?_⟩
  rwa [Kind.canonical, String.ofList_toList]

theorem exactTokenAt?_of_none (hfiles : ∀ f ∈ files, (Element.token .file f).Canonical)
    (h : fileTokenAt? (nameContents files) cs = none) : exactTokenAt? files cs = none := by
  refine Option.eq_none_iff_forall_ne_some.mpr fun t ht ↦ ?_
  obtain ⟨hfound, hspaced, hname⟩ := exactTokenAt?_eq_some_iff.mp ht
  obtain ⟨hfits, rest, hrest⟩ := fits_of_tokenAt? hfound
  rw [hrest, eq_canonical_of_singleSpaced hfits hspaced, Kind.spelling_canonical,
    fileTokenAt?_token hfiles hname] at h
  cases h

theorem exactTokenAt?_of_ne_mark {xs : List Char} (hxs : ∀ c ∈ xs, c ≠ Kind.file.mark)
    (rest : List Char) {i : Nat} (hi : i < xs.length) :
    exactTokenAt? files ((xs ++ rest).drop i) = none := by
  refine Option.eq_none_iff_forall_ne_some.mpr fun t ht ↦ ?_
  have hmark := (for_ofKind .file).getElem?_of_tokenAt? (exactTokenAt?_eq_some_iff.mp ht).1
  rw [List.getElem?_append_left hi] at hmark
  exact hxs _ (List.mem_of_getElem? hmark) rfl

end Exact

/-! ## The reading of the cuts -/

/-- The spans are what a reading of the text takes that looks for exact tokens. -/
structure ExactReading (files : List String) (cs : List Char) (spans : List Span) : Prop where
  /-- At the start of every span there is its token. -/
  found : ∀ s ∈ spans, exactTokenAt? files (cs.drop s.start) = some s.token
  /-- No exact token begins at a position that is passed over. -/
  passed : ∀ i, (∀ s ∈ spans, ¬s.Covers i) → exactTokenAt? files (cs.drop i) = none
  /-- The spans do not overlap. -/
  apart : ∀ s ∈ spans, ∀ u ∈ spans, s = u ∨ s.stop ≤ u.start ∨ u.stop ≤ s.start

namespace ExactReading

variable {files : List String} {cs xs rest : List Char} {spans : List Span}

theorem nil : ExactReading files [] [] where
  found := nofun
  passed i _ := by
    rw [List.drop_nil, exactTokenAt?, tokenAt?_nil (delimited_ofKind .file)]
    rfl
  apart := nofun

theorem found_behind (h : ExactReading files rest spans) {s : Span}
    (hs : s ∈ spans.map (Span.behind xs.length)) :
    exactTokenAt? files ((xs ++ rest).drop s.start) = some s.token := by
  obtain ⟨u, hu, rfl⟩ := List.mem_map.mp hs
  rw [Span.behind, ← List.drop_drop, List.drop_left]
  exact h.found u hu

theorem passed_behind (h : ExactReading files rest spans) {i : Nat} (hi : xs.length ≤ i)
    (hout : ∀ s ∈ spans.map (Span.behind xs.length), ¬s.Covers i) :
    exactTokenAt? files ((xs ++ rest).drop i) = none := by
  obtain ⟨j, rfl⟩ := Nat.exists_eq_add_of_le hi
  rw [← List.drop_drop, List.drop_left]
  exact h.passed j fun s hs hcovers ↦
    hout _ (List.mem_map_of_mem hs) (Span.covers_behind_iff.mpr hcovers)

theorem apart_behind (h : ExactReading files rest spans) {s u : Span} {n : Nat}
    (hs : s ∈ spans.map (Span.behind n)) (hu : u ∈ spans.map (Span.behind n)) :
    s = u ∨ s.stop ≤ u.start ∨ u.stop ≤ s.start := by
  obtain ⟨s₀, hs₀, rfl⟩ := List.mem_map.mp hs
  obtain ⟨u₀, hu₀, rfl⟩ := List.mem_map.mp hu
  rw [Span.stop_behind, Span.stop_behind, Span.behind, Span.behind]
  rcases h.apart s₀ hs₀ u₀ hu₀ with rfl | hapart
  · exact .inl rfl
  · dsimp only
    omega

theorem append_of_none (h : ExactReading files rest spans)
    (hnone : ∀ i < xs.length, exactTokenAt? files ((xs ++ rest).drop i) = none) :
    ExactReading files (xs ++ rest) (spans.map (Span.behind xs.length)) where
  found _ hs := h.found_behind hs
  passed i hout := by
    rcases Nat.lt_or_ge i xs.length with hi | hi
    · exact hnone i hi
    · exact h.passed_behind hi hout
  apart _ hs _ hu := h.apart_behind hs hu

theorem append_of_some (h : ExactReading files rest spans) {t : Token}
    (ht : exactTokenAt? files (t.spelling ++ rest) = some t) :
    ExactReading files (t.spelling ++ rest)
      (⟨0, t⟩ :: spans.map (Span.behind t.spelling.length)) where
  found s hs := by
    rcases List.mem_cons.mp hs with rfl | hs
    · exact ht
    · exact h.found_behind hs
  passed i hout := by
    obtain ⟨hfirst, hlater⟩ := List.forall_mem_cons.mp hout
    refine h.passed_behind (Nat.le_of_not_lt fun hi ↦ hfirst ⟨Nat.zero_le i, ?_⟩) hlater
    rwa [Span.stop, Nat.zero_add]
  apart s hs u hu := by
    have hbehind : ∀ w ∈ spans.map (Span.behind t.spelling.length),
        (⟨0, t⟩ : Span).stop ≤ w.start := by
      intro w hw
      obtain ⟨w, -, rfl⟩ := List.mem_map.mp hw
      rw [Span.stop, Span.behind]
      dsimp only
      omega
    rcases List.mem_cons.mp hs with rfl | hs
    · rcases List.mem_cons.mp hu with rfl | hu
      · exact .inl rfl
      · exact .inr (.inl (hbehind u hu))
    · rcases List.mem_cons.mp hu with rfl | hu
      · exact .inr (.inr (hbehind s hs))
      · exact h.apart_behind hs hu

/-- Where an exact token is spelled it is taken, unless one that begins before it ends behind this
place. -/
theorem exists_covers (h : ExactReading files cs spans) {s : Span}
    (hs : exactTokenAt? files (cs.drop s.start) = some s.token) :
    ∃ u ∈ spans, u.Covers s.start ∧ (u = s ∨ u.start < s.start) := by
  by_contra! hnone
  have hpassed : ∀ u ∈ spans, ¬u.Covers s.start := by
    intro u hu hcovers
    obtain ⟨hne, hle⟩ := hnone u hu hcovers
    have hstart : u.start = s.start := Nat.le_antisymm hcovers.1 hle
    have hfound := h.found u hu
    rw [hstart, hs] at hfound
    obtain ⟨start, token⟩ := u
    obtain rfl : start = s.start := hstart
    exact hne (congrArg (Span.mk s.start) (Option.some.inj hfound).symm)
  rw [h.passed s.start hpassed] at hs
  cases hs

end ExactReading

/-- The holes for contents are what a reading takes that looks for exact tokens. -/
theorem exactReading_contentHoles {files supplied : List String}
    (hfiles : ∀ f ∈ files, (Element.token .file f).Canonical) (cs : List Char) :
    ExactReading files cs (contentHoles (outline files supplied cs)) := by
  have hforeign : ∀ {t : Token} {rest : List Char}, (ofKind .text).Fits t →
      ∀ i < t.spelling.length, exactTokenAt? files ((t.spelling ++ rest).drop i) = none :=
    fun ht i hi ↦ exactTokenAt?_of_ne_mark ((for_ofKind .text).ne_mark (by decide) ht) _ hi
  rw [contentHoles]
  induction cs using outline_induction supplied hfiles with
  | nil => exact .nil
  | literal c cs htext hfile ih =>
    rw [outline_literal htext hfile, holesFrom_of_none rfl, ← List.singleton_append]
    refine ih.append_of_none fun i hi ↦ ?_
    obtain rfl : i = 0 := Nat.lt_one_iff.mp hi
    exact exactTokenAt?_of_none hfiles hfile
  | value t rest ht hsupplied ih =>
    rw [outline_value ht hsupplied, holesFrom_of_none rfl]
    exact ih.append_of_none (hforeign ht)
  | kept t rest ht hsupplied ih =>
    rw [outline_kept ht hsupplied, holesFrom_literals fun _ ↦ rfl]
    exact ih.append_of_none (hforeign ht)
  | content name rest hname hfits ih =>
    rw [outline_content hfiles hname, holesFrom_of_some rfl, Part.spelling, ← Kind.toList_token,
      ← Kind.spelling_canonical]
    exact ih.append_of_some (exactTokenAt?_canonical hfits hname rest)

/-! ## The two readings -/

/-- An exact token begins inside a scanned one that is not exact. -/
def Shifted (files : List String) (cs : List Char) : Prop :=
  ∃ s ∈ (ofKind .file).spans cs, ¬s.token.SingleSpaced ∧
    ∃ i, i < s.stop ∧ s.start < i ∧ (exactTokenAt? files (cs.drop i)).isSome = true

instance (files : List String) (cs : List Char) : Decidable (Shifted files cs) :=
  inferInstanceAs (Decidable (∃ s ∈ (ofKind .file).spans cs, ¬s.token.SingleSpaced ∧
    ∃ i, i < s.stop ∧ s.start < i ∧ (exactTokenAt? files (cs.drop i)).isSome = true))

section Readings

variable {files : List String} {cs : List Char} {spans : List Span}

/-- If the readings stay in step, the exact tokens that are taken are those of the scan. -/
theorem ExactReading.mem_iff_of_not_shifted (h : ExactReading files cs spans)
    (hscan : ∀ s ∈ (ofKind .file).spans cs, String.ofList s.token.name ∈ files)
    (hstep : ¬Shifted files cs) (s : Span) :
    s ∈ spans ↔ s ∈ (ofKind .file).spans cs ∧ s.token.SingleSpaced := by
  induction hn : s.start using Nat.strong_induction_on generalizing s with
  | _ n ih =>
    constructor
    · intro hs
      have hexact := h.found s hs
      obtain ⟨hfound, hspaced, -⟩ := exactTokenAt?_eq_some_iff.mp hexact
      obtain ⟨u, hu, hcovers, rfl | hlt⟩ :=
        exists_covers_of_tokenAt? (delimited_ofKind .file) hfound
      · exact ⟨hu, hspaced⟩
      · by_cases huspaced : u.token.SingleSpaced
        · -- both readings would take `u`, which ends behind the start of `s`
          have huholes := (ih u.start (hn ▸ hlt) u rfl).mpr ⟨hu, huspaced⟩
          obtain rfl := eq_of_covers_start (h.apart s hs u huholes) hcovers hlt
          exact ⟨hu, hspaced⟩
        · refine absurd ⟨u, hu, huspaced, s.start, hcovers.2, hlt, ?_⟩ hstep
          rw [hexact]
          rfl
    · rintro ⟨hs, hspaced⟩
      have hfound := tokenAt?_of_mem_spans (delimited_ofKind .file) hs
      obtain ⟨u, hu, hcovers, rfl | hlt⟩ := h.exists_covers
        (exactTokenAt?_eq_some_iff.mpr ⟨hfound, hspaced, hscan s hs⟩)
      · exact hu
      · have huscan := ((ih u.start (hn ▸ hlt) u rfl).mp hu).1
        obtain rfl := eq_of_covers_start (apart_of_mem_spans hs huscan) hcovers hlt
        exact hu

/-- If the exact tokens that are taken are those of the scan, the readings stay in step. -/
theorem ExactReading.not_shifted (h : ExactReading files cs spans)
    (hall : ∀ s, s ∈ spans ↔ s ∈ (ofKind .file).spans cs ∧ s.token.SingleSpaced) :
    ¬Shifted files cs := by
  rintro ⟨s, hs, hspaced, i, hstop, hstart, hsome⟩
  obtain ⟨t, ht⟩ := Option.isSome_iff_exists.mp hsome
  obtain ⟨u, hu, ⟨hle, hlt⟩, -⟩ := h.exists_covers (s := ⟨i, t⟩) ht
  dsimp only at hle hlt
  obtain ⟨huscan, huspaced⟩ := (hall u).mp hu
  rcases apart_of_mem_spans huscan hs with rfl | hapart
  · exact hspaced huspaced
  · omega

end Readings

/-- **File placeholders are filled in exact spelling.** The stretches that are replaced by the
contents of files are exact tokens with names that the scan finds. An exact token with such a name
is left behind only if one that is replaced begins before it and ends in it. The stretches are those
of the scanned tokens that are exact, exactly if no exact token begins inside a scanned one that is
not. -/
theorem mem_contentHoles_iff_scanned_iff (text : String) (v : Values) :
    let files := (scan text).file
    let parts := scannedOutline text v
    FilledFrom text v parts ∧
      (∀ s ∈ contentHoles parts,
        exactTokenAt? files (text.toList.drop s.start) = some s.token) ∧
      (∀ s : Span, exactTokenAt? files (text.toList.drop s.start) = some s.token →
        ∃ u ∈ contentHoles parts, u.Covers s.start ∧ (u = s ∨ u.start < s.start)) ∧
      ((∀ s, s ∈ contentHoles parts ↔
          s ∈ (ofKind .file).spans text.toList ∧ s.token.SingleSpaced) ↔
        ¬Shifted files text.toList) := by
  intro files parts
  have hreading : ExactReading files text.toList (contentHoles parts) :=
    exactReading_contentHoles (canonical_files text) text.toList
  refine ⟨filledFrom_scannedOutline text v, hreading.found, fun s hs ↦ hreading.exists_covers hs,
    hreading.not_shifted, ?_⟩
  exact hreading.mem_iff_of_not_shifted fun s hs ↦ Kind.mem_scan_iff.mpr ⟨s, hs, rfl⟩

/-- Behind a token with two spaces, a stretch is replaced that the scan does not take, and an exact
token that it takes is left behind. -/
theorem not_mem_contentHoles_iff_scanned :
    let text := "%%  a  %% b %% b %%"
    let b := Kind.file.canonical "b"
    (scan text).file = ["a", "b"] ∧
      (ofKind .file).spans text.toList =
        [⟨0, ⟨['%', '%'], [' ', ' '], ['a'], [' ', ' '], ['%', '%']⟩⟩, ⟨12, b⟩] ∧
      contentHoles (scannedOutline text {}) = [⟨7, b⟩] ∧
      substitute [("a", "A"), ("b", "B")] [] text = "%%  a  B b %%" ∧
      ¬∀ s, s ∈ contentHoles (scannedOutline text {}) ↔
        s ∈ (ofKind .file).spans text.toList ∧ s.token.SingleSpaced := by
  intro text b
  have hspans : (ofKind .file).spans text.toList =
      [⟨0, ⟨['%', '%'], [' ', ' '], ['a'], [' ', ' '], ['%', '%']⟩⟩, ⟨12, b⟩] := by
    decide +kernel
  have hholes : contentHoles (scannedOutline text {}) = [⟨7, b⟩] := by decide +kernel
  refine ⟨by decide +kernel, hspans, hholes, by decide +kernel, fun hall ↦ ?_⟩
  have hb := (hall ⟨7, b⟩).mp (by rw [hholes]; exact List.mem_singleton_self _)
  rw [hspans] at hb
  exact absurd hb.1 (by decide +kernel)

end Placeholder

end PromptLibrary
