import PromptLibrary.Placeholder.Scan
import PromptLibrary.Proofs.Placeholder.Mark

/-!
# Scanned tokens that are not removed

Output placeholders are looked for with two patterns: a scan asks for blanks around the name,
removal does not. The opening and the closing delimiter of an output placeholder are the same, so a
token without blanks, which only the removal takes, can shift how all later delimiters are paired.

A scanned token that begins in a removed one keeps everything between its delimiters; every other
scanned token is removed as a whole (`Placeholder.deletes_scanned_iff`). The first happens only
behind a token without blanks: if all removed tokens have blanks on both sides, everything that is
scanned is removed.

## Marks

In a token the mark `@` stands at the first two and at the last two positions and nowhere else, and
there is something between. So a token can begin in another one only at its last two characters, and
a token that begins in the middle of another one has nowhere to begin but at its closing delimiter.
All of this is arithmetic of positions once it is known where the marks are.
-/

namespace PromptLibrary

open Text Placeholder

namespace Pattern

/-! ## Marks -/

/-- The pattern has the delimiters of output placeholders. -/
def ForOutput (p : Pattern) : Prop :=
  p.opening = ['@', '@'] ∧ p.closing = ['@', '@']

theorem forOutput_looseOutput : looseOutput.ForOutput := ⟨rfl, rfl⟩

theorem forOutput_ofKind : (ofKind .output).ForOutput := ⟨rfl, rfl⟩

theorem ForOutput.delimited {p : Pattern} (h : p.ForOutput) : p.Delimited :=
  For.delimited (k := .output) ⟨h.1, h.2⟩

theorem Fits.inner {p : Pattern} (hp : p.ForOutput) {t : Token} (h : p.Fits t) :
    ∃ inner, t.spelling = '@' :: '@' :: (inner ++ ['@', '@']) ∧ inner ≠ [] ∧
      ∀ c ∈ inner, c ≠ '@' := by
  obtain ⟨hopening, hclosing, hne, hname, hbefore, hafter, -⟩ := h
  refine ⟨t.before ++ t.name ++ t.after, ?_, by simp [hne], ?_⟩
  · rw [Token.spelling, hopening, hclosing, hp.1, hp.2]
    simp
  · rintro c hc rfl
    have hblank : isBlank '@' = false := isBlank_delimiter '@' (by simp)
    have hchar : isNameChar '@' = false := isNameChar_delimiter '@' (by simp)
    simp only [List.mem_append] at hc
    rcases hc with (hc | hc) | hc
    · rw [hbefore _ hc] at hblank
      cases hblank
    · rw [hname _ hc] at hchar
      cases hchar
    · rw [hafter _ hc] at hblank
      cases hblank

theorem getElem?_marks {inner : List Char} (hinner : ∀ c ∈ inner, c ≠ '@') {k : Nat}
    (hk : k < inner.length + 4) :
    ('@' :: '@' :: (inner ++ ['@', '@']))[k]? = some '@' ↔ k < 2 ∨ inner.length + 2 ≤ k := by
  rcases k with _ | _ | k
  · simp
  · simp
  · rw [List.getElem?_cons_succ, List.getElem?_cons_succ]
    by_cases hlt : k < inner.length
    · rw [List.getElem?_append_left hlt, List.getElem?_eq_getElem hlt, Option.some_inj]
      have hne := hinner _ (List.getElem_mem hlt)
      constructor
      · intro h
        exact absurd h hne
      · omega
    · obtain ⟨m, rfl⟩ := Nat.exists_eq_add_of_le (Nat.le_of_not_lt hlt)
      have hm : m = 0 ∨ m = 1 := by omega
      rw [List.getElem?_append_right (Nat.le_add_right _ _), Nat.add_sub_cancel_left]
      constructor
      · omega
      · rintro -
        rcases hm with rfl | rfl <;> rfl

/-- Where the marks of a token are. -/
structure Span.Marked (cs : List Char) (s : Span) : Prop where
  /-- There is something between the delimiters. -/
  long : s.start + 5 ≤ s.stop
  /-- The marks are the first two and the last two characters. -/
  mark_iff : ∀ i, s.Covers i → (cs[i]? = some '@' ↔ i < s.start + 2 ∨ s.stop ≤ i + 2)

theorem marked_of_mem_spans {p : Pattern} (hp : p.ForOutput) {cs : List Char} {s : Span}
    (h : s ∈ p.spans cs) : s.Marked cs := by
  obtain ⟨hfits, rest, hrest⟩ := fits_of_tokenAt? (tokenAt?_of_mem_spans hp.delimited h)
  obtain ⟨inner, hspelling, hne, hinner⟩ := hfits.inner hp
  have hlength : s.token.spelling.length = inner.length + 4 := by
    rw [hspelling]
    simp
  have hpos := List.length_pos_iff.mpr hne
  constructor
  · rw [Span.stop, hlength]
    omega
  · rintro i ⟨hle, hlt⟩
    obtain ⟨k, rfl⟩ := Nat.exists_eq_add_of_le hle
    have hk : k < inner.length + 4 := by
      rw [Span.stop, hlength] at hlt
      omega
    rw [← List.getElem?_drop, hrest, List.getElem?_append_left (by omega), hspelling,
      getElem?_marks hinner hk, Span.stop, hlength]
    omega

/-! ## One token in another -/

/-- A token that begins in another one begins at one of its last two characters. -/
theorem Span.Marked.stop_le {cs : List Char} {u s : Span} (hu : u.Marked cs) (hs : s.Marked cs)
    (hlt : u.start < s.start) (hin : s.start < u.stop) : u.stop ≤ s.start + 2 := by
  have hlong := hs.long
  -- both the first and the second character of `s` are marks of `u`
  have hfirst : s.start < u.start + 2 ∨ u.stop ≤ s.start + 2 := by
    rw [← hu.mark_iff s.start ⟨by omega, hin⟩, hs.mark_iff s.start ⟨by omega, by omega⟩]
    omega
  have hsecond : s.start + 1 < u.stop →
      s.start + 1 < u.start + 2 ∨ u.stop ≤ s.start + 1 + 2 := by
    intro hsecond
    rw [← hu.mark_iff (s.start + 1) ⟨by omega, hsecond⟩,
      hs.mark_iff (s.start + 1) ⟨by omega, by omega⟩]
    omega
  have hlong' := hu.long
  omega

/-! ## Scanned spans -/

theorem tokenAt?_output_iff {cs : List Char} {t : Token} :
    (ofKind .output).tokenAt? cs = some t ↔ looseOutput.tokenAt? cs = some t ∧ t.Spaced := by
  rw [tokenAt?_eq_some_iff (delimited_ofKind .output), tokenAt?_eq_some_iff delimited_looseOutput,
    fits_output_iff, and_right_comm]

/-- A removed token begins before the span and ends in it. -/
def Crossed (cs : List Char) (s : Span) : Prop :=
  ∃ u ∈ looseOutput.spans cs, u.start < s.start ∧ s.start < u.stop

instance (cs : List Char) (s : Span) : Decidable (Crossed cs s) :=
  inferInstanceAs (Decidable (∃ u ∈ looseOutput.spans cs, u.start < s.start ∧ s.start < u.stop))

section Scanned

variable {cs : List Char} {s : Span}

/-- Something is removed where a scanned token begins: the token itself, unless it is crossed. -/
theorem exists_removed_of_scanned (hs : s ∈ (ofKind .output).spans cs) :
    ∃ u ∈ looseOutput.spans cs, u.Covers s.start ∧ (u = s ∨ u.start < s.start) := by
  have hfound := tokenAt?_of_mem_spans (delimited_ofKind .output) hs
  exact exists_covers_of_tokenAt? delimited_looseOutput (tokenAt?_output_iff.mp hfound).1

/-- A removed token with blanks on both sides is scanned, unless a scanned token before it ends in
it. -/
theorem exists_scanned_of_spaced (hs : s ∈ looseOutput.spans cs) (h : s.token.Spaced) :
    ∃ u ∈ (ofKind .output).spans cs, u.Covers s.start ∧ (u = s ∨ u.start < s.start) := by
  have hfound := tokenAt?_of_mem_spans delimited_looseOutput hs
  exact exists_covers_of_tokenAt? (delimited_ofKind .output) (tokenAt?_output_iff.mpr ⟨hfound, h⟩)

theorem Crossed.not_deletes (hs : s ∈ (ofKind .output).spans cs) (h : Crossed cs s) {i : Nat}
    (hle : s.start + 2 ≤ i) (hlt : i + 2 < s.stop) : ¬looseOutput.Deletes cs i := by
  obtain ⟨u, hu, hbefore, hin⟩ := h
  have hsmarked := marked_of_mem_spans forOutput_ofKind hs
  have hend := (marked_of_mem_spans forOutput_looseOutput hu).stop_le hsmarked hbefore hin
  rintro ⟨v, hv, hvle, hvlt⟩
  rcases apart_of_mem_spans hu hv with rfl | huv | hvu
  · omega
  · -- `v` would begin in the span, where only the last two characters are left for it
    have hvmarked := marked_of_mem_spans forOutput_looseOutput hv
    have hstart : s.start < v.start := by omega
    have hlast := hsmarked.stop_le hvmarked hstart (by omega)
    omega
  · omega

/-- A crossed span has a removed token without blanks before it. -/
theorem Crossed.exists_tight (hs : s ∈ (ofKind .output).spans cs) (h : Crossed cs s) :
    ∃ u ∈ looseOutput.spans cs, u.start < s.start ∧ ¬u.token.Spaced := by
  induction hn : s.start using Nat.strong_induction_on generalizing s with
  | _ n ih =>
    obtain ⟨u, hu, hbefore, hin⟩ := h
    by_cases hspaced : u.token.Spaced
    · -- the scan does not take `u`, since a scanned token that is itself crossed ends in it
      obtain ⟨v, hv, ⟨hvle, hvlt⟩, hvu⟩ := exists_scanned_of_spaced hu hspaced
      have hvs : v.stop ≤ s.start := by
        have hself : s.start ≤ s.stop := Nat.le_add_right _ _
        rcases apart_of_mem_spans hv hs with rfl | hvs | hsv
        · omega
        · exact hvs
        · omega
      have hvstart : v.start < u.start := by
        rcases hvu with rfl | hlt
        · omega
        · exact hlt
      have hcrossed : Crossed cs v := by
        obtain ⟨w, hw, ⟨hwle, hwlt⟩, hwv⟩ := exists_removed_of_scanned hv
        rcases hwv with rfl | hlt
        · rcases apart_of_mem_spans hu hw with rfl | huw | hwu <;> omega
        · exact ⟨w, hw, hlt, hwlt⟩
      obtain ⟨w, hw, hlt, htight⟩ := ih v.start (by omega) hv hcrossed rfl
      exact ⟨w, hw, by omega, htight⟩
    · exact ⟨u, hu, hn ▸ hbefore, hspaced⟩

end Scanned

end Pattern

namespace Placeholder

open Pattern

/-- What is left of a text are the characters that no removed token covers. -/
theorem toList_stripOutput (text : String) :
    (stripOutput text).toList =
      (text.toList.zipIdx.filter fun e ↦ ¬looseOutput.Deletes text.toList e.2).map (·.1) := by
  rw [stripOutput, String.toList_ofList, remove_eq_filter delimited_looseOutput]

/-- **Which scanned tokens are removed.** A token that a scan finds is removed as a whole unless a
removed token begins before it and ends in it. In this case nothing between its delimiters is
removed, and one of the removed tokens before it has no blanks around its name. -/
theorem deletes_scanned_iff {text : String} {s : Span}
    (hs : s ∈ (ofKind .output).spans text.toList) :
    ((∀ i, s.Covers i → looseOutput.Deletes text.toList i) ↔ ¬Crossed text.toList s) ∧
      (Crossed text.toList s →
        (∀ i, s.start + 2 ≤ i → i + 2 < s.stop → ¬looseOutput.Deletes text.toList i) ∧
          ∃ u ∈ looseOutput.spans text.toList, u.start < s.start ∧ ¬u.token.Spaced) := by
  constructor
  · constructor
    · intro hall hcrossed
      -- the first character behind the opening delimiter is kept
      have hlong := (marked_of_mem_spans forOutput_ofKind hs).long
      have hcovers : s.Covers (s.start + 2) := ⟨by omega, by omega⟩
      exact hcrossed.not_deletes hs (Nat.le_refl _) (by omega) (hall _ hcovers)
    · intro hcrossed i hi
      obtain ⟨u, hu, hcovers, rfl | hlt⟩ := exists_removed_of_scanned hs
      · exact ⟨u, hu, hi⟩
      · exact absurd ⟨u, hu, hlt, hcovers.2⟩ hcrossed
  · intro hcrossed
    exact ⟨fun i hle hlt ↦ hcrossed.not_deletes hs hle hlt, hcrossed.exists_tight hs⟩

/-- One scanned token is removed, and another one stands behind a token without blanks and keeps its
name. -/
theorem deletes_scanned_iff_mixed :
    let text := "@@ x @@ @@a@@ b @@"
    let x : Span := ⟨0, ⟨['@', '@'], [' '], ['x'], [' '], ['@', '@']⟩⟩
    let b : Span := ⟨11, ⟨['@', '@'], [' '], ['b'], [' '], ['@', '@']⟩⟩
    (ofKind .output).spans text.toList = [x, b] ∧
      (∀ i, x.Covers i → looseOutput.Deletes text.toList i) ∧
      (∀ i, b.start + 2 ≤ i → i + 2 < b.stop → ¬looseOutput.Deletes text.toList i) ∧
      stripOutput text = "  b @@" := by
  intro text x b
  have hspans : (ofKind .output).spans text.toList = [x, b] := by decide +kernel
  have hx : x ∈ (ofKind .output).spans text.toList := by simp [hspans]
  have hb : b ∈ (ofKind .output).spans text.toList := by simp [hspans]
  refine ⟨hspans, ?_, ?_, by decide +kernel⟩
  · exact (deletes_scanned_iff hx).1.mpr (by decide +kernel)
  · exact ((deletes_scanned_iff hb).2 (by decide +kernel)).1

/-- The name of a scanned token stays in the text. -/
theorem not_deletes_scanned :
    let text := "@@a@@ b @@"
    Kind.output.scan text = ["b"] ∧ stripOutput text = " b @@" ∧
      ∃ s ∈ (ofKind .output).spans text.toList,
        s.token.name = ['b'] ∧ ¬∀ i, s.Covers i → looseOutput.Deletes text.toList i := by
  intro text
  have hspans : (ofKind .output).spans text.toList =
      [⟨3, ⟨['@', '@'], [' '], ['b'], [' '], ['@', '@']⟩⟩] := by decide +kernel
  refine ⟨by decide +kernel, by decide +kernel, _, by rw [hspans]; exact List.mem_singleton_self _,
    rfl, ?_⟩
  intro hall
  have hname : ¬looseOutput.Deletes text.toList 6 := by decide +kernel
  exact hname (hall 6 (by decide))

end Placeholder

end PromptLibrary
