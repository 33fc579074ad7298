import Mathlib.Data.Nat.Count
import PromptLibrary.Placeholder.Scan
import PromptLibrary.Proofs.Placeholder.Mark

/-!
# Removing the tokens of one kind and looking for those of another

Removing the tokens of a kind takes no character away from a token of another kind, so every token
of the other kind is still spelled out afterwards. But the text on the two sides of a removed token
comes together, and a token of another kind can arise there. `Joined` says that the text that is
left has a token that reaches over the place of a removed one.

If there is no such token the two readings are the same: what is left has the tokens of the text, in
the same order and each where its own characters are now. If there is one the two readings differ
(`Pattern.spans_remove_iff`).
-/

namespace PromptLibrary

namespace Pattern

variable {p q : Pattern} {xs rest : List Char} {t : Token} {i : Nat}

/-! ## Removal behind a beginning -/

theorem remove_append_of_passed (h : q.pieces (xs ++ rest) = xs.map .char ++ q.pieces rest) :
    q.remove (xs ++ rest) = xs ++ q.remove rest := by
  have hchars : (xs.map Piece.char).filterMap Piece.char? = xs := by
    rw [List.filterMap_map]
    exact List.filterMap_some
  rw [remove_eq_filterMap, remove_eq_filterMap, h, List.filterMap_append, hchars]

theorem remove_append_of_token (hq : q.Delimited) (ht : q.Fits t) (rest : List Char) :
    q.remove (t.spelling ++ rest) = q.remove rest := by
  rw [remove_eq_filterMap, remove_eq_filterMap, pieces_of_some hq (tokenAt?_spelling hq ht rest)]
  rfl

theorem deletes_append_of_passed (h : q.pieces (xs ++ rest) = xs.map .char ++ q.pieces rest) :
    q.Deletes (xs ++ rest) (xs.length + i) ↔ q.Deletes rest i := by
  simp [Deletes, spans_append_of_passed h]

theorem not_deletes_of_passed (h : q.pieces (xs ++ rest) = xs.map .char ++ q.pieces rest)
    (hi : i < xs.length) : ¬q.Deletes (xs ++ rest) i := by
  rintro ⟨s, hs, hle, -⟩
  rw [spans_append_of_passed h] at hs
  obtain ⟨s', -, rfl⟩ := List.mem_map.mp hs
  rw [Span.behind] at hle
  dsimp only at hle
  omega

theorem deletes_append_of_token (hq : q.Delimited) (ht : q.Fits t) :
    q.Deletes (t.spelling ++ rest) (t.spelling.length + i) ↔ q.Deletes rest i := by
  have hout : ¬(⟨0, t⟩ : Span).Covers (t.spelling.length + i) := by
    rintro ⟨-, hlt⟩
    rw [Span.stop] at hlt
    dsimp only at hlt
    omega
  simp [Deletes, spans_append_of_token hq ht, hout]

theorem deletes_of_token (hq : q.Delimited) (ht : q.Fits t) (hi : i < t.spelling.length) :
    q.Deletes (t.spelling ++ rest) i := by
  refine ⟨⟨0, t⟩, ?_, Nat.zero_le i, ?_⟩
  · rw [spans_append_of_token hq ht]
    exact List.mem_cons_self
  · rwa [Span.stop, Nat.zero_add]

/-! ## Places in what is left -/

/-- The number of characters before the position that are left. -/
def place (q : Pattern) (cs : List Char) (i : Nat) : Nat :=
  Nat.count (fun j ↦ ¬q.Deletes cs j) i

@[simp] theorem place_zero (q : Pattern) (cs : List Char) : q.place cs 0 = 0 :=
  Nat.count_zero _

theorem place_mono (q : Pattern) (cs : List Char) : Monotone (q.place cs) :=
  Nat.count_monotone _

/-- Positions in a stretch from which nothing is removed stay together. -/
theorem place_add_of_kept {cs : List Char} {n : Nat} (h : ∀ j < n, ¬q.Deletes cs (i + j)) :
    q.place cs (i + n) = q.place cs i + n := by
  rw [place, place, Nat.count_add]
  congr 1
  exact Nat.count_iff_forall.mpr h

theorem place_append_of_passed (h : q.pieces (xs ++ rest) = xs.map .char ++ q.pieces rest) :
    q.place (xs ++ rest) (xs.length + i) = xs.length + q.place rest i := by
  rw [place, Nat.count_add, Nat.count_iff_forall.mpr fun j hj ↦ not_deletes_of_passed h hj, place]
  simp only [deletes_append_of_passed h]

theorem place_append_of_token (hq : q.Delimited) (ht : q.Fits t) :
    q.place (t.spelling ++ rest) (t.spelling.length + i) = q.place rest i := by
  have hnone : Nat.count (fun j ↦ ¬q.Deletes (t.spelling ++ rest) j) t.spelling.length = 0 :=
    Nat.count_iff_forall_not.mpr fun j hj ↦ not_not.mpr (deletes_of_token hq ht hj)
  rw [place, Nat.count_add, hnone, Nat.zero_add, place]
  simp only [deletes_append_of_token hq ht]

/-- If nothing is removed in front of the first `n` characters that are left, the text begins with
them. -/
theorem take_remove (hq : q.Delimited) {cs : List Char} {n : Nat}
    (h : ∀ u ∈ q.spans cs, n ≤ q.place cs u.start) : (q.remove cs).take n = cs.take n := by
  induction cs using reading_induction hq generalizing n with
  | nil => rfl
  | char c cs hnone ih =>
    have hpieces : q.pieces ([c] ++ cs) = [c].map .char ++ q.pieces cs := pieces_of_none hnone
    have hremove := remove_append_of_passed hpieces
    cases n with
    | zero => rfl
    | succ n =>
      have hrest : ∀ u ∈ q.spans cs, n ≤ q.place cs u.start := by
        intro u hu
        have hle := h (u.behind 1) (by
          rw [← List.singleton_append, spans_append_of_passed hpieces]
          exact List.mem_map_of_mem hu)
        have hplace : q.place ([c] ++ cs) (1 + u.start) = 1 + q.place cs u.start :=
          place_append_of_passed hpieces
        rw [Span.behind, ← List.singleton_append, hplace] at hle
        omega
      rw [← List.singleton_append, hremove, List.singleton_append, List.singleton_append,
        List.take_succ_cons, List.take_succ_cons, ih hrest]
  | token t rest hfits hfound ih =>
    have hle := h ⟨0, t⟩ (by
      rw [spans_append_of_token hq hfits]
      exact List.mem_cons_self)
    obtain rfl : n = 0 := by
      rw [place_zero] at hle
      omega
    rfl

/-! ## Tokens that are joined -/

/-- The span of a token where its characters are when the tokens of `q` have been removed. -/
def Span.moved (q : Pattern) (cs : List Char) (s : Span) : Span :=
  ⟨q.place cs s.start, s.token⟩

/-- What is left when the tokens of `q` are removed has a token of `p` that reaches over the place
of a removed one. -/
def Joined (p q : Pattern) (cs : List Char) : Prop :=
  ∃ s ∈ p.spans (q.remove cs), ∃ u ∈ q.spans cs,
    s.start < q.place cs u.start ∧ q.place cs u.start < s.stop

instance (p q : Pattern) (cs : List Char) : Decidable (Joined p q cs) :=
  inferInstanceAs (Decidable (∃ s ∈ p.spans (q.remove cs), ∃ u ∈ q.spans cs,
    s.start < q.place cs u.start ∧ q.place cs u.start < s.stop))

theorem moved_behind_of_passed (h : q.pieces (xs ++ rest) = xs.map .char ++ q.pieces rest)
    (s : Span) : (s.behind xs.length).moved q (xs ++ rest) = (s.moved q rest).behind xs.length := by
  rw [Span.moved, Span.behind, place_append_of_passed h]
  rfl

theorem moved_behind_of_token (hq : q.Delimited) (ht : q.Fits t) (s : Span) :
    (s.behind t.spelling.length).moved q (t.spelling ++ rest) = s.moved q rest := by
  rw [Span.moved, Span.behind, place_append_of_token hq ht]
  rfl

theorem Joined.append_of_passed (h : q.pieces (xs ++ rest) = xs.map .char ++ q.pieces rest)
    (hp : ∀ s ∈ p.spans (q.remove rest), s.behind xs.length ∈ p.spans (xs ++ q.remove rest))
    (hjoined : Joined p q rest) : Joined p q (xs ++ rest) := by
  obtain ⟨s, hs, u, hu, hlt, hlt'⟩ := hjoined
  refine ⟨s.behind xs.length, ?_, u.behind xs.length, ?_, ?_⟩
  · rw [remove_append_of_passed h]
    exact hp s hs
  · rw [spans_append_of_passed h]
    exact List.mem_map_of_mem hu
  · have hplace : q.place (xs ++ rest) (u.behind xs.length).start =
        xs.length + q.place rest u.start := place_append_of_passed h
    rw [Span.stop_behind, hplace, Span.behind]
    dsimp only
    omega

theorem Joined.append_of_token (hq : q.Delimited) (ht : q.Fits t) (hjoined : Joined p q rest) :
    Joined p q (t.spelling ++ rest) := by
  obtain ⟨s, hs, u, hu, hlt, hlt'⟩ := hjoined
  refine ⟨s, ?_, u.behind t.spelling.length, ?_, ?_⟩
  · rwa [remove_append_of_token hq ht]
  · rw [spans_append_of_token hq ht]
    exact List.mem_cons_of_mem _ (List.mem_map_of_mem hu)
  · have hplace : q.place (t.spelling ++ rest) (u.behind t.spelling.length).start =
        q.place rest u.start := place_append_of_token hq ht
    rw [hplace]
    exact ⟨hlt, hlt'⟩

section Foreign

open Placeholder

variable {k k' : Kind} {cs : List Char}

theorem For.not_deletes (hp : p.For k) (hq : q.For k') (hne : k ≠ k') {s : Span}
    (hs : s ∈ p.spans cs) (hi : s.Covers i) : ¬q.Deletes cs i := by
  rintro ⟨u, hu, hle, hlt⟩
  have hapart := hp.apart hq hne (tokenAt?_of_mem_spans hp.delimited hs)
    (tokenAt?_of_mem_spans hq.delimited hu)
  obtain ⟨hsle, hslt⟩ := hi
  omega

/-- A character that no reader takes is not taken when the tokens behind it are removed, unless
tokens are joined. -/
theorem tokenAt?_remove_of_not_joined (hp : p.Delimited) (hq : q.Delimited) {c : Char}
    (hpnone : p.tokenAt? (c :: cs) = none) (hqnone : q.tokenAt? (c :: cs) = none)
    (hjoined : ¬Joined p q (c :: cs)) : p.tokenAt? (c :: q.remove cs) = none := by
  have hpieces : q.pieces ([c] ++ cs) = [c].map .char ++ q.pieces cs := pieces_of_none hqnone
  have hremove : q.remove (c :: cs) = c :: q.remove cs := remove_append_of_passed hpieces
  by_contra hfound
  obtain ⟨t, ht⟩ := Option.ne_none_iff_exists'.mp hfound
  obtain ⟨hfits, rest, hrest⟩ := fits_of_tokenAt? ht
  have hspan : ⟨0, t⟩ ∈ p.spans (q.remove (c :: cs)) := by
    rw [hremove, hrest, spans_append_of_token hp hfits]
    exact List.mem_cons_self
  -- every removed token lies behind the new one, so the text itself begins with it
  have hbehind : ∀ u ∈ q.spans (c :: cs), t.spelling.length ≤ q.place (c :: cs) u.start := by
    intro u hu
    by_contra hlt
    refine hjoined ⟨_, hspan, u, hu, ?_, ?_⟩
    · rw [← List.singleton_append, spans_append_of_passed hpieces] at hu
      obtain ⟨u', -, rfl⟩ := List.mem_map.mp hu
      have hplace : q.place (c :: cs) (u'.behind 1).start = 1 + q.place cs u'.start :=
        place_append_of_passed hpieces
      change 0 < q.place (c :: cs) (u'.behind 1).start
      rw [hplace]
      omega
    · rw [Span.stop, Nat.zero_add]
      exact Nat.lt_of_not_le hlt
  have htake := take_remove hq hbehind
  rw [hremove, hrest, List.take_left] at htake
  rw [← List.take_append_drop t.spelling.length (c :: cs), ← htake, tokenAt?_spelling hp hfits]
    at hpnone
  cases hpnone

theorem spans_remove_of_not_joined (hp : p.For k) (hq : q.For k') (hne : k ≠ k')
    (hjoined : ¬Joined p q cs) : p.spans (q.remove cs) = (p.spans cs).map (Span.moved q cs) := by
  induction cs using common_induction hp.delimited hq.delimited with
  | nil => rfl
  | char c cs hpnone hqnone ih =>
    have hpieces : q.pieces ([c] ++ cs) = [c].map .char ++ q.pieces cs := pieces_of_none hqnone
    have hread : p.pieces ([c] ++ cs) = [c].map .char ++ p.pieces cs := pieces_of_none hpnone
    have hreadLeft : p.pieces ([c] ++ q.remove cs) = [c].map .char ++ p.pieces (q.remove cs) :=
      pieces_of_none (tokenAt?_remove_of_not_joined hp.delimited hq.delimited hpnone hqnone hjoined)
    have hrest : ¬Joined p q cs := fun h ↦ hjoined (h.append_of_passed hpieces fun s hs ↦ by
      rw [spans_append_of_passed hreadLeft]
      exact List.mem_map_of_mem hs)
    rw [← List.singleton_append, remove_append_of_passed hpieces, spans_append_of_passed hreadLeft,
      spans_append_of_passed hread, ih hrest, List.map_map, List.map_map]
    exact List.map_congr_left fun s _ ↦ (moved_behind_of_passed hpieces s).symm
  | first t rest ht ih =>
    have hpieces := hp.pieces_spelling_append hq hne ht rest
    have hrest : ¬Joined p q rest := fun h ↦ hjoined (h.append_of_passed hpieces fun s hs ↦ by
      rw [spans_append_of_token hp.delimited ht]
      exact List.mem_cons_of_mem _ (List.mem_map_of_mem hs))
    rw [remove_append_of_passed hpieces, spans_append_of_token hp.delimited ht,
      spans_append_of_token hp.delimited ht, ih hrest, List.map_cons, List.map_map, List.map_map]
    refine congrArg₂ List.cons ?_ (List.map_congr_left fun s _ ↦
      (moved_behind_of_passed hpieces s).symm)
    rw [Span.moved, place_zero]
  | second t rest ht ih =>
    have hread := hq.pieces_spelling_append hp hne.symm ht rest
    have hrest : ¬Joined p q rest := fun h ↦ hjoined (h.append_of_token hq.delimited ht)
    rw [remove_append_of_token hq.delimited ht, spans_append_of_passed hread, ih hrest,
      List.map_map]
    exact List.map_congr_left fun s _ ↦ (moved_behind_of_token hq.delimited ht s).symm

/-- **What is read when the tokens of another kind have been removed**: the tokens of the text, each
where its characters are now, exactly if no tokens are joined. -/
theorem spans_remove_iff (hp : p.For k) (hq : q.For k') (hne : k ≠ k') :
    p.spans (q.remove cs) = (p.spans cs).map (Span.moved q cs) ↔ ¬Joined p q cs := by
  constructor
  · rintro hspans ⟨s', hs', u, hu, hlt, hlt'⟩
    rw [hspans] at hs'
    obtain ⟨s, hs, rfl⟩ := List.mem_map.mp hs'
    have hapart := hp.apart hq hne (tokenAt?_of_mem_spans hp.delimited hs)
      (tokenAt?_of_mem_spans hq.delimited hu)
    rcases hapart with hsu | hus
    · -- the token is whole in what is left, and the removed one is behind it
      have hwhole : q.place cs s.stop = q.place cs s.start + s.token.spelling.length :=
        place_add_of_kept fun j hj ↦ hp.not_deletes hq hne hs
          ⟨Nat.le_add_right _ _, Nat.add_lt_add_left hj _⟩
      have hle := place_mono q cs hsu
      rw [Span.stop, Span.moved] at hlt'
      dsimp only at hlt'
      omega
    · have hle := place_mono q cs (Nat.le_trans (Nat.le_add_right _ _) hus)
      rw [Span.moved] at hlt
      exact absurd hlt (Nat.not_lt.mpr hle)
  · exact spans_remove_of_not_joined hp hq hne

end Foreign

end Pattern

namespace Placeholder

open Pattern

/-- **What stripping does to text and file placeholders.** It takes no character away from any of
them. A scan finds the same ones as before, each where its own characters are now, exactly if none
is joined over the place of a removed token. Then the names are the same as well. Of the names the
converse does not hold: a placeholder that is joined may have a name that the text has already. -/
theorem spans_stripOutput_iff {k : Kind} (hk : k ≠ .output) (text : String) :
    (∀ s ∈ (ofKind k).spans text.toList, ∀ i, s.Covers i → ¬looseOutput.Deletes text.toList i) ∧
      ((ofKind k).spans (stripOutput text).toList =
          ((ofKind k).spans text.toList).map (Span.moved looseOutput text.toList) ↔
        ¬Joined (ofKind k) looseOutput text.toList) ∧
      (¬Joined (ofKind k) looseOutput text.toList → k.scan (stripOutput text) = k.scan text) := by
  have hspans : (ofKind k).spans (looseOutput.remove text.toList) =
      ((ofKind k).spans text.toList).map (Span.moved looseOutput text.toList) ↔
        ¬Joined (ofKind k) looseOutput text.toList :=
    spans_remove_iff (for_ofKind k) for_looseOutput hk
  have htext : (stripOutput text).toList = looseOutput.remove text.toList := String.toList_ofList
  rw [htext]
  refine ⟨fun s hs i hi ↦ (for_ofKind k).not_deletes for_looseOutput hk hs hi, hspans, ?_⟩
  intro hjoined
  have htokens : (ofKind k).tokens (looseOutput.remove text.toList) =
      (ofKind k).tokens text.toList := by
    rw [← map_token_spans, hspans.mpr hjoined, List.map_map, ← map_token_spans]
    rfl
  rw [Kind.scan, htext, htokens, Kind.scan]

/-- Placeholders keep their names next to a token that is removed. -/
theorem spans_stripOutput_iff_beside :
    let text := "<< a >>@@ x @@%% b %%@@y@@<< c >>"
    stripOutput text = "<< a >>%% b %%<< c >>" ∧
      Kind.text.scan (stripOutput text) = Kind.text.scan text ∧
      Kind.file.scan (stripOutput text) = Kind.file.scan text := by
  intro text
  refine ⟨by decide +kernel, ?_, ?_⟩
  · exact (spans_stripOutput_iff (by decide) text).2.2 (by decide +kernel)
  · exact (spans_stripOutput_iff (by decide) text).2.2 (by decide +kernel)

/-- A text placeholder arises where an output placeholder stood, and a file placeholder that arises
takes the opening delimiter of the next one. -/
theorem not_scan_stripOutput :
    Kind.text.scan "<< b >> <@@x@@< a >>" = ["b"] ∧
      Kind.text.scan (stripOutput "<< b >> <@@x@@< a >>") = ["b", "a"] ∧
      Kind.file.scan "%@@x@@% a %% b %%" = ["b"] ∧
      Kind.file.scan (stripOutput "%@@x@@% a %% b %%") = ["a"] := by
  decide +kernel

end Placeholder

end PromptLibrary
