import PromptLibrary.Proofs.Placeholder.Pattern

/-!
# Where the tokens of a text lie

A reading of a text covers some of its positions with tokens and passes over the others. Three facts
describe it without its recursion: at the start of every span the text has the token of the span,
two spans do not overlap, and no token begins at a position that is passed over. What is left when
the tokens are removed are the characters at the positions that no span covers.
-/

namespace PromptLibrary.Pattern

/-! ## Characters and tokens among the pieces -/

/-- The character of a piece that is not a token. -/
def Piece.char? : Piece → Option Char
  | .char c => some c
  | .token _ => none

/-- The token of a piece that is one. -/
def Piece.token? : Piece → Option Token
  | .token t => some t
  | .char _ => none

@[simp] theorem Piece.char?_eq_some_iff {piece : Piece} {c : Char} :
    piece.char? = some c ↔ piece = .char c := by
  cases piece <;> simp [Piece.char?]

theorem remove_eq_filterMap (p : Pattern) (cs : List Char) :
    p.remove cs = (p.pieces cs).filterMap Piece.char? := by
  rw [remove]
  congr 1

theorem tokens_eq_filterMap (p : Pattern) (cs : List Char) :
    p.tokens cs = (p.pieces cs).filterMap Piece.token? := by
  rw [tokens]
  congr 1

/-! ## Spans -/

/-- A token and the position at which it begins. -/
structure Span where
  /-- The position of the first character. -/
  start : Nat
  /-- The token. -/
  token : Token
  deriving DecidableEq

namespace Span

/-- The position behind the last character. -/
def stop (s : Span) : Nat :=
  s.start + s.token.spelling.length

/-- The position belongs to the token. -/
def Covers (s : Span) (i : Nat) : Prop :=
  s.start ≤ i ∧ i < s.stop

instance (s : Span) (i : Nat) : Decidable (s.Covers i) :=
  inferInstanceAs (Decidable (s.start ≤ i ∧ i < s.stop))

end Span

/-- The spans of the tokens among some pieces that begin at a position. -/
def spansFrom : Nat → List Piece → List Span
  | _, [] => []
  | i, .char _ :: ps => spansFrom (i + 1) ps
  | i, .token t :: ps => ⟨i, t⟩ :: spansFrom (i + t.spelling.length) ps

/-- The spans of the tokens of a text. -/
def spans (p : Pattern) (cs : List Char) : List Span :=
  spansFrom 0 (p.pieces cs)

/-- Removing the tokens removes the character at the position. -/
def Deletes (p : Pattern) (cs : List Char) (i : Nat) : Prop :=
  ∃ s ∈ p.spans cs, s.Covers i

instance (p : Pattern) (cs : List Char) (i : Nat) : Decidable (p.Deletes cs i) :=
  inferInstanceAs (Decidable (∃ s ∈ p.spans cs, s.Covers i))

theorem tokenAt?_nil {p : Pattern} (hp : p.Delimited) : p.tokenAt? [] = none := by
  rw [Option.eq_none_iff_forall_ne_some]
  intro t ht
  obtain ⟨hfits, rest, hnil⟩ := fits_of_tokenAt? ht
  exact hfits.spelling_ne_nil hp (List.append_eq_nil_iff.mp hnil.symm).1

theorem map_token_spans (p : Pattern) (cs : List Char) :
    (p.spans cs).map Span.token = p.tokens cs := by
  have hfrom : ∀ (ps : List Piece) (i : Nat),
      (spansFrom i ps).map Span.token = ps.filterMap Piece.token? := by
    intro ps
    induction ps with
    | nil => exact fun i ↦ rfl
    | cons piece ps ih =>
      intro i
      cases piece with
      | char c => exact ih (i + 1)
      | token t => exact congrArg (t :: ·) (ih (i + t.spelling.length))
  rw [tokens_eq_filterMap]
  exact hfrom (p.pieces cs) 0

theorem le_start_of_mem_spansFrom {ps : List Piece} {i : Nat} {s : Span} (h : s ∈ spansFrom i ps) :
    i ≤ s.start := by
  induction ps generalizing i with
  | nil => cases h
  | cons piece ps ih =>
    cases piece with
    | char c =>
      have hle := ih h
      omega
    | token t =>
      rcases List.mem_cons.mp h with rfl | h
      · exact Nat.le_refl i
      · have hle := ih h
        omega

/-- The span of the same token behind some more characters. -/
def Span.behind (n : Nat) (s : Span) : Span :=
  ⟨n + s.start, s.token⟩

@[simp] theorem Span.stop_behind (n : Nat) (s : Span) : (s.behind n).stop = n + s.stop :=
  Nat.add_assoc _ _ _

@[simp] theorem Span.covers_behind_iff {n i : Nat} {s : Span} :
    (s.behind n).Covers (n + i) ↔ s.Covers i := by
  rw [Covers, Covers, stop_behind, behind]
  dsimp only
  omega

theorem spansFrom_add (n i : Nat) (ps : List Piece) :
    spansFrom (n + i) ps = (spansFrom i ps).map (Span.behind n) := by
  induction ps generalizing i with
  | nil => rfl
  | cons piece ps ih =>
    cases piece with
    | char c => exact ih (i + 1)
    | token t =>
      rw [spansFrom, spansFrom, List.map_cons, ← ih, Nat.add_assoc]
      rfl

/-- Characters that are passed over move the spans behind them. -/
theorem spans_append_of_passed {p : Pattern} {xs rest : List Char}
    (h : p.pieces (xs ++ rest) = xs.map .char ++ p.pieces rest) :
    p.spans (xs ++ rest) = (p.spans rest).map (Span.behind xs.length) := by
  have hfrom : ∀ (xs : List Char) (i : Nat) (ps : List Piece),
      spansFrom i (xs.map .char ++ ps) = spansFrom (xs.length + i) ps := by
    intro xs
    induction xs with
    | nil =>
      intro i ps
      rw [List.length_nil, Nat.zero_add]
      rfl
    | cons x xs ih =>
      intro i ps
      rw [List.length_cons, Nat.add_assoc, Nat.add_comm 1]
      exact ih (i + 1) ps
  rw [spans, h, hfrom, spansFrom_add]
  rfl

theorem spans_cons_of_none {p : Pattern} {c : Char} {cs : List Char}
    (h : p.tokenAt? (c :: cs) = none) :
    p.spans (c :: cs) = (p.spans cs).map (Span.behind 1) := by
  have hpieces : p.pieces ([c] ++ cs) = [c].map .char ++ p.pieces cs := pieces_of_none h
  exact spans_append_of_passed hpieces

theorem spans_append_of_token {p : Pattern} (hp : p.Delimited) {t : Token} (ht : p.Fits t)
    (rest : List Char) :
    p.spans (t.spelling ++ rest) =
      ⟨0, t⟩ :: (p.spans rest).map (Span.behind t.spelling.length) := by
  rw [spans, pieces_of_some hp (tokenAt?_spelling hp ht rest), spansFrom, Nat.add_comm,
    spansFrom_add]
  rfl

theorem pairwise_spans (p : Pattern) (cs : List Char) :
    (p.spans cs).Pairwise fun s u ↦ s.stop ≤ u.start := by
  rw [spans]
  generalize p.pieces cs = ps
  generalize 0 = i
  induction ps generalizing i with
  | nil => exact .nil
  | cons piece ps ih =>
    cases piece with
    | char c => exact ih _
    | token t => exact .cons (fun u hu ↦ le_start_of_mem_spansFrom hu) (ih _)

theorem apart_of_pairwise {spans : List Span}
    (h : spans.Pairwise fun s u ↦ s.stop ≤ u.start) {s u : Span} (hs : s ∈ spans)
    (hu : u ∈ spans) : s = u ∨ s.stop ≤ u.start ∨ u.stop ≤ s.start := by
  have hpairwise := List.pairwise_iff_getElem.mp h
  obtain ⟨i, hi, rfl⟩ := List.getElem_of_mem hs
  obtain ⟨j, hj, rfl⟩ := List.getElem_of_mem hu
  rcases Nat.lt_trichotomy i j with hlt | rfl | hlt
  · exact .inr (.inl (hpairwise i j hi hj hlt))
  · exact .inl rfl
  · exact .inr (.inr (hpairwise j i hj hi hlt))

theorem apart_of_mem_spans {p : Pattern} {cs : List Char} {s u : Span} (hs : s ∈ p.spans cs)
    (hu : u ∈ p.spans cs) : s = u ∨ s.stop ≤ u.start ∨ u.stop ≤ s.start :=
  apart_of_pairwise (pairwise_spans p cs) hs hu

theorem eq_of_covers_start {s u : Span}
    (hapart : s = u ∨ s.stop ≤ u.start ∨ u.stop ≤ s.start) (hcovers : u.Covers s.start)
    (hlt : u.start < s.start) : s = u := by
  rcases hapart with rfl | hle | hle
  · rfl
  · have hself : s.start ≤ s.stop := Nat.le_add_right _ _
    omega
  · exact absurd hcovers.2 (Nat.not_lt.mpr hle)

theorem tokenAt?_of_mem_spans {p : Pattern} (hp : p.Delimited) {cs : List Char} {s : Span}
    (h : s ∈ p.spans cs) : p.tokenAt? (cs.drop s.start) = some s.token := by
  have hfrom : ∀ i, s ∈ spansFrom i (p.pieces cs) →
      ∃ k, s.start = i + k ∧ p.tokenAt? (cs.drop k) = some s.token := by
    clear h
    induction cs using reading_induction hp with
    | nil =>
      intro i h
      cases h
    | char c cs hnone ih =>
      intro i h
      rw [pieces_of_none hnone] at h
      obtain ⟨k, hstart, hfound⟩ := ih (i + 1) h
      exact ⟨k + 1, by omega, hfound⟩
    | token t rest hfits hfound ih =>
      intro i h
      rw [pieces_of_some hp hfound] at h
      rcases List.mem_cons.mp h with rfl | h
      · exact ⟨0, rfl, hfound⟩
      · obtain ⟨k, hstart, hnext⟩ := ih (i + t.spelling.length) h
        refine ⟨t.spelling.length + k, by omega, ?_⟩
        rwa [← List.drop_drop, List.drop_left]
  obtain ⟨k, hstart, hfound⟩ := hfrom 0 h
  rwa [hstart, Nat.zero_add]

theorem tokenAt?_of_not_deletes {p : Pattern} (hp : p.Delimited) {cs : List Char} {i : Nat}
    (h : ¬p.Deletes cs i) : p.tokenAt? (cs.drop i) = none := by
  have hfrom : ∀ i k, (∀ s ∈ spansFrom i (p.pieces cs), ¬s.Covers (i + k)) →
      p.tokenAt? (cs.drop k) = none := by
    clear h
    induction cs using reading_induction hp with
    | nil =>
      intro i k hout
      rw [List.drop_nil]
      exact tokenAt?_nil hp
    | char c cs hnone ih =>
      intro i k hout
      rw [pieces_of_none hnone] at hout
      cases k with
      | zero => exact hnone
      | succ k =>
        refine ih (i + 1) k ?_
        rwa [Nat.add_assoc, Nat.add_comm 1]
    | token t rest hfits hfound ih =>
      intro i k hout
      rw [pieces_of_some hp hfound] at hout
      obtain ⟨hfirst, hlater⟩ := List.forall_mem_cons.mp hout
      have hle : t.spelling.length ≤ k := by
        by_contra hlt
        exact hfirst ⟨Nat.le_add_right i k, Nat.add_lt_add_left (Nat.lt_of_not_le hlt) i⟩
      obtain ⟨k, rfl⟩ := Nat.exists_eq_add_of_le hle
      rw [← List.drop_drop, List.drop_left]
      refine ih (i + t.spelling.length) k ?_
      rwa [Nat.add_assoc]
  refine hfrom 0 i fun s hs hcovers ↦ h ⟨s, hs, ?_⟩
  rwa [Nat.zero_add] at hcovers

/-- Where a token is spelled, it is taken, unless one that begins before it ends behind this
place. -/
theorem exists_covers_of_tokenAt? {p : Pattern} (hp : p.Delimited) {cs : List Char} {s : Span}
    (h : p.tokenAt? (cs.drop s.start) = some s.token) :
    ∃ u ∈ p.spans cs, u.Covers s.start ∧ (u = s ∨ u.start < s.start) := by
  have hdeletes : p.Deletes cs s.start := by
    by_contra hpassed
    rw [tokenAt?_of_not_deletes hp hpassed] at h
    cases h
  obtain ⟨u, hu, hcovers⟩ := hdeletes
  refine ⟨u, hu, hcovers, ?_⟩
  rcases Nat.lt_or_eq_of_le hcovers.1 with hlt | heq
  · exact .inr hlt
  · left
    have htoken := tokenAt?_of_mem_spans hp hu
    rw [heq, h] at htoken
    obtain ⟨start, token⟩ := u
    obtain rfl : start = s.start := heq
    obtain rfl : s.token = token := Option.some.inj htoken
    rfl

theorem tokens_eq_nil_iff {p : Pattern} (hp : p.Delimited) {cs : List Char} :
    p.tokens cs = [] ↔ ∀ t, p.Fits t → ¬t.spelling <:+: cs := by
  rw [← map_token_spans, List.map_eq_nil_iff]
  constructor
  · rintro hnil t ht ⟨before, after, rfl⟩
    have hpassed : ¬p.Deletes (before ++ t.spelling ++ after) before.length := by
      rintro ⟨s, hs, -⟩
      rw [hnil] at hs
      cases hs
    have hnone := tokenAt?_of_not_deletes hp hpassed
    rw [List.append_assoc, List.drop_left, tokenAt?_spelling hp ht] at hnone
    cases hnone
  · intro hspelled
    refine List.eq_nil_iff_forall_not_mem.mpr fun s hs ↦ ?_
    obtain ⟨hfits, rest, hrest⟩ := fits_of_tokenAt? (tokenAt?_of_mem_spans hp hs)
    refine hspelled s.token hfits ⟨cs.take s.start, rest, ?_⟩
    rw [List.append_assoc, ← hrest, List.take_append_drop]

/-! ## What is left -/

theorem remove_eq_filter {p : Pattern} (hp : p.Delimited) (cs : List Char) :
    p.remove cs = (cs.zipIdx.filter fun e ↦ ¬p.Deletes cs e.2).map (·.1) := by
  have hfrom : ∀ (ps : List Piece) (i : Nat),
      (((ps.flatMap Piece.spelling).zipIdx i).filter fun e ↦
          ¬∃ s ∈ spansFrom i ps, s.Covers e.2).map (·.1) = ps.filterMap Piece.char? := by
    intro ps
    induction ps with
    | nil => exact fun i ↦ rfl
    | cons piece ps ih =>
      intro i
      cases piece with
      | char c =>
        have hkept : ¬∃ s ∈ spansFrom (i + 1) ps, s.Covers i := by
          rintro ⟨s, hs, hle, -⟩
          have hstart := le_start_of_mem_spansFrom hs
          omega
        rw [List.flatMap_cons, Piece.spelling, List.singleton_append, List.zipIdx_cons,
          List.filter_cons_of_pos]
        · exact congrArg (c :: ·) (ih (i + 1))
        · exact decide_eq_true hkept
      | token t =>
        rw [List.flatMap_cons, Piece.spelling, List.zipIdx_append, List.filter_append]
        have hinside : (t.spelling.zipIdx i).filter (fun e ↦
            ¬∃ s ∈ spansFrom i (.token t :: ps), s.Covers e.2) = [] := by
          refine List.filter_eq_nil_iff.mpr fun e he ↦ ?_
          obtain ⟨hle, hlt, -⟩ := List.mem_zipIdx he
          simpa using ⟨_, List.mem_cons_self, hle, hlt⟩
        have hbehind : ((ps.flatMap Piece.spelling).zipIdx (i + t.spelling.length)).filter (fun e ↦
            ¬∃ s ∈ spansFrom i (.token t :: ps), s.Covers e.2) =
            ((ps.flatMap Piece.spelling).zipIdx (i + t.spelling.length)).filter fun e ↦
              ¬∃ s ∈ spansFrom (i + t.spelling.length) ps, s.Covers e.2 := by
          refine List.filter_congr fun e he ↦ ?_
          have hle := (List.mem_zipIdx he).1
          have hout : ¬(⟨i, t⟩ : Span).Covers e.2 := fun h ↦ Nat.not_lt.mpr hle h.2
          simp [spansFrom, hout]
        rw [hinside, hbehind, List.nil_append]
        exact ih (i + t.spelling.length)
  have htext := hfrom (p.pieces cs) 0
  rw [spelling_pieces hp, ← remove_eq_filterMap] at htext
  exact htext.symm

theorem remove_eq_self_iff {p : Pattern} (hp : p.Delimited) {cs : List Char} :
    p.remove cs = cs ↔ p.tokens cs = [] := by
  rw [← map_token_spans, List.map_eq_nil_iff, remove_eq_filter hp]
  have hchars : cs.zipIdx.map (·.1) = cs := List.zipIdx_map_fst 0 cs
  constructor
  · intro hself
    have hlength : (cs.zipIdx.filter fun e ↦ ¬p.Deletes cs e.2).length = cs.zipIdx.length := by
      rw [← List.length_map (·.1), hself, List.length_zipIdx]
    have hkept := List.length_filter_eq_length_iff.mp hlength
    refine List.eq_nil_iff_forall_not_mem.mpr fun s hs ↦ ?_
    obtain ⟨hfits, rest, hrest⟩ := fits_of_tokenAt? (tokenAt?_of_mem_spans hp hs)
    have hpos := List.length_pos_iff.mpr (hfits.spelling_ne_nil hp)
    have hlt : s.start < cs.length := by
      have hlen := congrArg List.length hrest
      rw [List.length_drop, List.length_append] at hlen
      omega
    have hfirst := hkept (cs[s.start], s.start) (List.mk_mem_zipIdx_iff_getElem?.mpr (by simp))
    exact of_decide_eq_true hfirst ⟨s, hs, Nat.le_refl _, Nat.lt_add_of_pos_right hpos⟩
  · intro hnil
    rw [List.filter_eq_self.mpr, hchars]
    intro e _
    refine decide_eq_true ?_
    rintro ⟨s, hs, -⟩
    rw [hnil] at hs
    cases hs

end PromptLibrary.Pattern
