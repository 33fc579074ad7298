import PromptLibrary.Proofs.Placeholder.Span

/-!
# Marks

The opening delimiter of a kind repeats one character, its mark. A token begins at a mark of its
kind and has no mark of another kind in it. So what has no mark of a kind is passed over by every
reader that looks for this kind, and tokens of different kinds do not overlap, wherever they are
found: the one that begins later would begin at a mark in the other one.

Two readers of one text that look for different kinds therefore stay in step: at every place where
one of them takes a token the other one passes over all of it (`Pattern.common_induction`).
-/

namespace PromptLibrary

open Text

namespace Placeholder

/-! ## Marks and openings -/

/-- The character that the opening delimiter repeats. -/
def Kind.mark : Kind → Char
  | .text => '<'
  | .file => '%'
  | .output => '@'

theorem tokenAt?_of_ne_mark {p : Pattern} {k : Kind} (hp : p.opening = k.opening) {c : Char}
    (hc : c ≠ k.mark) (cs : List Char) : p.tokenAt? (c :: cs) = none := by
  have hopening : Pattern.dropBeginning? p.opening (c :: cs) = none := by
    rw [hp]
    cases k <;> exact if_neg (Ne.symm hc)
  rw [Pattern.tokenAt?, hopening]
  rfl

theorem pieces_append_of_ne_mark {p : Pattern} {k : Kind} (hp : p.opening = k.opening)
    {xs : List Char} (hxs : ∀ c ∈ xs, c ≠ k.mark) (cs : List Char) :
    p.pieces (xs ++ cs) = xs.map .char ++ p.pieces cs := by
  induction xs with
  | nil => rfl
  | cons x xs ih =>
    obtain ⟨hx, hxs⟩ := List.forall_mem_cons.mp hxs
    rw [List.cons_append, Pattern.pieces_of_none (tokenAt?_of_ne_mark hp hx _), ih hxs]
    rfl

end Placeholder

namespace Pattern

open Placeholder

/-! ## Tokens of different kinds -/

/-- The pattern has the delimiters of the kind. -/
structure For (p : Pattern) (k : Kind) : Prop where
  /-- What opens a token. -/
  opening_eq : p.opening = k.opening
  /-- What closes a token. -/
  closing_eq : p.closing = k.closing

theorem for_ofKind (k : Kind) : (ofKind k).For k := ⟨rfl, rfl⟩

theorem for_looseOutput : looseOutput.For .output := ⟨rfl, rfl⟩

variable {p q : Pattern} {k k' : Kind}

theorem For.delimited (h : p.For k) : p.Delimited where
  opening_ne_nil := by
    rw [h.opening_eq]
    exact (delimited_ofKind k).opening_ne_nil
  closing_ne_nil := by
    rw [h.closing_eq]
    exact (delimited_ofKind k).closing_ne_nil
  isBlank_closing := by
    rw [h.closing_eq]
    exact (delimited_ofKind k).isBlank_closing
  isNameChar_closing := by
    rw [h.closing_eq]
    exact (delimited_ofKind k).isNameChar_closing

theorem For.ne_mark (hp : p.For k) (hne : k ≠ k') {t : Token} (ht : p.Fits t) :
    ∀ c ∈ t.spelling, c ≠ k'.mark := by
  obtain ⟨hopening, hclosing, -, hname, hbefore, hafter, -⟩ := ht
  have hdelimiter : k'.mark ∈ ['<', '>', '%', '@'] := by cases k' <;> simp [Kind.mark]
  have hblank := isBlank_delimiter k'.mark hdelimiter
  have hchar := isNameChar_delimiter k'.mark hdelimiter
  have hother : k'.mark ∉ k.opening ∧ k'.mark ∉ k.closing := by
    cases k <;> cases k' <;>
      first | exact absurd rfl hne | simp [Kind.opening, Kind.closing, Kind.mark]
  rintro c hc rfl
  simp only [Token.spelling, List.mem_append, or_assoc] at hc
  rcases hc with hc | hc | hc | hc | hc
  · rw [hopening, hp.opening_eq] at hc
    exact hother.1 hc
  · rw [hbefore _ hc] at hblank
    cases hblank
  · rw [hname _ hc] at hchar
    cases hchar
  · rw [hafter _ hc] at hblank
    cases hblank
  · rw [hclosing, hp.closing_eq] at hc
    exact hother.2 hc

theorem For.getElem?_of_tokenAt? (hp : p.For k) {cs : List Char} {i : Nat} {t : Token}
    (h : p.tokenAt? (cs.drop i) = some t) : cs[i]? = some k.mark := by
  have hfirst : (cs.drop i)[0]? = some k.mark := by
    cases hcs : cs.drop i with
    | nil =>
      rw [hcs, tokenAt?_nil hp.delimited] at h
      cases h
    | cons c rest =>
      by_contra hne
      have hc : c ≠ k.mark := by simpa using hne
      rw [hcs, tokenAt?_of_ne_mark hp.opening_eq hc] at h
      cases h
  rwa [List.getElem?_drop, Nat.add_zero] at hfirst

theorem mem_spelling_of_covers {cs : List Char} {s : Span}
    (h : p.tokenAt? (cs.drop s.start) = some s.token) {i : Nat} (hi : s.Covers i) {c : Char}
    (hc : cs[i]? = some c) : c ∈ s.token.spelling := by
  obtain ⟨-, rest, hrest⟩ := fits_of_tokenAt? h
  obtain ⟨n, rfl⟩ := Nat.exists_eq_add_of_le hi.1
  have hn : n < s.token.spelling.length := by
    have hlt := hi.2
    rw [Span.stop] at hlt
    omega
  rw [← List.getElem?_drop, hrest, List.getElem?_append_left hn] at hc
  exact List.mem_of_getElem? hc

/-- **Tokens of different kinds are apart**, wherever in a text they are found. -/
theorem For.apart (hp : p.For k) (hq : q.For k') (hne : k ≠ k') {cs : List Char} {s u : Span}
    (hs : p.tokenAt? (cs.drop s.start) = some s.token)
    (hu : q.tokenAt? (cs.drop u.start) = some u.token) : s.stop ≤ u.start ∨ u.stop ≤ s.start := by
  have hin : ¬s.Covers u.start := fun hcovers ↦
    hp.ne_mark hne (fits_of_tokenAt? hs).1 _
      (mem_spelling_of_covers hs hcovers (hq.getElem?_of_tokenAt? hu)) rfl
  have hin' : ¬u.Covers s.start := fun hcovers ↦
    hq.ne_mark hne.symm (fits_of_tokenAt? hu).1 _
      (mem_spelling_of_covers hu hcovers (hp.getElem?_of_tokenAt? hs)) rfl
  rw [Span.Covers] at hin hin'
  omega

/-! ## Two readers of one text -/

/-- What is a token of one kind is passed over by a reader that looks for another kind. -/
theorem For.pieces_spelling_append (hp : p.For k) (hq : q.For k') (hne : k ≠ k') {t : Token}
    (ht : p.Fits t) (rest : List Char) :
    q.pieces (t.spelling ++ rest) = t.spelling.map .char ++ q.pieces rest :=
  pieces_append_of_ne_mark hq.opening_eq (hp.ne_mark hne ht) rest

theorem For.spans_spelling_append (hp : p.For k) (hq : q.For k') (hne : k ≠ k') {t : Token}
    (ht : p.Fits t) (rest : List Char) :
    q.spans (t.spelling ++ rest) = (q.spans rest).map (Span.behind t.spelling.length) :=
  spans_append_of_passed (hp.pieces_spelling_append hq hne ht rest)

/-- Induction along two readings of one text: no token begins, or one of the first pattern, or one
of the second. -/
@[elab_as_elim]
theorem common_induction (hp : p.Delimited) (hq : q.Delimited) {motive : List Char → Prop}
    (nil : motive [])
    (char : ∀ c cs, p.tokenAt? (c :: cs) = none → q.tokenAt? (c :: cs) = none → motive cs →
      motive (c :: cs))
    (first : ∀ t rest, p.Fits t → motive rest → motive (t.spelling ++ rest))
    (second : ∀ t rest, q.Fits t → motive rest → motive (t.spelling ++ rest))
    (cs : List Char) : motive cs := by
  induction hn : cs.length using Nat.strong_induction_on generalizing cs with
  | _ n ih =>
    have hrest {r : Pattern} (hr : r.Delimited) {t : Token} (ht : r.Fits t) {rest : List Char}
        (hcs : cs = t.spelling ++ rest) : motive rest := by
      have hpos := List.length_pos_iff.mpr (ht.spelling_ne_nil hr)
      rw [hcs, List.length_append] at hn
      exact ih rest.length (by omega) rest rfl
    cases cs with
    | nil => exact nil
    | cons c cs =>
      cases hfound : p.tokenAt? (c :: cs) with
      | some t =>
        obtain ⟨ht, rest, hcs⟩ := fits_of_tokenAt? hfound
        rw [hcs]
        exact first t rest ht (hrest hp ht hcs)
      | none =>
        cases hfound' : q.tokenAt? (c :: cs) with
        | some t =>
          obtain ⟨ht, rest, hcs⟩ := fits_of_tokenAt? hfound'
          rw [hcs]
          exact second t rest ht (hrest hq ht hcs)
        | none => exact char c cs hfound hfound' (ih cs.length (by simp [← hn]) cs rfl)

end Pattern

end PromptLibrary
