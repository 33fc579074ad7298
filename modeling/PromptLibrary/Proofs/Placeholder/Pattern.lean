import Mathlib.Data.List.TakeWhile
import PromptLibrary.Placeholder.Pattern

/-!
# Tokens and pieces

Reading a token without searching is complete: the input begins with a token of the pattern exactly
if `Pattern.tokenAt?` finds it (`Pattern.tokenAt?_eq_some_iff`). This holds since the delimiters are
made of characters that are neither blank nor part of a name, so that every run of blanks or name
characters ends where the next part of the token begins.

The pieces of a text are read from left to right, and their spellings are the text again.
-/

namespace PromptLibrary

open Text

/-- The name has blanks on both sides. -/
def Token.Spaced (t : Token) : Prop :=
  t.before ≠ [] ∧ t.after ≠ []

instance (t : Token) : Decidable t.Spaced :=
  inferInstanceAs (Decidable (t.before ≠ [] ∧ t.after ≠ []))

namespace Pattern

/-! ## Delimiters -/

/-- The delimiters are there, and no character of theirs is blank or part of a name. -/
structure Delimited (p : Pattern) : Prop where
  /-- Something opens a token. -/
  opening_ne_nil : p.opening ≠ []
  /-- Something closes a token. -/
  closing_ne_nil : p.closing ≠ []
  /-- What closes a token is not blank. -/
  isBlank_closing : ∀ c ∈ p.closing, isBlank c = false
  /-- What closes a token is no name. -/
  isNameChar_closing : ∀ c ∈ p.closing, isNameChar c = false

theorem closing_subset (k : Placeholder.Kind) : ∀ c ∈ k.closing, c ∈ ['<', '>', '%', '@'] := by
  cases k <;> simp [Placeholder.Kind.closing]

theorem delimited_ofKind (k : Placeholder.Kind) : (ofKind k).Delimited where
  opening_ne_nil := by cases k <;> exact List.cons_ne_nil _ _
  closing_ne_nil := by cases k <;> exact List.cons_ne_nil _ _
  isBlank_closing c hc := isBlank_delimiter c (closing_subset k c hc)
  isNameChar_closing c hc := isNameChar_delimiter c (closing_subset k c hc)

theorem delimited_looseOutput : looseOutput.Delimited where
  opening_ne_nil := (delimited_ofKind .output).opening_ne_nil
  closing_ne_nil := (delimited_ofKind .output).closing_ne_nil
  isBlank_closing := (delimited_ofKind .output).isBlank_closing
  isNameChar_closing := (delimited_ofKind .output).isNameChar_closing

/-! ## Tokens -/

theorem dropBeginning?_eq_some_iff {bs cs rest : List Char} :
    dropBeginning? bs cs = some rest ↔ cs = bs ++ rest := by
  induction bs generalizing cs with
  | nil => simp [dropBeginning?]
  | cons b bs ih =>
    cases cs with
    | nil => simp [dropBeginning?]
    | cons c cs =>
      rw [dropBeginning?]
      split
      · rename_i hbc
        simp [ih, hbc]
      · rename_i hbc
        simp [Ne.symm hbc]

/-- The input begins with a character outside the class. -/
def EndsRun (f : Char → Bool) (cs : List Char) : Prop :=
  ∃ c rest, cs = c :: rest ∧ f c = false

theorem EndsRun.append {f : Char → Bool} {xs : List Char} (hne : xs ≠ [])
    (hxs : ∀ x ∈ xs, f x = false) (ys : List Char) : EndsRun f (xs ++ ys) := by
  obtain ⟨x, xs, rfl⟩ := List.exists_cons_of_ne_nil hne
  exact ⟨x, xs ++ ys, rfl, hxs x List.mem_cons_self⟩

theorem EndsRun.takeWhile {f : Char → Bool} {xs ys : List Char} (h : EndsRun f ys)
    (hxs : ∀ x ∈ xs, f x = true) : (xs ++ ys).takeWhile f = xs := by
  obtain ⟨y, ys, rfl, hy⟩ := h
  rw [List.takeWhile_append_of_pos hxs, List.takeWhile_cons_of_neg (by simp [hy]), List.append_nil]

theorem EndsRun.dropWhile {f : Char → Bool} {xs ys : List Char} (h : EndsRun f ys)
    (hxs : ∀ x ∈ xs, f x = true) : (xs ++ ys).dropWhile f = ys := by
  obtain ⟨y, ys, rfl, hy⟩ := h
  rw [List.dropWhile_append_of_pos hxs, List.dropWhile_cons_of_neg (by simp [hy])]

theorem isBlank_eq_false_of_isNameChar {c : Char} (h : isNameChar c = true) :
    isBlank c = false := by
  by_contra hblank
  rw [Bool.not_eq_false] at hblank
  rw [isNameChar_eq_false_of_isBlank hblank] at h
  cases h

theorem Fits.spelling_ne_nil {p : Pattern} (hp : p.Delimited) {t : Token} (h : p.Fits t) :
    t.spelling ≠ [] := by
  have hopening : t.opening ≠ [] := by
    rw [h.1]
    exact hp.opening_ne_nil
  simp [Token.spelling, hopening]

theorem fits_output_iff {t : Token} :
    (ofKind .output).Fits t ↔ looseOutput.Fits t ∧ t.Spaced := by
  constructor
  · rintro ⟨hopening, hclosing, hne, hname, hbefore, hafter, hspaced⟩
    have hloose : looseOutput.spaced = true → t.Spaced := fun h ↦ absurd h Bool.false_ne_true
    exact ⟨⟨hopening, hclosing, hne, hname, hbefore, hafter, hloose⟩, hspaced rfl⟩
  · rintro ⟨⟨hopening, hclosing, hne, hname, hbefore, hafter, -⟩, hspaced⟩
    exact ⟨hopening, hclosing, hne, hname, hbefore, hafter, fun _ ↦ hspaced⟩

theorem fits_of_tokenAt? {p : Pattern} {cs : List Char} {t : Token} (h : p.tokenAt? cs = some t) :
    p.Fits t ∧ ∃ rest, cs = t.spelling ++ rest := by
  rw [tokenAt?] at h
  obtain ⟨inner, hopening, h⟩ := Option.bind_eq_some_iff.mp h
  obtain ⟨rest, hclosing, h⟩ := Option.bind_eq_some_iff.mp h
  rw [dropBeginning?_eq_some_iff] at hopening hclosing
  split at h
  · cases h
  · rename_i hname
    split at h
    · cases h
    · rename_i hspaced
      obtain rfl := Option.some.inj h
      refine ⟨⟨rfl, rfl, ?_, ?_, ?_, ?_, ?_⟩, rest, ?_⟩
      · simpa using hname
      · exact fun c hc ↦ List.mem_takeWhile_imp hc
      · exact fun c hc ↦ List.mem_takeWhile_imp hc
      · exact fun c hc ↦ List.mem_takeWhile_imp hc
      · intro hp
        simpa [hp] using hspaced
      · simp only [Token.spelling, List.append_assoc]
        rw [hopening, ← hclosing, List.takeWhile_append_dropWhile, List.takeWhile_append_dropWhile,
          List.takeWhile_append_dropWhile]

theorem tokenAt?_spelling {p : Pattern} (hp : p.Delimited) {t : Token} (ht : p.Fits t)
    (rest : List Char) : p.tokenAt? (t.spelling ++ rest) = some t := by
  obtain ⟨hopening, hclosing, hne, hname, hbefore, hafter, hspaced⟩ := ht
  -- where each of the three runs ends
  have hendAfter : EndsRun isBlank (t.closing ++ rest) := by
    rw [hclosing]
    exact .append hp.closing_ne_nil hp.isBlank_closing rest
  have hendName : EndsRun isNameChar (t.after ++ (t.closing ++ rest)) := by
    by_cases hnil : t.after = []
    · rw [hnil, List.nil_append, hclosing]
      exact .append hp.closing_ne_nil hp.isNameChar_closing rest
    · exact .append hnil (fun c hc ↦ isNameChar_eq_false_of_isBlank (hafter c hc)) _
  have hendBefore : EndsRun isBlank (t.name ++ (t.after ++ (t.closing ++ rest))) :=
    .append hne (fun c hc ↦ isBlank_eq_false_of_isNameChar (hname c hc)) _
  have hopen : dropBeginning? p.opening (t.spelling ++ rest) =
      some (t.before ++ (t.name ++ (t.after ++ (t.closing ++ rest)))) := by
    rw [dropBeginning?_eq_some_iff, ← hopening]
    simp only [Token.spelling, List.append_assoc]
  have hclose : dropBeginning? p.closing (t.closing ++ rest) = some rest := by
    rw [dropBeginning?_eq_some_iff, hclosing]
  have hblanks : (p.spaced && (t.before.isEmpty || t.after.isEmpty)) = false := by
    cases hs : p.spaced with
    | false => rfl
    | true => simp [hspaced hs]
  rw [tokenAt?, hopen]
  simp only [Option.bind_eq_bind, Option.bind_some]
  rw [hendBefore.takeWhile hbefore, hendBefore.dropWhile hbefore, hendName.takeWhile hname,
    hendName.dropWhile hname, hendAfter.takeWhile hafter, hendAfter.dropWhile hafter, hclose,
    Option.bind_some, if_neg (by simpa using hne), if_neg (by simp [hblanks]), ← hopening,
    ← hclosing]

/-- **Reading without a search is complete.** -/
theorem tokenAt?_eq_some_iff {p : Pattern} (hp : p.Delimited) {cs : List Char} {t : Token} :
    p.tokenAt? cs = some t ↔ p.Fits t ∧ ∃ rest, cs = t.spelling ++ rest := by
  constructor
  · exact fits_of_tokenAt?
  · rintro ⟨ht, rest, rfl⟩
    exact tokenAt?_spelling hp ht rest

/-! ## Pieces -/

theorem piecesAfter_append (p : Pattern) (xs cs : List Char) :
    p.piecesAfter xs.length (xs ++ cs) = p.pieces cs := by
  induction xs with
  | nil => rfl
  | cons x xs ih => exact ih

theorem pieces_of_none {p : Pattern} {c : Char} {cs : List Char} (h : p.tokenAt? (c :: cs) = none) :
    p.pieces (c :: cs) = .char c :: p.pieces cs := by
  rw [pieces, piecesAfter, h]
  rfl

theorem pieces_of_some {p : Pattern} (hp : p.Delimited) {t : Token} {rest : List Char}
    (h : p.tokenAt? (t.spelling ++ rest) = some t) :
    p.pieces (t.spelling ++ rest) = .token t :: p.pieces rest := by
  have hne := (fits_of_tokenAt? h).1.spelling_ne_nil hp
  obtain ⟨c, cs, hspelling⟩ := List.exists_cons_of_ne_nil hne
  rw [hspelling, List.cons_append] at h ⊢
  rw [pieces, piecesAfter, h]
  simp only [hspelling, List.length_cons, Nat.add_sub_cancel]
  rw [piecesAfter_append]

/-- Induction along the pieces: what follows a character that is passed over, or a token, is
shorter. -/
@[elab_as_elim]
theorem reading_induction {p : Pattern} (hp : p.Delimited) {motive : List Char → Prop}
    (nil : motive [])
    (char : ∀ c cs, p.tokenAt? (c :: cs) = none → motive cs → motive (c :: cs))
    (token : ∀ t rest, p.Fits t → p.tokenAt? (t.spelling ++ rest) = some t → motive rest →
      motive (t.spelling ++ rest)) (cs : List Char) : motive cs := by
  induction hn : cs.length using Nat.strong_induction_on generalizing cs with
  | _ n ih =>
    cases cs with
    | nil => exact nil
    | cons c cs =>
      cases h : p.tokenAt? (c :: cs) with
      | none => exact char c cs h (ih cs.length (by simp [← hn]) cs rfl)
      | some t =>
        -- a token is not empty, so what follows it is shorter than the input
        obtain ⟨hfits, rest, hcs⟩ := fits_of_tokenAt? h
        have hpos := List.length_pos_iff.mpr (hfits.spelling_ne_nil hp)
        have hlen : (c :: cs).length = t.spelling.length + rest.length := by
          rw [hcs, List.length_append]
        rw [hcs] at h ⊢
        exact token t rest hfits h (ih rest.length (by omega) rest rfl)

theorem spelling_pieces {p : Pattern} (hp : p.Delimited) (cs : List Char) :
    (p.pieces cs).flatMap Piece.spelling = cs := by
  induction cs using reading_induction hp with
  | nil => rfl
  | char c cs h ih =>
    rw [pieces_of_none h, List.flatMap_cons, ih]
    rfl
  | token t rest _ h ih =>
    rw [pieces_of_some hp h, List.flatMap_cons, ih]
    rfl

end Pattern

end PromptLibrary
