import PromptLibrary.Proofs.Placeholder.Pairing
import PromptLibrary.Proofs.Placeholder.Scan

/-!
# What is left when output placeholders are removed

Output placeholders are removed in one pass. What stood on the two sides of a token is next to each
other afterwards, and together it can be a token again. This happens exactly if a token is removed
between the first mark of an opening delimiter and the name that belongs to it
(`Placeholder.exists_token_stripOutput_iff`).

It makes no difference what is removed behind the beginning of a name. The first token there would
have closed the name itself, since it begins with the marks that a closing delimiter consists of; so
the token was there before and would have been removed.
-/

namespace PromptLibrary

open Text Placeholder

namespace Pattern

/-! ## Pieces from a place on -/

theorem fits_of_mem_pieces {p : Pattern} (hp : p.Delimited) {cs : List Char} {t : Token}
    (h : .token t ∈ p.pieces cs) : p.Fits t := by
  induction cs using reading_induction hp with
  | nil => cases h
  | char c cs hnone ih =>
    rw [pieces_of_none hnone] at h
    rcases List.mem_cons.mp h with heq | h
    · cases heq
    · exact ih h
  | token u rest hfits hfound ih =>
    rw [pieces_of_some hp hfound] at h
    rcases List.mem_cons.mp h with heq | h
    · cases heq
      exact hfits
    · exact ih h

/-- No token begins at a character that is a piece, in front of what the pieces behind it spell. -/
theorem tokenAt?_of_pieces_eq {p : Pattern} (hp : p.Delimited) {cs : List Char} {ps qs : List Piece}
    {c : Char} (h : p.pieces cs = ps ++ .char c :: qs) :
    p.tokenAt? (c :: qs.flatMap Piece.spelling) = none := by
  induction cs using reading_induction hp generalizing ps with
  | nil => exact absurd h (by simp [pieces, piecesAfter])
  | char d cs hnone ih =>
    rw [pieces_of_none hnone] at h
    cases ps with
    | nil =>
      obtain ⟨hchar, hqs⟩ := List.cons.inj h
      cases hchar
      rwa [← hqs, spelling_pieces hp]
    | cons piece ps => exact ih (List.cons.inj h).2
  | token t rest hfits hfound ih =>
    rw [pieces_of_some hp hfound] at h
    cases ps with
    | nil => cases (List.cons.inj h).1
    | cons piece ps => exact ih (List.cons.inj h).2

theorem spelling_of_forall_ne_token {ps : List Piece} (h : ∀ t, .token t ∉ ps) :
    ps.flatMap Piece.spelling = ps.filterMap Piece.char? := by
  induction ps with
  | nil => rfl
  | cons piece ps ih =>
    have hrest := ih fun t ht ↦ h t (List.mem_cons_of_mem _ ht)
    cases piece with
    | char c => exact congrArg (c :: ·) hrest
    | token t => exact absurd List.mem_cons_self (h t)

/-! ## Closing delimiters -/

/-- If the first character that is left is a mark, the first one that was there is a mark. -/
theorem exists_mark {ps : List Piece} (hps : ∀ t, .token t ∈ ps → looseOutput.Fits t)
    {ys : List Char} (h : ps.filterMap Piece.char? = '@' :: ys) :
    ∃ zs, ps.flatMap Piece.spelling = '@' :: zs := by
  cases ps with
  | nil => cases h
  | cons piece ps =>
    cases piece with
    | token t =>
      obtain ⟨inner, hspelling, -, -⟩ := (hps t List.mem_cons_self).inner forOutput_looseOutput
      refine ⟨'@' :: (inner ++ ['@', '@']) ++ ps.flatMap Piece.spelling, ?_⟩
      rw [List.flatMap_cons, Piece.spelling, hspelling]
      rfl
    | char c =>
      obtain rfl : c = '@' := (List.cons.inj h).1
      exact ⟨ps.flatMap Piece.spelling, rfl⟩

/-- Where the characters that are left come to a closing delimiter, there is one after at most as
many characters: a token before it begins with the same marks. -/
theorem exists_closing {ps : List Piece} (hps : ∀ t, .token t ∈ ps → looseOutput.Fits t)
    {xs ys : List Char} (h : ps.filterMap Piece.char? = xs ++ '@' :: '@' :: ys) :
    ∃ k zs, ps.flatMap Piece.spelling = xs.take k ++ '@' :: '@' :: zs := by
  induction ps generalizing xs with
  | nil => exact absurd h (by simp)
  | cons piece ps ih =>
    cases piece with
    | token t =>
      obtain ⟨inner, hspelling, -, -⟩ := (hps t List.mem_cons_self).inner forOutput_looseOutput
      refine ⟨0, inner ++ ['@', '@'] ++ ps.flatMap Piece.spelling, ?_⟩
      rw [List.flatMap_cons, Piece.spelling, hspelling]
      rfl
    | char c =>
      have hrest : ∀ t, .token t ∈ ps → looseOutput.Fits t :=
        fun t ht ↦ hps t (List.mem_cons_of_mem _ ht)
      have hc : c :: ps.filterMap Piece.char? = xs ++ '@' :: '@' :: ys := h
      cases xs with
      | nil =>
        obtain ⟨rfl, hmark⟩ := List.cons.inj hc
        obtain ⟨zs, hzs⟩ := exists_mark hrest hmark
        exact ⟨0, zs, congrArg ('@' :: ·) hzs⟩
      | cons x xs =>
        obtain ⟨rfl, hxs⟩ := List.cons.inj hc
        obtain ⟨k, zs, hspelling⟩ := ih hrest hxs
        exact ⟨k + 1, zs, congrArg (c :: ·) hspelling⟩

/-! ## Tokens that are put together -/

/-- A token is removed between the first mark of an opening delimiter and the name that belongs to
it. What is kept of `os` completes this mark to the delimiter and the blanks of a token `t`, and
what is kept of `qs` begins with the rest of it. -/
def Mends (cs : List Char) : Prop :=
  ∃ ps os qs t, looseOutput.pieces cs = ps ++ .char '@' :: os ++ qs ∧ looseOutput.Fits t ∧
    (∃ u, .token u ∈ os) ∧ '@' :: os.filterMap Piece.char? = t.opening ++ t.before ∧
    t.name ++ t.after ++ t.closing <+: qs.filterMap Piece.char?

theorem Mends.exists_token {cs : List Char} (h : Mends cs) :
    ∃ t, looseOutput.Fits t ∧ t.spelling <:+: looseOutput.remove cs := by
  obtain ⟨ps, os, qs, t, hpieces, hfits, -, hbefore, ys, hys⟩ := h
  refine ⟨t, hfits, ps.filterMap Piece.char?, ys, ?_⟩
  have hos : (Piece.char '@' :: os).filterMap Piece.char? = t.opening ++ t.before := hbefore
  rw [remove_eq_filterMap, hpieces, List.filterMap_append, List.filterMap_append, hos, ← hys,
    Token.spelling]
  simp only [List.append_assoc]

/-- What completes the beginning of a name to a token when it is left over has completed it to a
token from the start, perhaps to another one. -/
theorem exists_token_of_rest {t : Token} (ht : looseOutput.Fits t) {n : Char} {name : List Char}
    (hn : t.name = n :: name) {qs : List Piece} (hqs : ∀ u, .token u ∈ qs → looseOutput.Fits u)
    {ys : List Char} (h : qs.filterMap Piece.char? = name ++ t.after ++ '@' :: '@' :: ys) :
    ∃ u, looseOutput.Fits u ∧
      ∃ zs, '@' :: '@' :: t.before ++ n :: qs.flatMap Piece.spelling = u.spelling ++ zs := by
  obtain ⟨-, -, -, hname, hbefore, hafter, -⟩ := ht
  rw [hn] at hname
  obtain ⟨hfirst, hname⟩ := List.forall_mem_cons.mp hname
  obtain ⟨k, zs, hspelling⟩ := exists_closing hqs h
  rw [List.take_append] at hspelling
  let u : Token :=
    ⟨['@', '@'], t.before, n :: name.take k, t.after.take (k - name.length), ['@', '@']⟩
  refine ⟨u, ⟨rfl, rfl, List.cons_ne_nil _ _, ?_, hbefore, ?_, ?_⟩, zs, ?_⟩
  · exact List.forall_mem_cons.mpr ⟨hfirst, fun c hc ↦ hname c (List.mem_of_mem_take hc)⟩
  · exact fun c hc ↦ hafter c (List.mem_of_mem_take hc)
  · exact fun h ↦ absurd h Bool.false_ne_true
  · rw [hspelling, Token.spelling]
    simp [u]

/-- The pieces to which a token belongs that is left over: its first mark, the first character of
its name, and what is between and behind them. -/
theorem exists_pieces_of_token {cs : List Char} {t : Token} (ht : looseOutput.Fits t)
    (h : t.spelling <:+: looseOutput.remove cs) :
    ∃ ps os n qs name ys, looseOutput.pieces cs = ps ++ .char '@' :: (os ++ .char n :: qs) ∧
      t.name = n :: name ∧ os.filterMap Piece.char? = '@' :: t.before ∧
      qs.filterMap Piece.char? = name ++ t.after ++ '@' :: '@' :: ys := by
  obtain ⟨hopening, hclosing, hne, -⟩ := ht
  obtain ⟨xs, ys, hrem⟩ := h
  obtain ⟨n, name, hn⟩ := List.exists_cons_of_ne_nil hne
  have hsplit : (looseOutput.pieces cs).filterMap Piece.char? =
      xs ++ '@' :: ('@' :: t.before ++ n :: (name ++ t.after ++ '@' :: '@' :: ys)) := by
    rw [← remove_eq_filterMap, ← hrem, Token.spelling, hopening, hclosing, hn]
    simp [looseOutput, ofKind, Kind.opening, Kind.closing]
  obtain ⟨ps, rest, hpieces, -, hrest⟩ := List.filterMap_eq_append_iff.mp hsplit
  obtain ⟨ts, mark, rest, rfl, -, hmark, hrest⟩ := List.filterMap_eq_cons_iff.mp hrest
  obtain ⟨os, rest, rfl, hos, hrest⟩ := List.filterMap_eq_append_iff.mp hrest
  obtain ⟨us, first, qs, rfl, hus, hfirst, hqs⟩ := List.filterMap_eq_cons_iff.mp hrest
  obtain rfl := Piece.char?_eq_some_iff.mp hmark
  obtain rfl := Piece.char?_eq_some_iff.mp hfirst
  refine ⟨ps ++ ts, os ++ us, n, qs, name, ys, ?_, hn, ?_, hqs⟩
  · rw [hpieces]
    simp
  · rw [List.filterMap_append, hos, List.filterMap_eq_nil_iff.mpr hus, List.append_nil]

theorem mends_of_token {cs : List Char} {t : Token} (ht : looseOutput.Fits t)
    (h : t.spelling <:+: looseOutput.remove cs) : Mends cs := by
  obtain ⟨ps, os, n, qs, name, ys, hpieces, hn, hos, hqs⟩ := exists_pieces_of_token ht h
  have htoken : ∃ u, Piece.token u ∈ os := by
    by_contra hnone
    -- otherwise a token was there from the first mark on, and the reading would have taken it
    have hspelled : os.flatMap Piece.spelling = '@' :: t.before := by
      rw [spelling_of_forall_ne_token fun u hu ↦ hnone ⟨u, hu⟩, hos]
    have hfits : ∀ u, .token u ∈ qs → looseOutput.Fits u := by
      intro u hu
      have hmem : .token u ∈ looseOutput.pieces cs := by
        rw [hpieces]
        simp [hu]
      exact fits_of_mem_pieces delimited_looseOutput hmem
    obtain ⟨u, hu, zs, hspelling⟩ := exists_token_of_rest ht hn hfits hqs
    have hpassed := tokenAt?_of_pieces_eq delimited_looseOutput hpieces
    rw [List.flatMap_append, hspelled, List.flatMap_cons, Piece.spelling, List.singleton_append,
      ← List.cons_append, hspelling, tokenAt?_spelling delimited_looseOutput hu] at hpassed
    cases hpassed
  have hopening := ht.1
  have hclosing := ht.2.1
  refine ⟨ps, os, .char n :: qs, t, ?_, ht, htoken, ?_, ys, ?_⟩
  · rw [hpieces, List.append_assoc, List.cons_append]
  · rw [hos, hopening]
    rfl
  · have hchars : (Piece.char n :: qs).filterMap Piece.char? =
        n :: (name ++ t.after ++ '@' :: '@' :: ys) := congrArg (n :: ·) hqs
    rw [hchars, hn, hclosing]
    simp [looseOutput, ofKind, Kind.closing]

theorem exists_token_remove_iff {cs : List Char} :
    (∃ t, looseOutput.Fits t ∧ t.spelling <:+: looseOutput.remove cs) ↔ Mends cs := by
  constructor
  · rintro ⟨t, ht, h⟩
    exact mends_of_token ht h
  · exact Mends.exists_token

end Pattern

namespace Placeholder

open Pattern

/-- **When output placeholders are left.** After the output placeholders of a text were removed
there is one exactly if the removal has put it together; then a second removal changes the text
again. A scan finds output placeholders in what is left in no other case. -/
theorem exists_token_stripOutput_iff (text : String) :
    ((∃ t, looseOutput.Fits t ∧ t.spelling <:+: (stripOutput text).toList) ↔ Mends text.toList) ∧
      (stripOutput (stripOutput text) = stripOutput text ↔ ¬Mends text.toList) ∧
      (Kind.output.scan (stripOutput text) ≠ [] → Mends text.toList) := by
  have htext : (stripOutput text).toList = looseOutput.remove text.toList := String.toList_ofList
  rw [htext, exists_token_remove_iff]
  refine ⟨Iff.rfl, ?_, ?_⟩
  · have hself : stripOutput (stripOutput text) = stripOutput text ↔
        looseOutput.remove (looseOutput.remove text.toList) = looseOutput.remove text.toList := by
      rw [← String.toList_inj, htext, stripOutput, String.toList_ofList, htext]
    rw [hself, remove_eq_self_iff delimited_looseOutput, tokens_eq_nil_iff delimited_looseOutput,
      ← exists_token_remove_iff]
    simp
  · intro hscan
    by_contra hmends
    refine hscan (Kind.scan_eq_nil_iff.mpr ((tokens_eq_nil_iff (delimited_ofKind .output)).mpr ?_))
    intro t ht hspelled
    rw [htext] at hspelled
    exact hmends (mends_of_token (fits_output_iff.mp ht).1 hspelled)

/-- A token is put together if another one is removed in front of its name, but not if it is removed
behind the name. -/
theorem exists_token_stripOutput_iff_around_name :
    Mends "@@ @@x@@a @@".toList ∧ ¬Mends "@@ a @@x@@ @@".toList := by
  constructor
  · exact (exists_token_stripOutput_iff "@@ @@x@@a @@").2.2 (by decide +kernel)
  · exact (exists_token_stripOutput_iff "@@ a @@x@@ @@").2.1.mp (by decide +kernel)

/-- What is left of an opening delimiter and the marks of another one make an output placeholder. -/
theorem not_stripOutput_stripOutput :
    let text := "@@@x@@@ a @@"
    stripOutput text = "@@ a @@" ∧ Kind.output.scan (stripOutput text) = ["a"] ∧
      stripOutput (stripOutput text) ≠ stripOutput text := by
  decide +kernel

end Placeholder

end PromptLibrary
