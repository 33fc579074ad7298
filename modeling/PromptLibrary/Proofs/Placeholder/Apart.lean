import PromptLibrary.Proofs.Placeholder.Grammar
import PromptLibrary.Proofs.Placeholder.Seam

/-!
# Tokens of different kinds

A token of one kind does not overlap a token of another kind, wherever the two are found in a text
and whether or not a reading would take them (`Pattern.For.apart`). Here is what this means for what
is done with a text. The mark with which a token begins ends every token of another kind in front of
it. So a reader that looks for another kind reads what is in front of the token, the token and what
is behind it each for itself: the cuts at file placeholders leave a text placeholder whole inside
one segment, and the removal of output placeholders leaves text and file placeholders whole.
-/

namespace PromptLibrary

open Pattern

namespace Placeholder

/-! ## Marks end tokens -/

/-- What is spelled without a mark and begins a text that goes on with the mark ends before it. -/
theorem exists_append_of_mark {m : Char} {us rest xs zs : List Char} (hm : m ∉ us)
    (h : us ++ rest = xs ++ m :: zs) : ∃ ys, xs = us ++ ys ∧ rest = ys ++ m :: zs := by
  rcases List.append_eq_append_iff.mp h with ⟨ys, hxs, hrest⟩ | ⟨ys, hus, hzs⟩
  · exact ⟨ys, hxs, hrest⟩
  · cases ys with
    | nil => exact ⟨[], by rw [hus, List.append_nil, List.append_nil], hzs.symm⟩
    | cons y ys =>
      obtain rfl : m = y := (List.cons.inj hzs).1
      exact absurd (hus ▸ List.mem_append_right xs List.mem_cons_self) hm

end Placeholder

namespace Pattern

open Placeholder

variable {p q : Pattern} {k k' : Kind}

theorem Span.Spelled.eq_around {cs : List Char} {s : Span} (h : s.Spelled p cs) :
    cs = cs.take s.start ++ (s.token.spelling ++ cs.drop s.stop) := by
  obtain ⟨-, rest, hrest⟩ := h
  have hbehind : cs.drop s.stop = rest := by
    rw [Span.stop, ← List.drop_drop, ← hrest, List.drop_left]
  rw [hbehind, hrest, List.take_append_drop]

theorem tokenAt?_append (hp : p.Delimited) {cs : List Char} {t : Token}
    (h : p.tokenAt? cs = some t) (rest : List Char) : p.tokenAt? (cs ++ rest) = some t := by
  obtain ⟨ht, behind, rfl⟩ := fits_of_tokenAt? h
  rw [List.append_assoc]
  exact tokenAt?_spelling hp ht _

/-- A mark of another kind ends every piece in front of it. -/
theorem For.pieces_append_mark (hq : q.For k') (hne : k' ≠ k) (xs zs : List Char) :
    q.pieces (xs ++ k.mark :: zs) = q.pieces xs ++ q.pieces (k.mark :: zs) := by
  induction xs using reading_induction hq.delimited with
  | nil => rfl
  | char c cs hnone ih =>
    have hpassed : q.tokenAt? (c :: (cs ++ k.mark :: zs)) = none := by
      by_contra hfound
      obtain ⟨u, hu⟩ := Option.ne_none_iff_exists'.mp hfound
      obtain ⟨hfits, rest, hrest⟩ := fits_of_tokenAt? hu
      -- the token would end before the mark, so it would be one of the text in front of it
      have hmark : k.mark ∉ u.spelling := fun hmem ↦ hq.ne_mark hne hfits _ hmem rfl
      have hsplit : u.spelling ++ rest = (c :: cs) ++ k.mark :: zs := hrest.symm
      obtain ⟨ys, hcs, -⟩ := exists_append_of_mark hmark hsplit
      rw [hcs, tokenAt?_spelling hq.delimited hfits] at hnone
      cases hnone
    rw [List.cons_append, pieces_of_none hpassed, ih, pieces_of_none hnone]
    rfl
  | token u rest hfits hfound ih =>
    have hwhole := tokenAt?_append hq.delimited hfound (k.mark :: zs)
    rw [List.append_assoc] at hwhole ⊢
    rw [pieces_of_some hq.delimited hwhole, ih, pieces_of_some hq.delimited hfound]
    rfl

theorem For.exists_spelling (hp : p.For k) {t : Token} (ht : p.Fits t) :
    ∃ inner, t.spelling = k.mark :: inner := by
  have hopening : t.opening = k.opening := ht.1.trans hp.opening_eq
  refine ⟨k.mark :: (t.before ++ t.name ++ t.after ++ t.closing), ?_⟩
  rw [Token.spelling, hopening]
  cases k <;> simp [Kind.opening, Kind.mark]

/-- A reader that looks for another kind reads what is in front of a token and what is behind it as
if each stood alone, and passes over the token. -/
theorem For.pieces_around (hp : p.For k) (hq : q.For k') (hne : k ≠ k') {t : Token} (ht : p.Fits t)
    (before after : List Char) :
    q.pieces (before ++ (t.spelling ++ after)) =
      q.pieces before ++ (t.spelling.map .char ++ q.pieces after) := by
  obtain ⟨inner, hspelling⟩ := hp.exists_spelling ht
  rw [← hp.pieces_spelling_append hq hne ht, hspelling, List.cons_append]
  exact hq.pieces_append_mark hne.symm before (inner ++ after)

theorem For.remove_around (hp : p.For k) (hq : q.For k') (hne : k ≠ k') {t : Token} (ht : p.Fits t)
    (before after : List Char) :
    q.remove (before ++ (t.spelling ++ after)) =
      q.remove before ++ (t.spelling ++ q.remove after) := by
  have hchars : (t.spelling.map Piece.char).filterMap Piece.char? = t.spelling := by
    rw [List.filterMap_map]
    exact List.filterMap_some
  simp only [remove_eq_filterMap, hp.pieces_around hq hne ht, List.filterMap_append, hchars]

end Pattern

namespace Placeholder

/-! ## Cuts beside each other -/

namespace Cuts

/-- The cuts that begin with a segment and go on with the later ones and then with those of another
text, whose first segment goes on where the last one ends. -/
def join : List Char → List (String × List Char) → Cuts → Cuts
  | segment, [], more => ⟨segment ++ more.first, more.later⟩
  | segment, (content, next) :: later, more =>
    let rest := join next later more
    ⟨segment, (content, rest.first) :: rest.later⟩

/-- The cuts of two texts that stand beside each other and have no cut in common. -/
def append (cuts more : Cuts) : Cuts :=
  join cuts.first cuts.later more

/-- The cuts of a text that is not cut. -/
def whole (segment : List Char) : Cuts :=
  ⟨segment, []⟩

theorem append_cons (c : Char) (segment : List Char) (later : List (String × List Char))
    (more : Cuts) :
    append ⟨c :: segment, later⟩ more =
      ⟨c :: (append ⟨segment, later⟩ more).first, (append ⟨segment, later⟩ more).later⟩ := by
  cases later <;> rfl

end Cuts

section Cut

variable {contents : List (String × String)} {k : Kind}

theorem fileTokenAt?_append_mark (hnames : ∀ e ∈ contents, (Element.token .file e.1).Canonical)
    (hk : k ≠ .file) (xs zs : List Char) :
    fileTokenAt? contents (xs ++ k.mark :: zs) = fileTokenAt? contents xs := by
  induction contents with
  | nil => rfl
  | cons e contents ih =>
    obtain ⟨he, hnames⟩ := List.forall_mem_cons.mp hnames
    have hmark : k.mark ∉ Kind.file.spell e.1.toList := by
      rw [← Kind.toList_token, ← Kind.spelling_canonical]
      exact fun hmem ↦ (for_ofKind .file).ne_mark hk.symm (Kind.fits_canonical he) _ hmem rfl
    have hprefix : (Kind.file.spell e.1.toList).isPrefixOf (xs ++ k.mark :: zs) =
        (Kind.file.spell e.1.toList).isPrefixOf xs := by
      rw [Bool.eq_iff_iff, List.isPrefixOf_iff_prefix, List.isPrefixOf_iff_prefix]
      constructor
      · rintro ⟨rest, hrest⟩
        obtain ⟨ys, hxs, -⟩ := exists_append_of_mark hmark hrest
        exact ⟨ys, hxs.symm⟩
      · exact fun h ↦ h.trans (List.prefix_append xs _)
    rw [fileTokenAt?_cons, fileTokenAt?_cons, hprefix, ih hnames]

theorem cutAfter_append_mark (hnames : ∀ e ∈ contents, (Element.token .file e.1).Canonical)
    (hk : k ≠ .file) {skip : Nat} {xs : List Char} (hskip : skip ≤ xs.length) (zs : List Char) :
    cutAfter contents skip (xs ++ k.mark :: zs) =
      (cutAfter contents skip xs).append (cutAfter contents 0 (k.mark :: zs)) := by
  induction xs generalizing skip with
  | nil =>
    obtain rfl : skip = 0 := Nat.le_zero.mp hskip
    rfl
  | cons c cs ih =>
    cases skip with
    | succ skip => exact ih (Nat.le_of_succ_le_succ hskip)
    | zero =>
      have hsame := fileTokenAt?_append_mark hnames hk (c :: cs) zs
      rw [List.cons_append] at hsame ⊢
      rw [cutAfter, hsame, cutAfter]
      cases hfound : fileTokenAt? contents (c :: cs) with
      | none =>
        dsimp only
        rw [ih (Nat.zero_le _), Cuts.append_cons]
      | some found =>
        obtain ⟨length, content⟩ := found
        obtain ⟨name, rest, -, rfl, hcs⟩ := exists_of_fileTokenAt? hfound
        have hinside : (Kind.file.spell name.toList).length - 1 ≤ cs.length := by
          have hlength := congrArg List.length hcs
          rw [List.length_append, List.length_cons] at hlength
          omega
        dsimp only
        rw [ih hinside]
        rfl

/-- A token of another kind lies whole inside one segment, and what is in front of it and what is
behind it are cut as if each stood alone. -/
theorem cutAfter_around {p : Pattern} (hp : p.For k) (hk : k ≠ .file)
    (hnames : ∀ e ∈ contents, (Element.token .file e.1).Canonical) {t : Token} (ht : p.Fits t)
    (before after : List Char) :
    cutAfter contents 0 (before ++ (t.spelling ++ after)) =
      (cutAfter contents 0 before).append
        ((Cuts.whole t.spelling).append (cutAfter contents 0 after)) := by
  obtain ⟨inner, hspelling⟩ := hp.exists_spelling ht
  have htoken : cutAfter contents 0 (t.spelling ++ after) =
      (Cuts.whole t.spelling).append (cutAfter contents 0 after) :=
    cutAfter_append_of_ne_mark contents (hp.ne_mark hk ht) after
  rw [← htoken, hspelling, List.cons_append]
  exact cutAfter_append_mark hnames hk (Nat.zero_le _) (inner ++ after)

end Cut

/-! ## Placeholders of different kinds -/

/-- The patterns that look for placeholders of a kind. -/
def Kind.patterns : Kind → List Pattern
  | .output => [.ofKind .output, .looseOutput]
  | k => [.ofKind k]

theorem Kind.for_of_mem_patterns {k : Kind} {p : Pattern} (hp : p ∈ k.patterns) : p.For k := by
  cases k with
  | text => exact List.mem_singleton.mp hp ▸ for_ofKind .text
  | file => exact List.mem_singleton.mp hp ▸ for_ofKind .file
  | output =>
    rcases List.mem_pair.mp hp with rfl | rfl
    · exact for_ofKind .output
    · exact for_looseOutput

/-- **Tokens of different kinds never overlap.** Two spans at which patterns of different kinds
match are apart, wherever they begin. So cutting a text at its file placeholders leaves every text
placeholder whole inside one segment, and removing output placeholders leaves every text and every
file placeholder whole; what is in front of it and what is behind it are cut, or lose their output
placeholders, as if each stood alone. -/
theorem matches_apart (text : String) :
    (∀ k k' : Kind, k ≠ k' → ∀ p ∈ k.patterns, ∀ q ∈ k'.patterns, ∀ s u : Span,
      s.Spelled p text.toList → u.Spelled q text.toList → s.stop ≤ u.start ∨ u.stop ≤ s.start) ∧
    (∀ s : Span, s.Spelled (ofKind .text) text.toList →
      ∀ contents : List (String × String), (∀ e ∈ contents, e.1 ∈ (scan text).file) →
        cutAfter contents 0 text.toList =
          (cutAfter contents 0 (text.toList.take s.start)).append
            ((Cuts.whole s.token.spelling).append
              (cutAfter contents 0 (text.toList.drop s.stop)))) ∧
    ∀ k : Kind, k ≠ .output → ∀ s : Span, s.Spelled (ofKind k) text.toList →
      (stripOutput text).toList =
        looseOutput.remove (text.toList.take s.start) ++
          (s.token.spelling ++ looseOutput.remove (text.toList.drop s.stop)) := by
  refine ⟨?_, ?_, ?_⟩
  · intro k k' hne p hp q hq s u hs hu
    have hp := Kind.for_of_mem_patterns hp
    have hq := Kind.for_of_mem_patterns hq
    exact hp.apart hq hne ((Span.spelled_iff hp.delimited).mp hs)
      ((Span.spelled_iff hq.delimited).mp hu)
  · intro s hs contents hcontents
    have hcanonical : ∀ e ∈ contents, (Element.token .file e.1).Canonical :=
      fun e he ↦ canonical_files text e.1 (hcontents e he)
    have haround := cutAfter_around (for_ofKind .text) (by decide) hcanonical hs.1
      (text.toList.take s.start) (text.toList.drop s.stop)
    rwa [← hs.eq_around] at haround
  · intro k hk s hs
    have haround := (for_ofKind k).remove_around for_looseOutput hk hs.1
      (text.toList.take s.start) (text.toList.drop s.stop)
    rwa [← hs.eq_around, ← String.toList_ofList (l := looseOutput.remove text.toList),
      ← stripOutput] at haround

/-- A text placeholder between delimiters of other kinds, and a file placeholder right behind it. -/
theorem matches_apart_beside :
    let text := "%%<< a >>%% f %%@@x@@"
    let s : Span := ⟨2, ⟨['<', '<'], [' '], ['a'], [' '], ['>', '>']⟩⟩
    let u : Span := ⟨9, ⟨['%', '%'], [' '], ['f'], [' '], ['%', '%']⟩⟩
    s.Spelled (ofKind .text) text.toList ∧ u.Spelled (ofKind .file) text.toList ∧
      (s.stop ≤ u.start ∨ u.stop ≤ s.start) ∧
      cutAfter [("f", "F")] 0 text.toList =
        (cutAfter [("f", "F")] 0 "%%".toList).append
          ((Cuts.whole "<< a >>".toList).append
            (cutAfter [("f", "F")] 0 "%% f %%@@x@@".toList)) ∧
      (stripOutput text).toList =
        looseOutput.remove "%%<< a >>".toList ++
          ("%% f %%".toList ++ looseOutput.remove "@@x@@".toList) := by
  intro text s u
  have hs : s.Spelled (ofKind .text) text.toList :=
    (Span.spelled_iff (delimited_ofKind .text)).mpr (by decide +kernel)
  have hu : u.Spelled (ofKind .file) text.toList :=
    (Span.spelled_iff (delimited_ofKind .file)).mpr (by decide +kernel)
  obtain ⟨hapart, hcut, hstrip⟩ := matches_apart text
  have hfiles : ∀ e ∈ [("f", "F")], e.1 ∈ (scan text).file :=
    List.forall_mem_singleton.mpr (by decide +kernel)
  have hcuts := hcut s hs _ hfiles
  have hstripped := hstrip .file (by decide) u hu
  rw [show text.toList.take s.start = "%%".toList by decide +kernel,
    show s.token.spelling = "<< a >>".toList by decide +kernel,
    show text.toList.drop s.stop = "%% f %%@@x@@".toList by decide +kernel] at hcuts
  rw [show text.toList.take u.start = "%%<< a >>".toList by decide +kernel,
    show u.token.spelling = "%% f %%".toList by decide +kernel,
    show text.toList.drop u.stop = "@@x@@".toList by decide +kernel] at hstripped
  exact ⟨hs, hu, hapart .text .file (by decide) _ (by decide) _ (by decide) s u hs hu, hcuts,
    hstripped⟩

/-- Delimiters of all kinds next to each other and inside each other, with placeholders that end
where one of another kind begins. -/
example :
    let text := "%%<< a >>%% f %%@@<<b>>@@ x @@%%"
    (scan text).file = ["f"] ∧ stripOutput text = "%%<< a >>%% f %%@@<<b>>%%" ∧
      (cutAfter [("f", "F")] 0 text.toList).first = "%%<< a >>".toList ∧
      (cutAfter [("f", "F")] 0 text.toList).later = [("F", "@@<<b>>@@ x @@%%".toList)] := by
  decide +kernel

end Placeholder

end PromptLibrary
